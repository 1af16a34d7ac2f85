import Circe.Websocket.LifecycleInvariant

/-!
# Websocket/SessionClosure — what becomes of a session that is closed

* `closed_for_good` — once the closure notification of a client has come up, no box has or will have
  a shadow session of it;
* `reports_own_closure` — what `handle_websocket_closure` is told about a client's session is what
  the client's last closure frame says, up to the first zero byte of its reason.
-/

namespace Circe.Websocket

open Protocol Gate Box

namespace Lifecycle

variable {boxOf : Uuid → ℕ} {x y : Lifecycle} {c : Uuid} {history : List LifecycleLabel}

/-! ## Closed for good -/

/-- The client's session is not to come, and not there. -/
structure Gone (x : Lifecycle) (c : Uuid) : Prop where
  asked : x.ofClient c WebsocketClient.asked = 1
  early : x.early c = 0
  attached : x.attached c = 0

theorem Gone.keeps (h : Gone x c) (hkeeps : Keeps boxOf x y) : Gone y c := by
  have hstep := hkeeps.balance.once c
  have hone := ofClient_le_one hkeeps.inv.uuids asked_le_one c
  have hasked := h.asked
  have hearly := h.early
  have hattached := h.attached
  exact ⟨by omega, by omega, by omega⟩

/-- What a gate was told, it stays told. -/
theorem Onward.established (h : Onward x y) {gateUuid boxUuid : Uuid} {client : WebsocketClient}
    (hclient : client ∈ x.clients)
    (hestablished : client.establishment = .established gateUuid boxUuid) :
    ∃ client' ∈ y.clients, client'.clientUuid = client.clientUuid ∧
      client'.establishment = .established gateUuid boxUuid := by
  obtain ⟨client', hclient', hevolves⟩ := h client hclient
  exact ⟨client', hclient', hevolves.clientUuid, hevolves.established gateUuid boxUuid hestablished⟩

/-- No box has a session of the client any more. -/
theorem LifecycleInv.attached_receive (h : LifecycleInv boxOf x) {p : ℕ} {boxUuid : Uuid}
    {ntfy : WebsocketClosureNotification}
    (hpacket : x.packets[p]? = some (.closureNotification boxUuid ntfy)) :
    (x.handle boxOf (.receive p)).2.attached ntfy.clientUuid = 0 := by
  simp only [Lifecycle.handle, hpacket, Packet.event?]
  rw [attached_eq_zero_iff]
  intro b hb s hs hc
  cases hbox : x.boxes[boxOf boxUuid]? with
  | some box =>
    rw [stepBox_take (show (Packet.closureNotification boxUuid ntfy).event? = _ from rfl) hbox]
      at hb
    obtain ⟨k, hk⟩ := List.mem_iff_getElem?.mp hb
    by_cases hsame : boxOf boxUuid = k
    · subst hsame
      rw [List.getElem?_set_self (List.getElem?_eq_some_iff.mp hbox).1] at hk
      obtain rfl := Option.some.inj hk
      exact (sessions_closure box ntfy.clientUuid ntfy.statusCode ntfy.reason).2 s hs hc
    · rw [List.getElem?_set_ne hsame] at hk
      exact hsame (h.at_box hpacket hk hs hc)
  | none =>
    have hnone : (x.take p).boxes[boxOf boxUuid]? = none := hbox
    simp only [stepBox, hnone] at hb
    obtain ⟨k, hk⟩ := List.mem_iff_getElem?.mp hb
    rw [h.at_box hpacket hk hs hc] at hbox
    exact absurd (hk.symm.trans hbox) (by simp)

theorem LifecycleInv.gone (h : LifecycleInv boxOf x) {l : LifecycleLabel}
    (hstep : Step boxOf x l y) {p : ℕ} (hevent : l.event = .receive p) {boxUuid : Uuid}
    {ntfy : WebsocketClosureNotification}
    (hpacket : x.packets[p]? = some (.closureNotification boxUuid ntfy)) :
    Gone y ntfy.clientUuid := by
  have hkeeps := h.step hstep
  obtain ⟨-, client, hclient, huuid, gateUuid, hestablished⟩ :=
    h.closures _ (List.mem_of_getElem? hpacket) boxUuid _ rfl
  obtain ⟨client', hclient', hsame, hestablished'⟩ := hkeeps.onward.established hclient hestablished
  have huuid' : client'.clientUuid = ntfy.clientUuid := hsame.trans huuid
  have hattached := h.attached_receive hpacket
  rw [← hevent, hstep.2] at hattached
  refine ⟨?_, hkeeps.inv.early_of_told (.inr ⟨client', hclient', huuid', gateUuid, hestablished'⟩),
    hattached⟩
  rw [← huuid', ofClient_eq hkeeps.inv.uuids _ hclient', WebsocketClient.asked, hestablished']

/-- **Closed for good.**  Once the closure notification of a client's session has come up at a box,
no box has a session of the client, nor will one ever attach one: not by a request that was
overtaken, nor by a servlet that has not ended. -/
theorem closed_for_good {boxes p : ℕ} (hpre : Lts.Run (Step boxOf) (start boxes) history x)
    {boxUuid : Uuid} {ntfy : WebsocketClosureNotification}
    (hpacket : x.packets[p]? = some (.closureNotification boxUuid ntfy)) {l : LifecycleLabel}
    (hevent : l.event = .receive p) (hstep : Step boxOf x l y) {future : List LifecycleLabel}
    {z : Lifecycle} (hpost : Lts.Run (Step boxOf) y future z) :
    ∀ box ∈ z.boxes, ∀ s, s ∈ box.pending ∨ s ∈ box.container.sessions →
      s.clientUuid ≠ ntfy.clientUuid := by
  have hinv := lifecycleInv_of_run hpre
  have hgone : LifecycleInv boxOf z ∧ Gone z ntfy.clientUuid := by
    refine hpost.invariant (I := fun z => LifecycleInv boxOf z ∧ Gone z ntfy.clientUuid) ?_
      ⟨(hinv.step hstep).inv, hinv.gone hstep hevent hpacket⟩
    intro y l z hy hstep
    have hkeeps := hy.1.step hstep
    exact ⟨hkeeps.inv, hy.2.keeps hkeeps⟩
  intro box hbox s hs
  rcases hs with hs | hs
  · exact pending_of_early hgone.2.early hbox hs
  · exact attached_eq_zero_iff.mp hgone.2.attached box hbox s hs

/-! ## What a closure is reported as -/

/-- What the closure frames of the `i`-th client of the gates say. -/
def closureFrames (history : List LifecycleLabel) (i : ℕ) : List Bytes :=
  history.filterMap fun l =>
    match l.event with
    | .controlMessage j opcode payload =>
      if j = i ∧ opcode = opcodeClose then some payload else none
    | _ => none

/-- The closure that `handle_websocket_closure` is told of by a sweep. -/
def gateLost : ℕ × Bytes := (statusGoingAway, asciiBytes "Connection to gate server was lost")

theorem closureFrames_snoc (history : List LifecycleLabel) (l : LifecycleLabel) (i : ℕ) :
    closureFrames (history ++ [l]) i = closureFrames history i ++ closureFrames [l] i :=
  List.filterMap_append

/-- What is passed to `handle_websocket_closure` of a reason that a notification has. -/
def passedOn (closure : ℕ × Bytes) : ℕ × Bytes := (closure.1, cString closure.2)

/-- **Who is told about a closure** is told by a closure notification, or by a sweep. -/
theorem closed_handle {box : Supervisor} {event : ShadowEvent} {s : ShadowSession} {statusCode : ℕ}
    {reason : Bytes} (hclosed : .closed s statusCode reason ∈ (box.handle event).1) :
    (∃ job ∈ box.jobs, ∃ closure, (s.clientUuid, closure) ∈ closing? job ∧
        (statusCode, reason) = passedOn closure) ∨
      (statusCode, reason) = gateLost := by
  have hdid := box.did_handle event
  generalize (box.handle event).1 = effects at hdid hclosed
  generalize (box.handle event).2 = box' at hdid
  cases hdid with
  | @closed i statusCode' badNumericCast session reason' hjob =>
    cases badNumericCast with
    | true => simp at hclosed
    | false =>
      obtain ⟨rfl, rfl, rfl⟩ : s = session ∧ statusCode = statusCode' ∧
          reason = cString reason' := by
        simpa using hclosed
      exact .inl ⟨_, List.mem_of_getElem? hjob, (statusCode, reason'), rfl, rfl⟩
  | closedSweeping hjob =>
    obtain ⟨-, rfl, rfl⟩ := ShadowEffect.closed.inj (List.mem_singleton.mp hclosed)
    exact .inr rfl
  | refused hjob hshuts | shut hshuts =>
    obtain ⟨_, _, _, heq⟩ := hshuts.effects _ hclosed
    cases heq
  | cleared hshuts =>
    rcases List.mem_append.mp hclosed with hmem | hmem
    · simp at hmem
    · obtain ⟨_, _, _, heq⟩ := hshuts.effects _ hmem
      cases heq
  | erased hjob hlast => simp at hclosed
  | _ => simp at hclosed

theorem closed_stepBox {k : ℕ} {event : ShadowEvent} {s : ShadowSession} {statusCode : ℕ}
    {reason : Bytes} (hclosed : .closed s statusCode reason ∈ (x.stepBox k event).1) :
    (∃ box ∈ x.boxes, ∃ job ∈ box.jobs, ∃ closure, (s.clientUuid, closure) ∈ closing? job ∧
        (statusCode, reason) = passedOn closure) ∨
      (statusCode, reason) = gateLost := by
  rw [stepBox] at hclosed
  split at hclosed
  case h_1 => cases hclosed
  case h_2 box hbox =>
    refine (closed_handle hclosed).imp_left fun hjob => ?_
    exact ⟨box, List.mem_of_getElem? hbox, hjob⟩

/-- A closure that is told of is that of a client whose session has been destroyed. -/
theorem LifecycleInv.closed (h : LifecycleInv boxOf x) {l : LifecycleLabel}
    (hstep : Step boxOf x l y) {s : ShadowSession} {statusCode : ℕ} {reason : Bytes}
    (hclosed : .closed s statusCode reason ∈ l.effects) :
    (∃ closure, x.Reports (s.clientUuid, closure) ∧ (statusCode, reason) = passedOn closure) ∨
      (statusCode, reason) = gateLost := by
  have heffects : l.effects = (x.handle boxOf l.event).1 := by rw [hstep.2]
  have hreports (hbox : (∃ box ∈ x.boxes, ∃ job ∈ box.jobs, ∃ closure,
        (s.clientUuid, closure) ∈ closing? job ∧ (statusCode, reason) = passedOn closure) ∨
      (statusCode, reason) = gateLost) :
      (∃ closure, x.Reports (s.clientUuid, closure) ∧ (statusCode, reason) = passedOn closure) ∨
        (statusCode, reason) = gateLost := by
    refine hbox.imp_left ?_
    rintro ⟨box, hbox, job, hjob, closure, hreport, hpassed⟩
    exact ⟨closure, h.closing box hbox job hjob _ hreport, hpassed⟩
  rw [heffects] at hclosed
  cases hevent : l.event with
  | box k event =>
    rw [hevent] at hclosed
    exact hreports (closed_stepBox hclosed)
  | receive p =>
    simp only [hevent, Lifecycle.handle] at hclosed
    split at hclosed
    case h_2 =>
      split at hclosed
      case h_1 => cases hclosed
      case h_2 => exact hreports (closed_stepBox (x := x.take p) hclosed)
    all_goals cases hclosed
  | _ =>
    simp only [hevent, Lifecycle.handle] at hclosed
    first
      | cases hclosed
      | split at hclosed <;> cases hclosed

/-- The `m_closure_reason` of the `i`-th client. -/
def reasonAt (x : Lifecycle) (i : ℕ) : Option (ℕ × Bytes) :=
  x.clients[i]?.bind WebsocketClient.closureReason

theorem reasonAt_setClient {j : ℕ} {client : WebsocketClient}
    (hclient : x.clients[j]? = some client) (client' : WebsocketClient) (i : ℕ) :
    (x.setClient j client').reasonAt i = if j = i then client'.closureReason else x.reasonAt i := by
  rw [reasonAt, setClient]
  split_ifs with hij
  · subst hij
    rw [List.getElem?_set_self (List.getElem?_eq_some_iff.mp hclient).1, Option.bind_some]
  · rw [List.getElem?_set_ne hij, reasonAt]

theorem reasonAt_of_mem {client : WebsocketClient} (hclient : client ∈ x.clients) :
    ∃ i, x.clients[i]? = some client ∧ x.reasonAt i = client.closureReason := by
  obtain ⟨i, hi⟩ := List.mem_iff_getElem?.mp hclient
  exact ⟨i, hi, by rw [reasonAt, hi, Option.bind_some]⟩

theorem reasonAt_accept (x : Lifecycle) (clientUuid : Uuid) (clientIp : Bytes) (i : ℕ) :
    reasonAt { x with clients := x.clients ++ [.new clientUuid clientIp] } i = x.reasonAt i := by
  simp only [reasonAt]
  rcases Nat.lt_trichotomy i x.clients.length with hlt | heq | hgt
  · rw [List.getElem?_append_left hlt]
  · subst heq
    rw [List.getElem?_concat_length, List.getElem?_eq_none le_rfl]
    rfl
  · rw [List.getElem?_eq_none hgt.le, List.getElem?_eq_none]
    rw [List.length_append]
    exact hgt

theorem reasonAt_respond (x : Lifecycle) (clientUuid boxUuid : Uuid) (i : ℕ) :
    (x.respond clientUuid boxUuid).reasonAt i = x.reasonAt i := by
  simp only [reasonAt, Lifecycle.respond, List.getElem?_map]
  cases x.clients[i]? with
  | none => rfl
  | some client =>
    simp only [Option.map_some, Option.bind_some]
    split_ifs
    · rw [WebsocketClient.onEstablished]
      split <;> rfl
    · rfl

theorem reasonAt_stepBox (x : Lifecycle) (k : ℕ) (event : ShadowEvent) (i : ℕ) :
    (x.stepBox k event).2.reasonAt i = x.reasonAt i := by
  rw [stepBox]
  split <;> rfl

/-- **A closure frame counts until the next one comes.** -/
theorem reasonAt_handle {event : LifecycleEvent} (henabled : x.Enabled event) (i : ℕ)
    (effects : List ShadowEffect) :
    (x.handle boxOf event).2.reasonAt i
      = ((closureFrames [⟨event, effects⟩] i).getLast?.map closureReasonOf).or (x.reasonAt i) := by
  have hsame {j : ℕ} {client client' : WebsocketClient} (hclient : x.clients[j]? = some client)
      (hreason : client'.closureReason = client.closureReason) :
      (x.setClient j client').reasonAt i = x.reasonAt i := by
    rw [reasonAt_setClient hclient]
    split_ifs with hij
    · rw [hreason, reasonAt, ← hij, hclient, Option.bind_some]
    · rfl
  cases event with
  | accept clientUuid clientIp => exact reasonAt_accept x clientUuid clientIp i
  | authenticated j gateUuid authToken decodedUri params =>
    obtain ⟨client, hclient, -⟩ := (Option.any_eq_true ..).mp henabled
    simp only [Lifecycle.handle, hclient]
    exact hsame hclient rfl
  | fail j =>
    obtain ⟨client, hclient, -⟩ := (Option.any_eq_true ..).mp henabled
    simp only [Lifecycle.handle, hclient]
    exact hsame hclient rfl
  | controlMessage j opcode payload =>
    obtain ⟨client, hclient, -⟩ := (Option.any_eq_true ..).mp henabled
    simp only [Lifecycle.handle, hclient, closureFrames, WebsocketClient.onSyncControlMessage]
    by_cases hopcode : opcode = opcodeClose
    · rw [if_pos hopcode, reasonAt_setClient hclient]
      by_cases hij : j = i <;> simp [hij, hopcode]
    · rw [if_neg hopcode, hsame hclient rfl]
      simp [hopcode]
  | destroy j foyerConn =>
    obtain ⟨client, hclient, -⟩ := (Option.any_eq_true ..).mp henabled
    simp only [Lifecycle.handle, hclient]
    exact hsame hclient rfl
  | lose p => rfl
  | foyer p boxUuid boxConn =>
    obtain ⟨packet, hpacket, -⟩ := (Option.any_eq_true ..).mp henabled
    simp only [Lifecycle.handle, hpacket]
    rfl
  | receive p =>
    simp only [Lifecycle.handle]
    split
    · exact reasonAt_respond (x.take p) _ _ i
    · split
      · rfl
      · exact reasonAt_stepBox (x.take p) _ _ i
    · rfl
  | box k event => exact reasonAt_stepBox x k event i

/-- **What a session reports** is what the last closure frame of its client says. -/
theorem reasonAt_of_run {boxes : ℕ} (h : Lts.Run (Step boxOf) (start boxes) history x) (i : ℕ) :
    x.reasonAt i = (closureFrames history i).getLast?.map closureReasonOf := by
  refine h.historyInvariant
    (J := fun history x => x.reasonAt i = (closureFrames history i).getLast?.map closureReasonOf)
    ?_ rfl
  intro history x l y hx hstep
  have hafter : (x.handle boxOf l.event).2.reasonAt i = _ := reasonAt_handle hstep.1 i l.effects
  rw [hstep.2] at hafter
  rw [hafter, hx, closureFrames_snoc, List.getLast?_append]
  cases (closureFrames [l] i).getLast? <;> rfl

/-- **A closure is reported as the client's own.**  Where `handle_websocket_closure` is told about
the closure of a client's session, a sweep lost its gate server; or the session has been destroyed,
and what is told is what the client's last closure frame said, if there was one, its reason up to
the first zero byte. -/
theorem reports_own_closure {boxes : ℕ} (h : Lts.Run (Step boxOf) (start boxes) history x)
    {l : LifecycleLabel} (hl : l ∈ history) {s : ShadowSession} {statusCode : ℕ} {reason : Bytes}
    (hclosed : .closed s statusCode reason ∈ l.effects) :
    (statusCode, reason) = gateLost ∨
      ∃ i client, x.clients[i]? = some client ∧ client.clientUuid = s.clientUuid ∧
        client.destroyed = true ∧
        (statusCode, reason) = passedOn (((closureFrames history i).getLast?.map
          closureReasonOf).getD
            (statusReservedAbnormal, asciiBytes "No closure frame received")) := by
  obtain ⟨pre, post, rfl⟩ := List.append_of_mem hl
  obtain ⟨y, z, hpre, hstep, hpost⟩ := h.split
  have hy := lifecycleInv_of_run hpre
  rcases hy.closed hstep hclosed with ⟨closure, hreports, hpassed⟩ | hlost
  · have hfinal : LifecycleInv boxOf x ∧ x.Reports (s.clientUuid, closure) := by
      refine hpost.invariant
        (I := fun x => LifecycleInv boxOf x ∧ x.Reports (s.clientUuid, closure)) ?_
        ⟨(hy.step hstep).inv, (hy.step hstep).onward.reports hreports⟩
      intro x l y hx hstep
      exact ⟨(hx.1.step hstep).inv, (hx.1.step hstep).onward.reports hx.2⟩
    obtain ⟨client, hclient, huuid, hdestroyed, hclosure⟩ := hfinal.2
    obtain ⟨i, hi, hreason⟩ := reasonAt_of_mem hclient
    refine .inr ⟨i, client, hi, huuid, hdestroyed, ?_⟩
    rw [hpassed, ← reasonAt_of_run h, hreason]
    exact congrArg passedOn hclosure.symm
  · exact .inl hlost

/-! ## Two clients at one box -/

/-- Connection 20 goes to the first box. -/
def trialBoxOf (boxUuid : Uuid) : ℕ := if boxUuid = 20 then 0 else 1

/-- The session of client 7 is established, and a closure frame comes from it, with a zero byte in
its reason; that of client 8 is being established at the same box. -/
def lifecycleTrial : List LifecycleEvent :=
  [.accept 7 [], .authenticated 0 5 [] [] [], .foyer 0 20 true, .receive 0,
    .box 0 (.attachSession 0 none), .foyer 0 20 true, .receive 0, .accept 8 [],
    .authenticated 1 5 [] [] [], .foyer 0 20 true, .receive 0,
    .controlMessage 0 8 [3, 233, 33, 0, 33], .destroy 0 true, .foyer 0 20 true]

/-- The closure is reported while the other session is attached. -/
def lifecycleRest : List LifecycleEvent :=
  [.box 0 (.markShutdown 2), .box 0 (.attachSession 1 none),
    .box 0 (.handleWebsocketClosure 2 false)]

/-- The closure notification is on its way to the box. -/
def lifecycleNotified : Lifecycle := Lts.final (next trialBoxOf) (start 2) lifecycleTrial

theorem closed_for_good_trial :
    lifecycleNotified.packets[0]? = some (.closureNotification 20 ⟨5, 7, 1001, [33, 0, 33]⟩) ∧
      ∀ box ∈ (Lts.final (next trialBoxOf) lifecycleNotified (.receive 0 :: lifecycleRest)).boxes,
        ∀ s, s ∈ box.pending ∨ s ∈ box.container.sessions → s.clientUuid ≠ 7 := by
  have hpre : Lts.Run (Step trialBoxOf) (start 2)
      (Lts.trace (next trialBoxOf) (start 2) lifecycleTrial) lifecycleNotified :=
    Lts.Run.of_admits _ Enabled (fun h => ⟨h, rfl⟩) _ lifecycleTrial (by decide +kernel)
  have hpacket : lifecycleNotified.packets[0]?
      = some (.closureNotification 20 ⟨5, 7, 1001, [33, 0, 33]⟩) := by decide +kernel
  have hrest : Lts.Admits (next trialBoxOf) Enabled lifecycleNotified
      (.receive 0 :: lifecycleRest) := by decide +kernel
  have hstep : Step trialBoxOf lifecycleNotified
      (next trialBoxOf lifecycleNotified (.receive 0)).1
      (next trialBoxOf lifecycleNotified (.receive 0)).2 := ⟨hrest.1, rfl⟩
  exact ⟨hpacket, closed_for_good hpre hpacket rfl hstep
    (Lts.Run.of_admits _ Enabled (fun h => ⟨h, rfl⟩) _ lifecycleRest hrest.2)⟩

theorem reports_own_closure_trial :
    ∃ i client, (Lts.final (next trialBoxOf) (start 2)
        (lifecycleTrial ++ .receive 0 :: lifecycleRest)).clients[i]? = some client ∧
      client.clientUuid = 7 ∧ client.destroyed = true ∧
      (1001, [33]) = passedOn (((closureFrames (Lts.trace (next trialBoxOf) (start 2)
          (lifecycleTrial ++ .receive 0 :: lifecycleRest)) i).getLast?.map closureReasonOf).getD
        (statusReservedAbnormal, asciiBytes "No closure frame received")) := by
  have hrun : Lts.Run (Step trialBoxOf) (start 2)
      (Lts.trace (next trialBoxOf) (start 2) (lifecycleTrial ++ .receive 0 :: lifecycleRest)) _ :=
    Lts.Run.of_admits _ Enabled (fun h => ⟨h, rfl⟩) _ _ (by decide +kernel)
  have hclosed : (⟨.box 0 (.handleWebsocketClosure 2 false),
      [.closed ⟨0, 20, 5, 7, [], []⟩ 1001 [33]]⟩ : LifecycleLabel)
      ∈ Lts.trace (next trialBoxOf) (start 2) (lifecycleTrial ++ .receive 0 :: lifecycleRest) := by
    decide +kernel
  exact (reports_own_closure hrun hclosed (List.mem_singleton_self _)).resolve_left
    (by decide +kernel)

end Lifecycle

end Circe.Websocket
