import Circe.Websocket.Lifecycle

/-!
# Websocket/LifecycleInvariant — where the sessions of a client may be

A session of a client is asked for once; so of the request, the session that is to be attached and
the session that is attached there is at most one, over all that is on its way and all the boxes.
Where a gate has been told of a session it is told of the connection that the session is on, and
then there is nothing more to come.

* `LifecycleInv.handle` — every step keeps this;
* `lifecycleInv_of_run` — it holds in every state reached.
-/

namespace Circe.Websocket

open Protocol Gate Box

/-! ## The invariant -/

namespace WebsocketClient

/-- The client's foyer server was asked for a box, once. -/
def asked (client : WebsocketClient) : ℕ :=
  match client.establishment with
  | .authenticating => 0
  | _ => 1

/-- A response may still be there for it. -/
def awaited (client : WebsocketClient) : ℕ :=
  match client.establishment with
  | .establishing _ | .failed => 1
  | _ => 0

end WebsocketClient

namespace Lifecycle

/-- What is summed up over the clients of this UUID. -/
def ofClient (x : Lifecycle) (c : Uuid) (f : WebsocketClient → ℕ) : ℕ :=
  (x.clients.map fun client => if client.clientUuid = c then f client else 0).sum

/-- The requests to establish this client's session, before `attach_session`. -/
def early (x : Lifecycle) (c : Uuid) : ℕ :=
  x.packets.countP (Packet.requests c)
    + (x.boxes.map fun box => box.pending.countP (isOf c)).sum

/-- The responses to them. -/
def answers (x : Lifecycle) (c : Uuid) : ℕ := x.packets.countP (Packet.responds c)

/-- The shadow sessions of this client in the containers. -/
def attached (x : Lifecycle) (c : Uuid) : ℕ :=
  (x.boxes.map fun box => box.container.sessions.countP (isOf c)).sum

/-- The shadow sessions of this client are on the connection with this UUID. -/
def HostedBy (x : Lifecycle) (c boxUuid : Uuid) : Prop :=
  ∀ box ∈ x.boxes, ∀ s ∈ box.container.sessions, s.clientUuid = c → s.foyerUuid = boxUuid

/-- A client's session has been destroyed, and had this to report. -/
def Reports (x : Lifecycle) (report : Uuid × ℕ × Bytes) : Prop :=
  ∃ client ∈ x.clients, client.clientUuid = report.1 ∧ client.destroyed = true ∧
    client.closure = report.2

/-- Where a session is established, as its gate is told or has been told. -/
def Told (x : Lifecycle) (c boxUuid : Uuid) : Prop :=
  (∃ packet ∈ x.packets, packet.told? = some (c, boxUuid)) ∨
  ∃ client ∈ x.clients, client.clientUuid = c ∧
    ∃ gateUuid, client.establishment = .established gateUuid boxUuid

structure LifecycleInv (boxOf : Uuid → ℕ) (x : Lifecycle) : Prop where
  uuids : (x.clients.map WebsocketClient.clientUuid).Nodup
  owned : ∀ box ∈ x.boxes, ∃ effects, Supervisor.OwnedOnce effects box
  once : ∀ c, x.early c + x.attached c ≤ x.ofClient c WebsocketClient.asked
  awaited : ∀ c, x.early c + x.answers c ≤ x.ofClient c WebsocketClient.awaited
  place : ∀ k box, x.boxes[k]? = some box →
    ∀ s, s ∈ box.pending ∨ s ∈ box.container.sessions → boxOf s.foyerUuid = k
  hosted : ∀ c boxUuid, x.Told c boxUuid → x.HostedBy c boxUuid
  closures : ∀ packet ∈ x.packets, ∀ boxUuid report, packet.closure? = some (boxUuid, report) →
    x.Reports report ∧ ∃ client ∈ x.clients, client.clientUuid = report.1 ∧
      ∃ gateUuid, client.establishment = .established gateUuid boxUuid
  closing : ∀ box ∈ x.boxes, ∀ job ∈ box.jobs, ∀ report ∈ closing? job, x.Reports report

variable {boxOf : Uuid → ℕ} {x y : Lifecycle} {c : Uuid}

theorem ofClient_eq (huuids : (x.clients.map WebsocketClient.clientUuid).Nodup)
    (f : WebsocketClient → ℕ) {client : WebsocketClient} (hclient : client ∈ x.clients) :
    x.ofClient client.clientUuid f = f client :=
  Tally.sum_key WebsocketClient.clientUuid f huuids hclient

theorem ofClient_eq_zero (f : WebsocketClient → ℕ)
    (h : ∀ client ∈ x.clients, client.clientUuid ≠ c) : x.ofClient c f = 0 := by
  rw [ofClient, List.sum_eq_zero]
  intro n hn
  obtain ⟨client, hclient, rfl⟩ := List.mem_map.mp hn
  exact if_neg (h client hclient)

/-- A client is asked for, and awaited, at most once. -/
theorem ofClient_le_one (huuids : (x.clients.map WebsocketClient.clientUuid).Nodup)
    {f : WebsocketClient → ℕ} (hf : ∀ client, f client ≤ 1) (c : Uuid) : x.ofClient c f ≤ 1 := by
  by_cases hc : ∃ client ∈ x.clients, client.clientUuid = c
  · obtain ⟨client, hclient, rfl⟩ := hc
    rw [ofClient_eq huuids f hclient]
    exact hf client
  · rw [ofClient_eq_zero f fun client hclient heq => hc ⟨client, hclient, heq⟩]
    exact Nat.zero_le 1

theorem asked_le_one (client : WebsocketClient) : client.asked ≤ 1 := by
  cases h : client.establishment <;> simp [WebsocketClient.asked, h]

theorem awaited_le_one (client : WebsocketClient) : client.awaited ≤ 1 := by
  cases h : client.establishment <;> simp [WebsocketClient.awaited, h]

/-- **A gate that was told** where a session is established has no more to come. -/
theorem LifecycleInv.early_of_told (h : LifecycleInv boxOf x) {boxUuid : Uuid}
    (htold : x.Told c boxUuid) : x.early c = 0 := by
  have hawaited := h.awaited c
  have hone := ofClient_le_one h.uuids awaited_le_one c
  rcases htold with ⟨packet, hpacket, hresponse⟩ | ⟨client, hclient, rfl, gateUuid, hestablished⟩
  · have hanswers : 0 < x.answers c :=
      List.countP_pos_iff.mpr ⟨packet, hpacket, Packet.responds_of_told hresponse⟩
    omega
  · have hnone : client.awaited = 0 := by rw [WebsocketClient.awaited, hestablished]
    rw [ofClient_eq h.uuids _ hclient, hnone] at hawaited
    omega

theorem pending_of_early (hearly : x.early c = 0) {box : Supervisor} (hbox : box ∈ x.boxes)
    {s : ShadowSession} (hs : s ∈ box.pending) : s.clientUuid ≠ c := by
  intro heq
  have hpos : 0 < box.pending.countP (isOf c) :=
    List.countP_pos_iff.mpr ⟨s, hs, decide_eq_true heq⟩
  have hle := Tally.le_sum (fun box : Supervisor => box.pending.countP (isOf c)) hbox
  rw [early] at hearly
  omega

theorem attached_eq_zero_iff :
    x.attached c = 0 ↔ ∀ box ∈ x.boxes, ∀ s ∈ box.container.sessions, s.clientUuid ≠ c := by
  constructor
  · intro hnone box hbox s hs heq
    have hpos : 0 < box.container.sessions.countP (isOf c) :=
      List.countP_pos_iff.mpr ⟨s, hs, decide_eq_true heq⟩
    have hle := Tally.le_sum (fun box : Supervisor => box.container.sessions.countP (isOf c)) hbox
    rw [attached] at hnone
    omega
  · intro hnone
    rw [attached, List.sum_eq_zero]
    intro n hn
    obtain ⟨box, hbox, rfl⟩ := List.mem_map.mp hn
    refine List.countP_eq_zero.mpr fun s hs => ?_
    simpa [isOf] using hnone box hbox s hs

/-! ### What a step moves -/

/-- **The balance of a step**: what is on its way to a container, or to a gate, is what was asked
for. -/
structure Balance (x y : Lifecycle) : Prop where
  once : ∀ c, y.early c + y.attached c + x.ofClient c WebsocketClient.asked
    ≤ x.early c + x.attached c + y.ofClient c WebsocketClient.asked
  awaited : ∀ c, y.early c + y.answers c + x.ofClient c WebsocketClient.awaited
    ≤ x.early c + x.answers c + y.ofClient c WebsocketClient.awaited

/-- A client goes on; a session that was destroyed, or established, stays as it is. -/
structure Evolves (client client' : WebsocketClient) : Prop where
  clientUuid : client'.clientUuid = client.clientUuid
  destroyed : client.destroyed = true →
    client'.destroyed = true ∧ client'.closureReason = client.closureReason
  established : ∀ gateUuid boxUuid, client.establishment = .established gateUuid boxUuid →
    client'.establishment = .established gateUuid boxUuid

theorem Evolves.refl (client : WebsocketClient) : Evolves client client :=
  ⟨rfl, fun h => ⟨h, rfl⟩, fun _ _ h => h⟩

/-- Clients may come, and those there are go on. -/
def Onward (x y : Lifecycle) : Prop :=
  ∀ client ∈ x.clients, ∃ client' ∈ y.clients, Evolves client client'

/-- A step that keeps the invariant, and its balance. -/
structure Keeps (boxOf : Uuid → ℕ) (x y : Lifecycle) : Prop where
  inv : LifecycleInv boxOf y
  balance : Balance x y
  onward : Onward x y

theorem Onward.of_set {i : ℕ} {client client' : WebsocketClient}
    (hclient : x.clients[i]? = some client) (hevolves : Evolves client client')
    (hy : y.clients = x.clients.set i client') : Onward x y := by
  intro other hother
  obtain ⟨j, hj⟩ := List.mem_iff_getElem?.mp hother
  by_cases hij : i = j
  · subst hij
    obtain rfl := Option.some.inj (hclient.symm.trans hj)
    refine ⟨client', ?_, hevolves⟩
    rw [hy]
    exact List.mem_iff_getElem?.mpr ⟨i, List.getElem?_set_self (List.getElem?_eq_some_iff.mp hj).1⟩
  · refine ⟨other, ?_, .refl other⟩
    rw [hy]
    exact List.mem_iff_getElem?.mpr ⟨j, (List.getElem?_set_ne hij).trans hj⟩

theorem Onward.of_same (hy : y.clients = x.clients) : Onward x y := fun client hclient =>
  ⟨client, hy ▸ hclient, .refl client⟩

theorem Onward.reports (h : Onward x y) {report : Uuid × ℕ × Bytes} (hx : x.Reports report) :
    y.Reports report := by
  obtain ⟨client, hclient, huuid, hdestroyed, hclosure⟩ := hx
  obtain ⟨client', hclient', hevolves⟩ := h client hclient
  obtain ⟨hdestroyed', hreason⟩ := hevolves.destroyed hdestroyed
  refine ⟨client', hclient', hevolves.clientUuid.trans huuid, hdestroyed', ?_⟩
  rw [WebsocketClient.closure, hreason]
  exact hclosure

/-- **A step of the gates or the foyer server** keeps the invariant where it keeps its balance. -/
theorem LifecycleInv.of_gate (h : LifecycleInv boxOf x) (hboxes : y.boxes = x.boxes)
    (honward : Onward x y) (huuids : (y.clients.map WebsocketClient.clientUuid).Nodup)
    (hbalance : Balance x y) (htold : ∀ c boxUuid, y.Told c boxUuid → x.Told c boxUuid)
    (hclosures : ∀ packet ∈ y.packets, ∀ boxUuid report, packet.closure? = some (boxUuid, report) →
      (∃ packet' ∈ x.packets, packet'.closure? = some (boxUuid, report)) ∨
      y.Reports report ∧ ∃ client ∈ y.clients, client.clientUuid = report.1 ∧
        ∃ gateUuid, client.establishment = .established gateUuid boxUuid) :
    Keeps boxOf x y := by
  refine ⟨⟨huuids, hboxes ▸ h.owned, fun c => ?_, fun c => ?_, hboxes ▸ h.place,
    fun c boxUuid hy => ?_, fun packet hpacket boxUuid report hreport => ?_, ?_⟩, hbalance, honward⟩
  · have hbefore := h.once c
    have hstep := hbalance.once c
    omega
  · have hbefore := h.awaited c
    have hstep := hbalance.awaited c
    omega
  · rw [HostedBy, hboxes]
    exact h.hosted c boxUuid (htold c boxUuid hy)
  · rcases hclosures packet hpacket boxUuid report hreport with ⟨packet', hpacket', hsame⟩ | hnew
    · obtain ⟨hreports, client, hclient, huuid, gateUuid, hestablished⟩ :=
        h.closures packet' hpacket' boxUuid report hsame
      obtain ⟨client', hclient', hevolves⟩ := honward client hclient
      exact ⟨honward.reports hreports, client', hclient', hevolves.clientUuid.trans huuid, gateUuid,
        hevolves.established gateUuid boxUuid hestablished⟩
    · exact hnew
  · rw [hboxes]
    exact fun box hbox job hjob report hreport =>
      honward.reports (h.closing box hbox job hjob report hreport)

/-! ### The gates and the foyer server -/

/-- A client in the place of another one. -/
theorem ofClient_setClient {i : ℕ} {client client' : WebsocketClient}
    (hclient : x.clients[i]? = some client) (huuid : client'.clientUuid = client.clientUuid)
    (f : WebsocketClient → ℕ) (c : Uuid) :
    (x.setClient i client').ofClient c f + (if client.clientUuid = c then f client else 0)
      = x.ofClient c f + (if client.clientUuid = c then f client' else 0) := by
  have hsum := Tally.sum_set_add
    (fun client => if client.clientUuid = c then f client else 0) hclient client'
  rw [huuid] at hsum
  exact hsum

theorem uuids_setClient {i : ℕ} {client client' : WebsocketClient}
    (hclient : x.clients[i]? = some client) (huuid : client'.clientUuid = client.clientUuid) :
    (x.setClient i client').clients.map WebsocketClient.clientUuid
      = x.clients.map WebsocketClient.clientUuid := by
  obtain ⟨hlt, rfl⟩ := List.getElem?_eq_some_iff.mp hclient
  simp only [setClient, List.map_set, huuid]
  refine List.ext_getElem (by simp) fun j h₁ h₂ => ?_
  by_cases hij : i = j
  · subst hij
    simp
  · simp [hij]

theorem early_send (x : Lifecycle) (packets : List Packet) (c : Uuid) :
    (x.send packets).early c = x.early c + packets.countP (Packet.requests c) := by
  simp only [early, send, List.countP_append]
  omega

theorem answers_send (x : Lifecycle) (packets : List Packet) (c : Uuid) :
    (x.send packets).answers c = x.answers c + packets.countP (Packet.responds c) :=
  List.countP_append

theorem early_take {p : ℕ} {packet : Packet} (hpacket : x.packets[p]? = some packet) (c : Uuid) :
    (x.take p).early c + [packet].countP (Packet.requests c) = x.early c := by
  have herase := Tally.countP_eraseIdx_add (Packet.requests c) hpacket
  simp only [early, take]
  omega

theorem answers_take {p : ℕ} {packet : Packet} (hpacket : x.packets[p]? = some packet) (c : Uuid) :
    (x.take p).answers c + [packet].countP (Packet.responds c) = x.answers c :=
  Tally.countP_eraseIdx_add (Packet.responds c) hpacket

/-- **A client of a gate goes on**, and may send something. -/
theorem LifecycleInv.setClient (h : LifecycleInv boxOf x) {i : ℕ} {client client' : WebsocketClient}
    (hclient : x.clients[i]? = some client) (hevolves : Evolves client client')
    (packets : List Packet)
    (hbalance : packets.countP (Packet.requests client.clientUuid) + client.asked ≤ client'.asked ∧
      packets.countP (Packet.requests client.clientUuid) + client.awaited ≤ client'.awaited)
    (hother : ∀ c, c ≠ client.clientUuid → packets.countP (Packet.requests c) = 0)
    (hno : ∀ packet ∈ packets, packet.told? = none ∧ ∀ c, packet.responds c = false)
    (htold : ∀ gateUuid boxUuid, client'.establishment = .established gateUuid boxUuid →
      client.establishment = .established gateUuid boxUuid)
    (hclosures : ∀ packet ∈ packets, ∀ boxUuid report, packet.closure? = some (boxUuid, report) →
      report = (client'.clientUuid, client'.closure) ∧ client'.destroyed = true ∧
        ∃ gateUuid, client'.establishment = .established gateUuid boxUuid) :
    Keeps boxOf x ((x.setClient i client').send packets) := by
  have hmem : client' ∈ (x.setClient i client').clients :=
    List.mem_iff_getElem?.mpr
      ⟨i, List.getElem?_set_self (List.getElem?_eq_some_iff.mp hclient).1⟩
  refine h.of_gate rfl (.of_set hclient hevolves rfl) ?_ ⟨fun c => ?_, fun c => ?_⟩ ?_ ?_
  · exact (uuids_setClient hclient hevolves.clientUuid).symm ▸ h.uuids
  · have hsum := ofClient_setClient hclient hevolves.clientUuid WebsocketClient.asked c
    rw [early_send]
    change x.early c + _ + x.attached c + _
      ≤ _ + (x.setClient i client').ofClient c WebsocketClient.asked
    by_cases hc : client.clientUuid = c
    · subst hc
      rw [if_pos rfl, if_pos rfl] at hsum
      omega
    · rw [if_neg hc, if_neg hc] at hsum
      rw [hother c (Ne.symm hc)]
      omega
  · have hsum := ofClient_setClient hclient hevolves.clientUuid WebsocketClient.awaited c
    have hnone : packets.countP (Packet.responds c) = 0 :=
      List.countP_eq_zero.mpr fun packet hpacket => by simp [(hno packet hpacket).2 c]
    rw [early_send, answers_send, hnone]
    change x.early c + _ + (x.answers c + 0) + _
      ≤ _ + (x.setClient i client').ofClient c WebsocketClient.awaited
    by_cases hc : client.clientUuid = c
    · subst hc
      rw [if_pos rfl, if_pos rfl] at hsum
      omega
    · rw [if_neg hc, if_neg hc] at hsum
      rw [hother c (Ne.symm hc)]
      omega
  · rintro c boxUuid (⟨packet, hpacket, hresponse⟩ | ⟨other, hmem', rfl, gateUuid, hestablished⟩)
    · rcases List.mem_append.mp hpacket with hold | hnew
      · exact .inl ⟨packet, hold, hresponse⟩
      · exact absurd ((hno packet hnew).1.symm.trans hresponse) (by simp)
    · rcases List.mem_or_eq_of_mem_set hmem' with hold | rfl
      · exact .inr ⟨other, hold, rfl, gateUuid, hestablished⟩
      · exact .inr ⟨client, List.mem_of_getElem? hclient, hevolves.clientUuid.symm, gateUuid,
          htold gateUuid boxUuid hestablished⟩
  · intro packet hpacket boxUuid report hreport
    rcases List.mem_append.mp hpacket with hold | hnew
    · exact .inl ⟨packet, hold, hreport⟩
    · obtain ⟨rfl, hdestroyed, hestablished⟩ := hclosures packet hnew boxUuid report hreport
      exact .inr ⟨⟨client', hmem, rfl, hdestroyed, rfl⟩, client', hmem, rfl, hestablished⟩

theorem like_throughFoyer {packet packet' : Packet} {boxUuid : Uuid} {boxConn : Bool}
    (h : packet.throughFoyer boxUuid boxConn = some packet') : packet.Like packet' := by
  cases packet with
  | establishmentRequestToBox gateUuid req =>
    simp only [Packet.throughFoyer] at h
    split at h
    · obtain rfl := Option.some.inj h
      exact ⟨fun _ => rfl, fun _ => rfl, rfl, rfl⟩
    · cases h
  | establishmentResponse boxUuid clientUuid =>
    obtain rfl := Option.some.inj h
    exact ⟨fun _ => rfl, fun _ => rfl, rfl, rfl⟩
  | closureNotificationToBox gateUuid ntfy =>
    simp only [Packet.throughFoyer] at h
    split at h
    · obtain rfl := Option.some.inj h
      exact ⟨fun _ => rfl, fun _ => rfl, rfl, rfl⟩
    · cases h
  | _ => cases h

/-- **A packet goes on, or is lost.** -/
theorem LifecycleInv.pass (h : LifecycleInv boxOf x) {p : ℕ} {packet : Packet}
    (hpacket : x.packets[p]? = some packet) (onward : Option Packet)
    (honward : ∀ packet', onward = some packet' → packet.Like packet') :
    Keeps boxOf x ((x.take p).send onward.toList) := by
  have hless (q : Packet → Bool) (hq : ∀ packet', packet.Like packet' → q packet' = q packet) :
      onward.toList.countP q ≤ [packet].countP q := by
    cases honw : onward with
    | none => exact Nat.zero_le _
    | some packet' => simp [hq packet' (honward packet' honw)]
  have hfrom {q : Packet} (hq : q ∈ x.packets.eraseIdx p ++ onward.toList) :
      ∃ q' ∈ x.packets, q'.Like q := by
    rcases List.mem_append.mp hq with hold | hnew
    · exact ⟨q, List.mem_of_mem_eraseIdx hold, fun _ => rfl, fun _ => rfl, rfl, rfl⟩
    · exact ⟨packet, List.mem_of_getElem? hpacket, honward q (Option.mem_toList.mp hnew)⟩
  refine h.of_gate rfl (.of_same rfl) h.uuids ⟨fun c => ?_, fun c => ?_⟩ ?_ ?_
  · have htake := early_take hpacket c
    have hreq := hless (Packet.requests c) fun _ hlike => hlike.requests c
    rw [early_send]
    change _ + x.attached c + _ ≤ x.early c + x.attached c + x.ofClient c WebsocketClient.asked
    omega
  · have htake := early_take hpacket c
    have htake' := answers_take hpacket c
    have hreq := hless (Packet.requests c) fun _ hlike => hlike.requests c
    have hresp := hless (Packet.responds c) fun _ hlike => hlike.responds c
    rw [early_send, answers_send]
    change _ + _ + _ ≤ x.early c + x.answers c + x.ofClient c WebsocketClient.awaited
    omega
  · rintro c boxUuid (⟨q, hq, htold⟩ | hclient)
    · obtain ⟨q', hq', hlike⟩ := hfrom hq
      exact .inl ⟨q', hq', hlike.told? ▸ htold⟩
    · exact .inr hclient
  · intro q hq boxUuid report hreport
    obtain ⟨q', hq', hlike⟩ := hfrom hq
    exact .inl ⟨q', hq', hlike.closure? ▸ hreport⟩

theorem LifecycleInv.take (h : LifecycleInv boxOf x) {p : ℕ} {packet : Packet}
    (hpacket : x.packets[p]? = some packet) : Keeps boxOf x (x.take p) := by
  have hlost := h.pass hpacket none (fun _ hnone => by cases hnone)
  simpa [send] using hlost

/-- A new client was asked for by nobody. -/
theorem LifecycleInv.accept (h : LifecycleInv boxOf x) {clientUuid : Uuid} (clientIp : Bytes)
    (hfresh : clientUuid ∉ x.clients.map WebsocketClient.clientUuid) :
    Keeps boxOf x { x with clients := x.clients ++ [.new clientUuid clientIp] } := by
  have hsum (f : WebsocketClient → ℕ) (hf : f (.new clientUuid clientIp) = 0) (c : Uuid) :
      ofClient { x with clients := x.clients ++ [.new clientUuid clientIp] } c f
        = x.ofClient c f := by
    simp [ofClient, hf]
  refine h.of_gate rfl (fun client hclient => ⟨client, List.mem_append_left _ hclient, .refl _⟩)
    ?_ ⟨fun c => ?_, fun c => ?_⟩ ?_
    fun packet hpacket _ _ hreport => .inl ⟨packet, hpacket, hreport⟩
  · rw [List.map_append, List.nodup_append]
    refine ⟨h.uuids, by simp, ?_⟩
    rintro a ha b hb rfl
    have hsame : a = clientUuid := by simpa [WebsocketClient.new] using hb
    exact hfresh (hsame ▸ ha)
  · rw [hsum _ rfl]
    exact le_rfl
  · rw [hsum _ rfl]
    exact le_rfl
  · rintro c boxUuid (hpacket | ⟨client, hclient, hrest⟩)
    · exact .inl hpacket
    · rcases List.mem_append.mp hclient with hold | hnew
      · exact .inr ⟨client, hold, hrest⟩
      · obtain rfl := List.mem_singleton.mp hnew
        obtain ⟨-, gateUuid, hestablished⟩ := hrest
        cases hestablished

theorem evolves_onEstablished (client : WebsocketClient) (boxUuid : Uuid) :
    Evolves client (client.onEstablished boxUuid) ∧
      (client.onEstablished boxUuid).asked = client.asked ∧
      ∀ gateUuid u, (client.onEstablished boxUuid).establishment = .established gateUuid u →
        client.establishment = .established gateUuid u ∨ u = boxUuid := by
  rw [WebsocketClient.onEstablished]
  split
  case h_1 gateUuid hestablishing =>
    refine ⟨⟨rfl, fun hdestroyed => ⟨hdestroyed, rfl⟩, fun _ _ h => ?_⟩, ?_, ?_⟩
    · rw [hestablishing] at h
      cases h
    · simp [WebsocketClient.asked, hestablishing]
    · rintro _ _ h
      cases h
      exact .inr rfl
  case h_2 => exact ⟨.refl client, rfl, fun _ _ h => .inl h⟩

/-- Summed up over the clients of another UUID, or over what a response does not change. -/
theorem ofClient_respond {f : WebsocketClient → ℕ} {c d : Uuid} (boxUuid : Uuid)
    (hsame : d = c → ∀ client, f (client.onEstablished boxUuid) = f client) :
    (x.respond c boxUuid).ofClient d f = x.ofClient d f := by
  simp only [ofClient, respond, List.map_map]
  refine congrArg List.sum (List.map_congr_left fun client _ => ?_)
  simp only [Function.comp_apply]
  by_cases hc : client.clientUuid = c
  · rw [if_pos hc, (evolves_onEstablished client boxUuid).1.clientUuid]
    by_cases hd : client.clientUuid = d
    · rw [if_pos hd, if_pos hd, hsame (hd.symm.trans hc)]
    · rw [if_neg hd, if_neg hd]
  · rw [if_neg hc]

/-- **The response comes up at the gate**: the last thing there was about the establishment. -/
theorem LifecycleInv.respond (h : LifecycleInv boxOf x) {p : ℕ} {c boxUuid : Uuid}
    (hpacket : x.packets[p]? = some (.establishmentResponseFromBox c boxUuid)) :
    Keeps boxOf x ((x.take p).respond c boxUuid) := by
  have htold : x.Told c boxUuid := .inl ⟨_, List.mem_of_getElem? hpacket, rfl⟩
  have hclients : ((x.take p).respond c boxUuid).clients = x.clients.map fun client =>
      if client.clientUuid = c then client.onEstablished boxUuid else client := rfl
  refine h.of_gate rfl ?_ ?_ ⟨fun d => ?_, fun d => ?_⟩ ?_ ?_
  · intro client hclient
    refine ⟨_, hclients ▸ List.mem_map_of_mem hclient, ?_⟩
    split_ifs
    · exact (evolves_onEstablished client boxUuid).1
    · exact .refl client
  · have huuids : ((x.take p).respond c boxUuid).clients.map WebsocketClient.clientUuid
        = x.clients.map WebsocketClient.clientUuid := by
      rw [hclients, List.map_map]
      refine List.map_congr_left fun client _ => ?_
      simp only [Function.comp_apply]
      split_ifs
      · exact (evolves_onEstablished client boxUuid).1.clientUuid
      · rfl
    exact huuids ▸ h.uuids
  · have htake := early_take hpacket d
    have hasked := ofClient_respond (x := x.take p) (c := c) (d := d) boxUuid
      (fun _ client => (evolves_onEstablished client boxUuid).2.1)
    change (x.take p).early d + x.attached d + x.ofClient d WebsocketClient.asked ≤ _
    rw [hasked]
    change _ ≤ x.early d + x.attached d + x.ofClient d WebsocketClient.asked
    omega
  · have htake := early_take hpacket d
    have htake' := answers_take hpacket d
    have hone := ofClient_le_one h.uuids awaited_le_one d
    change (x.take p).early d + (x.take p).answers d + x.ofClient d WebsocketClient.awaited ≤ _
    by_cases hc : d = c
    · subst hc
      have hcount :
          [Packet.establishmentResponseFromBox d boxUuid].countP (Packet.responds d) = 1 := by
        simp [Packet.responds]
      omega
    · have hawaited := ofClient_respond (x := x.take p) (f := WebsocketClient.awaited) boxUuid
        (fun hdc => absurd hdc hc)
      rw [hawaited]
      change _ ≤ x.early d + x.answers d + x.ofClient d WebsocketClient.awaited
      omega
  · rintro d u (⟨packet, hmem, hresponse⟩ | ⟨client, hclient, rfl, gateUuid, hestablished⟩)
    · exact .inl ⟨packet, List.mem_of_mem_eraseIdx hmem, hresponse⟩
    · obtain ⟨client', hclient', rfl⟩ := List.mem_map.mp hclient
      split_ifs at hestablished ⊢ with hc
      · obtain ⟨hevolves, -, hback⟩ := evolves_onEstablished client' boxUuid
        rw [hevolves.clientUuid]
        rcases hback gateUuid u hestablished with hold | rfl
        · exact .inr ⟨client', hclient', rfl, gateUuid, hold⟩
        · exact hc ▸ htold
      · exact .inr ⟨client', hclient', rfl, gateUuid, hestablished⟩
  · exact fun packet hmem _ _ hreport => .inl ⟨packet, List.mem_of_mem_eraseIdx hmem, hreport⟩

/-! ### The boxes -/

theorem stepBox_eq {k : ℕ} {box : Supervisor} (hbox : x.boxes[k]? = some box)
    (event : ShadowEvent) :
    (x.stepBox k event).2 = { x with
      packets := x.packets ++ responseTo box event
      boxes := x.boxes.set k (box.handle event).2 } := by
  simp only [stepBox, hbox]

theorem mem_boxes_set {k : ℕ} {box box' : Supervisor} (h : box ∈ x.boxes.set k box') :
    box ∈ x.boxes ∨ box = box' :=
  List.mem_or_eq_of_mem_set h

theorem requests_responseTo (box : Supervisor) (event : ShadowEvent) (c : Uuid) :
    (responseTo box event).countP (Packet.requests c) = 0 := by
  cases event with
  | attachSession i thrown =>
    simp only [responseTo]
    split <;> rfl
  | _ => rfl

theorem mem_responseTo {box : Supervisor} {event : ShadowEvent} {packet : Packet}
    (h : packet ∈ responseTo box event) : ∃ s ∈ box.pending,
      packet = .establishmentResponse s.foyerUuid s.clientUuid ∧
        responseTo box event = [packet] := by
  cases event with
  | attachSession i thrown =>
    simp only [responseTo] at h ⊢
    split at h
    case h_1 session hjob =>
      obtain rfl := List.mem_singleton.mp h
      refine ⟨session, ?_, rfl, rfl⟩
      exact List.mem_flatMap.mpr ⟨_, List.mem_of_getElem? hjob, List.mem_singleton_self _⟩
    case h_2 => cases h
  | _ => cases h

/-- **A step of one box** keeps the invariant where it keeps its balance. -/
theorem LifecycleInv.of_box (h : LifecycleInv boxOf x) {k : ℕ} {box box' : Supervisor}
    (hbox : x.boxes[k]? = some box) (hclients : y.clients = x.clients)
    (hboxes : y.boxes = x.boxes.set k box') (howned : ∃ effects, Supervisor.OwnedOnce effects box')
    (hbalance : Balance x y)
    (hplace : ∀ s, s ∈ box'.pending ∨ s ∈ box'.container.sessions → boxOf s.foyerUuid = k)
    (hhosted : ∀ c boxUuid, y.Told c boxUuid → y.HostedBy c boxUuid)
    (hclosures : ∀ packet ∈ y.packets, ∀ report, packet.closure? = some report →
      ∃ packet' ∈ x.packets, packet'.closure? = some report)
    (hclosing : ∀ job ∈ box'.jobs, ∀ report ∈ closing? job, x.Reports report) :
    Keeps boxOf x y := by
  have honward : Onward x y := .of_same hclients
  refine ⟨⟨hclients ▸ h.uuids, fun b hb => ?_, fun c => ?_, fun c => ?_, fun j b hb => ?_, hhosted,
    fun packet hpacket boxUuid report hreport => ?_, fun b hb job hjob report hreport => ?_⟩,
    hbalance, honward⟩
  · rcases mem_boxes_set (hboxes ▸ hb) with hold | rfl
    · exact h.owned b hold
    · exact howned
  · have hbefore := h.once c
    have hstep := hbalance.once c
    omega
  · have hbefore := h.awaited c
    have hstep := hbalance.awaited c
    omega
  · rw [hboxes] at hb
    by_cases hjk : k = j
    · subst hjk
      rw [List.getElem?_set_self (List.getElem?_eq_some_iff.mp hbox).1] at hb
      exact Option.some.inj hb ▸ hplace
    · rw [List.getElem?_set_ne hjk] at hb
      exact h.place j b hb
  · obtain ⟨packet', hpacket', hsame⟩ := hclosures packet hpacket _ hreport
    obtain ⟨hreports, hestablished⟩ := h.closures packet' hpacket' boxUuid report hsame
    exact ⟨honward.reports hreports, hclients ▸ hestablished⟩
  · rcases mem_boxes_set (hboxes ▸ hb) with hold | rfl
    · exact honward.reports (h.closing b hold job hjob report hreport)
    · exact honward.reports (hclosing job hjob report hreport)

/-- A box that attached nothing. -/
theorem HostedBy.of_subset {k : ℕ} {box box' : Supervisor} {boxUuid : Uuid}
    (h : x.HostedBy c boxUuid) (hbox : x.boxes[k]? = some box)
    (hboxes : y.boxes = x.boxes.set k box')
    (hsubset : ∀ s ∈ box'.container.sessions, s.clientUuid = c → s ∈ box.container.sessions) :
    y.HostedBy c boxUuid := by
  intro b hb s hs hc
  rcases mem_boxes_set (hboxes ▸ hb) with hold | rfl
  · exact h b hold s hs hc
  · exact h box (List.mem_of_getElem? hbox) s (hsubset s hs hc) hc

/-- **A box does something by itself.** -/
theorem LifecycleInv.ownStep (h : LifecycleInv boxOf x) {k : ℕ} {box : Supervisor}
    (hbox : x.boxes[k]? = some box) {event : ShadowEvent} (hown : event.isOwn = true) :
    Keeps boxOf x (x.stepBox k event).2 := by
  have hmem : box ∈ x.boxes := List.mem_of_getElem? hbox
  obtain ⟨effects, howned⟩ := h.owned box hmem
  have hstep := ownStep_handle hown howned.marked
  have howned' : ∃ effects, Supervisor.OwnedOnce effects (box.handle event).2 :=
    ⟨_, howned.step (l := ⟨event, (box.handle event).1⟩) rfl⟩
  rw [stepBox_eq hbox]
  generalize (box.handle event).2 = box' at hstep howned' ⊢
  refine h.of_box hbox rfl rfl howned' ⟨fun c => ?_, fun c => ?_⟩ (fun s hs => ?_)
    (fun c boxUuid htold => ?_) (fun packet hpacket report hreport => ?_)
    fun job hjob report hreport => ?_
  · have hsessions := hstep.sessions c
    have hpending :=
      Tally.sum_set_add (fun b : Supervisor => b.pending.countP (isOf c)) hbox box'
    have hcontainer :=
      Tally.sum_set_add (fun b : Supervisor => b.container.sessions.countP (isOf c)) hbox box'
    have hrequests := requests_responseTo box event c
    simp only [early, attached, ofClient, List.countP_append, hrequests] at hpending hcontainer ⊢
    omega
  · have hresponse := hstep.pending c
    have hpending :=
      Tally.sum_set_add (fun b : Supervisor => b.pending.countP (isOf c)) hbox box'
    have hrequests := requests_responseTo box event c
    simp only [early, answers, ofClient, List.countP_append, hrequests] at hpending ⊢
    omega
  · rcases hs with hs | hs
    · exact h.place k box hbox s (.inl (hstep.subset hs))
    · exact h.place k box hbox s ((hstep.attached s hs).symm.imp_left And.left)
  · -- What was told before is about a client with nothing to come; the response sent now is about
    -- the one session of its client.
    have hold (htold : x.Told c boxUuid) : ∀ s ∈ box'.container.sessions, s.clientUuid = c →
        s ∈ box.container.sessions := by
      intro s hs hc
      rcases hstep.attached s hs with hs | ⟨hs, -⟩
      · exact hs
      · exact absurd hc (pending_of_early (h.early_of_told htold) hmem hs)
    rcases htold with ⟨packet, hpacket, hresponse⟩ | hclient
    · rcases List.mem_append.mp hpacket with hpacket | hpacket
      · have htold : x.Told c boxUuid := .inl ⟨packet, hpacket, hresponse⟩
        exact (h.hosted c boxUuid htold).of_subset hbox rfl (hold htold)
      · obtain ⟨session, hsession, rfl, hone⟩ := mem_responseTo hpacket
        obtain ⟨rfl, rfl⟩ : session.clientUuid = c ∧ session.foyerUuid = boxUuid := by
          simpa [Packet.told?] using hresponse
        have hearly : x.early session.clientUuid ≠ 0 := fun hnone =>
          pending_of_early hnone hmem hsession rfl
        have hnone : x.attached session.clientUuid = 0 := by
          have honce := h.once session.clientUuid
          have hasked := ofClient_le_one h.uuids asked_le_one session.clientUuid
          omega
        rw [attached_eq_zero_iff] at hnone
        intro b hb s hs hc
        rcases mem_boxes_set hb with hb | rfl
        · exact absurd hc (hnone b hb s hs)
        · rcases hstep.attached s hs with hs | ⟨-, hs⟩
          · exact absurd hc (hnone box hmem s hs)
          · have hsame := List.singleton_inj.mp (hone.symm.trans hs)
            exact (Packet.establishmentResponse.inj hsame).1.symm
    · exact (h.hosted c boxUuid (.inr hclient)).of_subset hbox rfl (hold (.inr hclient))
  · rcases List.mem_append.mp hpacket with hpacket | hpacket
    · exact ⟨packet, hpacket, hreport⟩
    · obtain ⟨session, -, rfl, -⟩ := mem_responseTo hpacket
      cases hreport
  · obtain ⟨job', hjob', hsame⟩ := hstep.closing job hjob report hreport
    exact h.closing box hmem job' hjob' report hsame

/-- The box after a message of an establishment or a closure has come up. -/
theorem stepBox_take {p k : ℕ} {packet : Packet} {boxUuid : Uuid} {event : ShadowEvent}
    (hevent : packet.event? = some (boxUuid, event)) {box : Supervisor}
    (hbox : x.boxes[k]? = some box) :
    ((x.take p).stepBox k event).2 = { x.take p with
      boxes := x.boxes.set k (box.handle event).2 } := by
  have hnone : responseTo box event = [] := by
    cases packet with
    | establishmentRequest boxUuid req =>
      obtain ⟨-, rfl⟩ := Prod.mk.inj (Option.some.inj hevent)
      rfl
    | closureNotification boxUuid ntfy =>
      obtain ⟨-, rfl⟩ := Prod.mk.inj (Option.some.inj hevent)
      rfl
    | _ => cases hevent
  have htake : (x.take p).boxes[k]? = some box := hbox
  rw [stepBox_eq htake, hnone, List.append_nil]
  rfl

/-- **An establishment request comes up at its box.** -/
theorem LifecycleInv.request (h : LifecycleInv boxOf x) {p : ℕ} {boxUuid : Uuid}
    {req : WebsocketEstablishmentRequest}
    (hpacket : x.packets[p]? = some (.establishmentRequest boxUuid req)) {box : Supervisor}
    (hbox : x.boxes[boxOf boxUuid]? = some box) :
    Keeps boxOf x { x.take p with
      boxes := x.boxes.set (boxOf boxUuid) (box.handle (.websocketEstablishmentRequest boxUuid
        req.gateUuid req.clientUuid req.clientIp req.authToken)).2 } := by
  have hmem : box ∈ x.boxes := List.mem_of_getElem? hbox
  obtain ⟨effects, howned⟩ := h.owned box hmem
  set event : ShadowEvent := .websocketEstablishmentRequest boxUuid req.gateUuid req.clientUuid
    req.clientIp req.authToken with hevent
  have howned' : ∃ effects, Supervisor.OwnedOnce effects (box.handle event).2 :=
    ⟨_, howned.step (l := ⟨event, (box.handle event).1⟩) rfl⟩
  set session : ShadowSession :=
    ⟨box.objects, boxUuid, req.gateUuid, req.clientUuid, req.clientIp, req.authToken⟩ with hsession
  have hbox' : (box.handle event).2
      = { box.addJob (.establishing session) with objects := box.objects + 1 } := rfl
  have hpending : (box.handle event).2.pending = box.pending ++ [session] := by
    simp [hbox', Supervisor.pending, Supervisor.addJob, Job.establishing?]
  have hcontainer : (box.handle event).2.container = box.container := rfl
  have hjobs : (box.handle event).2.jobs = box.jobs ++ [.establishing session] := rfl
  have htake (c : Uuid) := Tally.countP_eraseIdx_add (Packet.requests c) hpacket
  have htake' (c : Uuid) := Tally.countP_eraseIdx_add (Packet.responds c) hpacket
  generalize (box.handle event).2 = box' at howned' hpending hcontainer hjobs ⊢
  have hone (c : Uuid) : [session].countP (isOf c)
      = [Packet.establishmentRequest boxUuid req].countP (Packet.requests c) := rfl
  refine h.of_box hbox rfl rfl howned' ⟨fun c => ?_, fun c => ?_⟩ (fun s hs => ?_)
    (fun c u htold => ?_)
    (fun packet hmem _ hreport => ⟨packet, List.mem_of_mem_eraseIdx hmem, hreport⟩)
    fun job hjob report hreport => ?_
  · have hbefore := htake c
    have hsame := hone c
    have hsum := Tally.sum_set_add (fun b : Supervisor => b.pending.countP (isOf c)) hbox box'
    have hsum' :=
      Tally.sum_set_add (fun b : Supervisor => b.container.sessions.countP (isOf c)) hbox box'
    rw [hpending, List.countP_append] at hsum
    rw [hcontainer] at hsum'
    simp only [early, attached, ofClient, Lifecycle.take] at hsum hsum' ⊢
    omega
  · have hbefore := htake c
    have hbefore' := htake' c
    have hsame := hone c
    have hsum := Tally.sum_set_add (fun b : Supervisor => b.pending.countP (isOf c)) hbox box'
    rw [hpending, List.countP_append] at hsum
    simp only [early, answers, ofClient, Lifecycle.take] at hsum ⊢
    omega
  · rw [hpending, hcontainer, List.mem_append] at hs
    rcases hs with (hs | hs) | hs
    · exact h.place _ box hbox s (.inl hs)
    · rw [List.mem_singleton.mp hs]
    · exact h.place _ box hbox s (.inr hs)
  · have htold : x.Told c u := by
      rcases htold with ⟨packet, hpacket, hresponse⟩ | hclient
      · exact .inl ⟨packet, List.mem_of_mem_eraseIdx hpacket, hresponse⟩
      · exact .inr hclient
    exact (h.hosted c u htold).of_subset hbox rfl fun s hs _ => hcontainer ▸ hs
  · rw [hjobs, List.mem_append] at hjob
    rcases hjob with hjob | hjob
    · exact h.closing box hmem job hjob report hreport
    · rw [List.mem_singleton.mp hjob] at hreport
      cases hreport

theorem clientUuid_of_find {container : SessionContainer} {s : ShadowSession}
    (h : container.find c = some s) : s.clientUuid = c := by
  rw [SessionContainer.find] at h
  simpa using List.find?_some h

/-- **What a closure notification leaves in a box**: nothing of its client. -/
theorem sessions_closure (box : Supervisor) (c : Uuid) (statusCode : ℕ) (reason : Bytes) :
    (box.handle (.websocketClosureNotification c statusCode reason)).2.container.sessions.Sublist
      box.container.sessions ∧
    ∀ s ∈ (box.handle (.websocketClosureNotification c statusCode reason)).2.container.sessions,
      s.clientUuid ≠ c := by
  simp only [Supervisor.handle]
  split
  case h_1 session hfind =>
    have hsub : (box.container.erase session).sessions.Sublist box.container.sessions :=
      (box.container.byGate.entries_eraseEntry_sublist _).map Prod.snd
    have hkey := clientUuid_of_find hfind
    have hperm := SessionContainer.erase_perm (SessionContainer.mem_sessions_of_find hfind)
    have hunique : (box.container.sessions.map ShadowSession.clientUuid).Nodup := by
      rw [SessionContainer.sessions, List.map_map]
      exact box.container.unique
    rw [(hperm.map _).nodup_iff, List.map_cons, List.nodup_cons, hkey] at hunique
    exact ⟨hsub, fun s hs heq => hunique.1 (heq ▸ List.mem_map_of_mem hs)⟩
  case h_2 hfind =>
    refine ⟨List.Sublist.refl _, fun s hs => ?_⟩
    simpa using List.find?_eq_none.mp hfind s hs

theorem closing?_closure {box : Supervisor} {c : Uuid} {statusCode : ℕ} {reason : Bytes} {job : Job}
    (hjob : job ∈ (box.handle (.websocketClosureNotification c statusCode reason)).2.jobs)
    {report : Uuid × ℕ × Bytes} (hreport : report ∈ closing? job) :
    job ∈ box.jobs ∨ report = (c, statusCode, reason) := by
  simp only [Supervisor.handle] at hjob
  split at hjob
  case h_1 session hfind =>
    rcases List.mem_append.mp hjob with hold | hnew
    · exact .inl hold
    · have hkey := clientUuid_of_find hfind
      rw [List.mem_singleton.mp hnew] at hreport
      exact .inr (hkey ▸ (Option.some.inj hreport).symm)
  case h_2 =>
    rcases List.mem_append.mp hjob with hold | hnew
    · exact .inl hold
    · rw [List.mem_singleton.mp hnew] at hreport
      cases hreport

theorem pending_closure (box : Supervisor) (c : Uuid) (statusCode : ℕ) (reason : Bytes) :
    (box.handle (.websocketClosureNotification c statusCode reason)).2.pending = box.pending := by
  simp only [Supervisor.handle]
  split <;> simp [Supervisor.pending, Supervisor.addJob, Job.establishing?]

/-- **A closure notification comes up at its box.** -/
theorem LifecycleInv.closure (h : LifecycleInv boxOf x) {p : ℕ} {boxUuid : Uuid}
    {ntfy : WebsocketClosureNotification}
    (hpacket : x.packets[p]? = some (.closureNotification boxUuid ntfy)) {box : Supervisor}
    (hbox : x.boxes[boxOf boxUuid]? = some box) :
    Keeps boxOf x { x.take p with
      boxes := x.boxes.set (boxOf boxUuid) (box.handle (.websocketClosureNotification
        ntfy.clientUuid ntfy.statusCode ntfy.reason)).2 } := by
  have hmem : box ∈ x.boxes := List.mem_of_getElem? hbox
  obtain ⟨effects, howned⟩ := h.owned box hmem
  have hpending := pending_closure box ntfy.clientUuid ntfy.statusCode ntfy.reason
  obtain ⟨hsub, -⟩ := sessions_closure box ntfy.clientUuid ntfy.statusCode ntfy.reason
  have hjobs := @closing?_closure box ntfy.clientUuid ntfy.statusCode ntfy.reason
  set event : ShadowEvent :=
    .websocketClosureNotification ntfy.clientUuid ntfy.statusCode ntfy.reason with hevent
  have howned' : ∃ effects, Supervisor.OwnedOnce effects (box.handle event).2 :=
    ⟨_, howned.step (l := ⟨event, (box.handle event).1⟩) rfl⟩
  have htake (c : Uuid) := Tally.countP_eraseIdx_add (Packet.requests c) hpacket
  have htake' (c : Uuid) := Tally.countP_eraseIdx_add (Packet.responds c) hpacket
  generalize (box.handle event).2 = box' at howned' hpending hsub hjobs ⊢
  have hearly (c : Uuid) : early { x.take p with boxes := x.boxes.set (boxOf boxUuid) box' } c
      ≤ x.early c := by
    have hbefore := htake c
    have hsum := Tally.sum_set_add (fun b : Supervisor => b.pending.countP (isOf c)) hbox box'
    rw [hpending] at hsum
    simp only [early, Lifecycle.take] at hsum ⊢
    omega
  refine h.of_box hbox rfl rfl howned' ⟨fun c => ?_, fun c => ?_⟩ (fun s hs => ?_)
    (fun c u htold => ?_)
    (fun packet hmem _ hreport => ⟨packet, List.mem_of_mem_eraseIdx hmem, hreport⟩)
    fun job hjob report hreport => ?_
  · have hbefore := hearly c
    have hless : box'.container.sessions.countP (isOf c)
      ≤ box.container.sessions.countP (isOf c) := hsub.countP_le
    have hsum :=
      Tally.sum_set_add (fun b : Supervisor => b.container.sessions.countP (isOf c)) hbox box'
    simp only [attached, ofClient, Lifecycle.take] at hsum hbefore ⊢
    omega
  · have hbefore := hearly c
    have hbefore' := htake' c
    simp only [answers, ofClient, Lifecycle.take] at hbefore ⊢
    omega
  · rw [hpending] at hs
    exact h.place _ box hbox s (hs.imp_right fun hs => hsub.subset hs)
  · have htold : x.Told c u := by
      rcases htold with ⟨packet, hpacket, hresponse⟩ | hclient
      · exact .inl ⟨packet, List.mem_of_mem_eraseIdx hpacket, hresponse⟩
      · exact .inr hclient
    exact (h.hosted c u htold).of_subset hbox rfl fun s hs _ => hsub.subset hs
  · rcases hjobs hjob hreport with hold | rfl
    · exact h.closing box hmem job hold report hreport
    · exact (h.closures _ (List.mem_of_getElem? hpacket) boxUuid _ rfl).1

/-- **A closure notification is for the box** that has the client's session, if one has. -/
theorem LifecycleInv.at_box (h : LifecycleInv boxOf x) {p : ℕ} {boxUuid : Uuid}
    {ntfy : WebsocketClosureNotification}
    (hpacket : x.packets[p]? = some (.closureNotification boxUuid ntfy)) {k : ℕ} {box : Supervisor}
    (hbox : x.boxes[k]? = some box) {s : ShadowSession} (hs : s ∈ box.container.sessions)
    (hc : s.clientUuid = ntfy.clientUuid) : boxOf boxUuid = k := by
  obtain ⟨-, client, hclient, huuid, gateUuid, hestablished⟩ :=
    h.closures _ (List.mem_of_getElem? hpacket) boxUuid _ rfl
  have hhosted : x.HostedBy ntfy.clientUuid boxUuid :=
    h.hosted _ boxUuid (.inr ⟨client, hclient, huuid, gateUuid, hestablished⟩)
  rw [← hhosted box (List.mem_of_getElem? hbox) s hs hc]
  exact h.place k box hbox s (.inr hs)

/-! ### All the steps -/

/-- `fail`, `on_sync_control_message`: nothing is sent. -/
theorem LifecycleInv.setOnly (h : LifecycleInv boxOf x) {i : ℕ} {client client' : WebsocketClient}
    (hclient : x.clients[i]? = some client) (hevolves : Evolves client client')
    (hasked : client.asked ≤ client'.asked) (hawaited : client.awaited ≤ client'.awaited)
    (htold : ∀ gateUuid boxUuid, client'.establishment = .established gateUuid boxUuid →
      client.establishment = .established gateUuid boxUuid) :
    Keeps boxOf x (x.setClient i client') := by
  have hkeeps := h.setClient hclient hevolves [] (by simpa using ⟨hasked, hawaited⟩)
    (fun _ _ => rfl) (by simp) htold (by simp)
  simpa [send] using hkeeps

/-- An auth server gave a token. -/
theorem LifecycleInv.authenticated (h : LifecycleInv boxOf x) {i : ℕ} {client : WebsocketClient}
    (hclient : x.clients[i]? = some client) (hnone : client.establishment = .authenticating)
    (halive : client.destroyed = false) (gateUuid : Uuid) {req : WebsocketEstablishmentRequestToBox}
    (hreq : req.clientUuid = client.clientUuid) :
    Keeps boxOf x ((x.setClient i { client with establishment := .establishing gateUuid }).send
      [.establishmentRequestToBox gateUuid req]) := by
  have hevolves : Evolves client { client with establishment := .establishing gateUuid } := by
    refine ⟨rfl, fun hdestroyed => ?_, fun _ _ hestablished => ?_⟩
    · exact absurd (halive.symm.trans hdestroyed) (by simp)
    · exact absurd (hnone.symm.trans hestablished) (by simp)
  refine h.setClient hclient hevolves _ ⟨?_, ?_⟩ (fun c hc => ?_) ?_ (fun _ _ hestablished => ?_) ?_
  · simp [WebsocketClient.asked, hnone, Packet.requests, hreq]
  · simp [WebsocketClient.awaited, hnone, Packet.requests, hreq]
  · simpa [Packet.requests, hreq] using Ne.symm hc
  · simp [Packet.told?, Packet.responds]
  · cases hestablished
  · simp [Packet.closure?]

/-- The destructor: an established session reports its closure. -/
theorem LifecycleInv.destroy (h : LifecycleInv boxOf x) {i : ℕ} {client : WebsocketClient}
    (hclient : x.clients[i]? = some client) (foyerConn : Bool) :
    Keeps boxOf x ((x.setClient i { client with destroyed := true }).send
      (client.notifyFoyerAboutClosure foyerConn).toList) := by
  have hsent : ∀ packet ∈ (client.notifyFoyerAboutClosure foyerConn).toList,
      ∃ gateUuid boxUuid, client.establishment = .established gateUuid boxUuid ∧
        packet = .closureNotificationToBox gateUuid
          ⟨boxUuid, client.clientUuid, client.closure.1, client.closure.2⟩ := by
    intro packet hpacket
    rw [Option.mem_toList, WebsocketClient.notifyFoyerAboutClosure] at hpacket
    cases hestablishment : client.establishment with
    | established gateUuid boxUuid =>
      rw [hestablishment] at hpacket
      cases foyerConn with
      | true => exact ⟨gateUuid, boxUuid, rfl, (Option.some.inj hpacket).symm⟩
      | false => cases hpacket
    | _ =>
      rw [hestablishment] at hpacket
      cases hpacket
  have hrequests (c : Uuid) :
      (client.notifyFoyerAboutClosure foyerConn).toList.countP (Packet.requests c) = 0 := by
    refine List.countP_eq_zero.mpr fun packet hpacket => ?_
    obtain ⟨_, _, -, rfl⟩ := hsent packet hpacket
    simp [Packet.requests]
  have hevolves : Evolves client { client with destroyed := true } :=
    ⟨rfl, fun _ => ⟨rfl, rfl⟩, fun _ _ hestablished => hestablished⟩
  refine h.setClient hclient hevolves _ ?_
    (fun c _ => hrequests c) (fun packet hpacket => ?_) (fun _ _ hestablished => hestablished)
    fun packet hpacket boxUuid report hreport => ?_
  · rw [hrequests]
    exact ⟨(Nat.zero_add _).le, (Nat.zero_add _).le⟩
  · obtain ⟨_, _, -, rfl⟩ := hsent packet hpacket
    exact ⟨rfl, fun _ => rfl⟩
  · obtain ⟨gateUuid, _, hestablished, rfl⟩ := hsent packet hpacket
    obtain ⟨rfl, rfl⟩ := Prod.mk.inj (Option.some.inj hreport)
    exact ⟨rfl, rfl, gateUuid, hestablished⟩

/-- A message comes up where it is for. -/
theorem LifecycleInv.receive (h : LifecycleInv boxOf x) {p : ℕ} {packet : Packet}
    (hpacket : x.packets[p]? = some packet) (hup : packet.isForFoyer = false) :
    Keeps boxOf x (x.handle boxOf (.receive p)).2 := by
  have hbox {boxUuid : Uuid} {event : ShadowEvent} (hevent : packet.event? = some (boxUuid, event))
      (hkeeps : ∀ box, x.boxes[boxOf boxUuid]? = some box → Keeps boxOf x { x.take p with
        boxes := x.boxes.set (boxOf boxUuid) (box.handle event).2 }) :
      Keeps boxOf x ((x.take p).stepBox (boxOf boxUuid) event).2 := by
    cases hbox : x.boxes[boxOf boxUuid]? with
    | some box =>
      rw [stepBox_take hevent hbox]
      exact hkeeps box hbox
    | none =>
      have hnone : (x.take p).boxes[boxOf boxUuid]? = none := hbox
      simp only [stepBox, hnone]
      exact h.take hpacket
  simp only [Lifecycle.handle, hpacket]
  cases packet with
  | establishmentRequest boxUuid req => exact hbox rfl fun box hb => h.request hpacket hb
  | establishmentResponseFromBox c boxUuid => exact h.respond hpacket
  | closureNotification boxUuid ntfy => exact hbox rfl fun box hb => h.closure hpacket hb
  | _ => cases hup

/-- **What every step keeps.** -/
theorem LifecycleInv.handle (h : LifecycleInv boxOf x) {event : LifecycleEvent}
    (henabled : x.Enabled event) : Keeps boxOf x (x.handle boxOf event).2 := by
  cases event with
  | accept clientUuid clientIp => exact h.accept clientIp henabled
  | authenticated i gateUuid authToken decodedUri params =>
    obtain ⟨client, hclient, hready⟩ := (Option.any_eq_true ..).mp henabled
    simp only [Bool.and_eq_true, decide_eq_true_eq, Bool.not_eq_true'] at hready
    simp only [Lifecycle.handle, hclient]
    exact h.authenticated hclient hready.1 hready.2 gateUuid rfl
  | fail i =>
    obtain ⟨client, hclient, hgoing⟩ := (Option.any_eq_true ..).mp henabled
    simp only [Lifecycle.handle, hclient]
    have hevolves : Evolves client { client with establishment := .failed } := by
      refine ⟨rfl, fun h => ⟨h, rfl⟩, fun _ _ hestablished => ?_⟩
      rw [hestablished] at hgoing
      cases hgoing
    exact h.setOnly hclient hevolves (asked_le_one client) (awaited_le_one client)
      fun _ _ hestablished => by cases hestablished
  | controlMessage i opcode payload =>
    obtain ⟨client, hclient, halive⟩ := (Option.any_eq_true ..).mp henabled
    simp only [Lifecycle.handle, hclient]
    have hsame : (client.onSyncControlMessage opcode payload).clientUuid = client.clientUuid ∧
        (client.onSyncControlMessage opcode payload).establishment = client.establishment := by
      rw [WebsocketClient.onSyncControlMessage]
      split <;> exact ⟨rfl, rfl⟩
    refine h.setOnly hclient ⟨hsame.1, fun hdestroyed => ?_, fun _ _ h => hsame.2.trans h⟩ ?_ ?_
      fun _ _ h => hsame.2.symm.trans h
    · simp [hdestroyed] at halive
    · rw [WebsocketClient.asked, WebsocketClient.asked, hsame.2]
    · rw [WebsocketClient.awaited, WebsocketClient.awaited, hsame.2]
  | destroy i foyerConn =>
    obtain ⟨client, hclient, -⟩ := (Option.any_eq_true ..).mp henabled
    simp only [Lifecycle.handle, hclient]
    exact h.destroy hclient foyerConn
  | lose p => exact h.take (List.getElem?_eq_getElem henabled)
  | foyer p boxUuid boxConn =>
    obtain ⟨packet, hpacket, -⟩ := (Option.any_eq_true ..).mp henabled
    simp only [Lifecycle.handle, hpacket]
    exact h.pass hpacket _ fun _ => like_throughFoyer
  | receive p =>
    obtain ⟨packet, hpacket, hup⟩ := (Option.any_eq_true ..).mp henabled
    exact h.receive hpacket (by simpa using hup)
  | box k event =>
    obtain ⟨hlt, hown⟩ := henabled
    exact h.ownStep (List.getElem?_eq_getElem hlt) hown

theorem lifecycleInv_start (boxes : ℕ) : LifecycleInv boxOf (start boxes) := by
  have hboxes : ∀ box ∈ (start boxes).boxes, box = Supervisor.start := fun box hbox =>
    List.eq_of_mem_replicate hbox
  have hnone (f : Supervisor → ℕ) (hf : f .start = 0) :
      ((start boxes).boxes.map f).sum = 0 := by
    simp [start, hf]
  refine ⟨List.nodup_nil, fun box hbox => ?_, fun c => ?_, fun c => ?_, fun k box hbox s hs => ?_,
    fun c boxUuid htold => ?_, fun packet hpacket => (List.not_mem_nil hpacket).elim,
    fun box hbox job hjob => ?_⟩
  · rw [hboxes box hbox]
    exact ⟨[], Supervisor.ownedOnce_start⟩
  · rw [early, attached, hnone _ rfl, hnone _ rfl]
    exact le_rfl
  · rw [early, hnone _ rfl]
    exact le_rfl
  · rw [hboxes box (List.mem_of_getElem? hbox)] at hs
    rcases hs with hs | hs <;> cases hs
  · rcases htold with ⟨packet, hpacket, -⟩ | ⟨client, hclient, -⟩
    · cases hpacket
    · cases hclient
  · rw [hboxes box hbox] at hjob
    cases hjob

theorem LifecycleInv.step (h : LifecycleInv boxOf x) {l : LifecycleLabel}
    (hstep : Step boxOf x l y) : Keeps boxOf x y := by
  have hkeeps := h.handle hstep.1
  rwa [hstep.2] at hkeeps

variable {history : List LifecycleLabel}

theorem lifecycleInv_of_run {boxes : ℕ} (h : Lts.Run (Step boxOf) (start boxes) history x) :
    LifecycleInv boxOf x :=
  h.invariant (fun hx hstep => (LifecycleInv.step hx hstep).inv) (lifecycleInv_start boxes)

end Lifecycle

end Circe.Websocket
