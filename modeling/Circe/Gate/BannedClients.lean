import Circe.Gate.ClientSessions
import Circe.Gate.HeaderRelay

/-!
# Gate/BannedClients — what a banned client can still ask for

`on_low_level_request_end` looks at the ban list on the first request of a connection only, and
`on_sync_request` always does.  `on_sync_expect` and the handshake job of a WebSocket session never
do: a request with `Expect`, or one for a WebSocket session on a connection that was let in before,
reaches an auth server from a banned address (`not_nothingThrough`).  In the runs in which neither
comes up while its address is banned, a banned address gets nothing through
(`nothingThrough_of_checked`).
-/

namespace Circe.Gate

open Protocol

variable {M : MultimapInterface Bytes Bytes}

/-! ## The property -/

/-- Handling a request made the gate ask an auth server or a foyer server for something. -/
def Asked (history : List (ClientLabel M)) (request : ℕ) : Prop :=
  ∃ l ∈ history, l.request = some request ∧ l.effects.any GateEffect.isRequest = true

/-- The address of a request was not banned when it was received, or when one of its callbacks or
jobs ran. -/
def Cleared (history : List (ClientLabel M)) (request : ℕ) : Prop :=
  ∃ l ∈ history, l.request = some request ∧ l.timeRemaining = 0

/-- The address of a request was banned when it was received, and whenever one of its callbacks or
jobs ran. -/
def BannedThroughout (history : List (ClientLabel M)) (request : ℕ) : Prop :=
  ∀ l ∈ history, l.request = some request → l.timeRemaining ≠ 0

/-- **A banned address gets nothing through.** -/
def NothingThrough (history : List (ClientLabel M)) : Prop :=
  ∀ request, BannedThroughout history request → ¬ Asked history request

namespace ClientSessions

variable (config : Config) (P : SessionLibrary M)

/-- The steps of banned clients that nothing stops: `on_sync_expect`, where it asks an auth server,
and a request for a WebSocket session on a connection whose first request was let in. -/
def LetsThrough (x : ClientSessions M) : ClientEvent M → Prop
  | .job i (.perform .sent) =>
    x.jobs[i]?.any fun job => job.stage = .syncExpect && expectAsks config P job.reqHeaders
  | .lowLevelRequestEnd request =>
    x.requests[request]?.any fun req =>
      handshakeAsks config P req.reqHeaders &&
        sameText (P.get req.reqHeaders.headers (asciiBytes "Upgrade")) (asciiBytes "websocket") &&
        x.sessions[req.session]?.any fun session => !session.firstRequest
  | _ => False

instance (x : ClientSessions M) : DecidablePred (x.LetsThrough config P)
  | .job _ (.perform .sent) | .lowLevelRequestEnd _ => inferInstanceAs (Decidable (_ = true))
  | .job _ (.perform .noServer) | .job _ (.perform (.threw _)) | .job _ .expired
  | .job _ (.authResponse ..) | .job _ (.foyerResponse _) | .job _ (.websocketAuthResponse ..)
  | .job _ (.websocketEstablished _) | .connect .. | .receive .. | .lowLevelMessageEnd _
  | .shutdown _ | .advance _ | .accumulate .. | .setBanTimeRemaining .. | .removeBan _ =>
    inferInstanceAs (Decidable False)

/-- None of them comes up while its address is banned. -/
def Checked (x : ClientSessions M) (event : ClientEvent M) : Prop :=
  x.LetsThrough config P event → x.timeRemaining event = 0

instance (x : ClientSessions M) : DecidablePred (x.Checked config P) := fun _ =>
  inferInstanceAs (Decidable (_ → _))

end ClientSessions

/-! ## Who was cleared -/

section Histories

variable {history : List (ClientLabel M)} {l : ClientLabel M} {request : ℕ}

theorem Cleared.concat (h : Cleared history request) (l : ClientLabel M) :
    Cleared (history ++ [l]) request := by
  obtain ⟨l', hmem, hrequest, hzero⟩ := h
  exact ⟨l', List.mem_append_left _ hmem, hrequest, hzero⟩

theorem cleared_concat_self (hrequest : l.request = some request) (hzero : l.timeRemaining = 0) :
    Cleared (history ++ [l]) request := ⟨l, List.mem_concat_self, hrequest, hzero⟩

theorem asked_concat (h : Asked (history ++ [l]) request) :
    Asked history request ∨
      (l.request = some request ∧ l.effects.any GateEffect.isRequest = true) := by
  obtain ⟨l', hmem, hrequest, hasks⟩ := h
  rcases List.mem_append.mp hmem with hmem | hmem
  · exact .inl ⟨l', hmem, hrequest, hasks⟩
  · obtain rfl := List.mem_singleton.mp hmem
    exact .inr ⟨hrequest, hasks⟩

theorem nothingThrough_of_cleared
    (h : ∀ request, Asked history request → Cleared history request) : NothingThrough history := by
  intro request hbanned hasked
  obtain ⟨l, hmem, hrequest, hzero⟩ := h request hasked
  exact hbanned l hmem hrequest hzero

end Histories

/-- What the stage of a job says of its request: a job that asks, or is about to, is about a request
that was cleared. -/
def ClientJob.Entitled (config : Config) (P : SessionLibrary M) (history : List (ClientLabel M))
    (job : ClientJob M) : Prop :=
  match job.stage with
  | .authenticatingRequest | .authenticatingWebsocket => Cleared history job.request
  | .websocketHandshake =>
    handshakeAsks config P job.reqHeaders = true → Cleared history job.request
  | _ => True

/-- **What holds in every run whose steps are checked.** -/
structure BanInv (config : Config) (P : SessionLibrary M) (history : List (ClientLabel M))
    (x : ClientSessions M) : Prop where
  jobs : ∀ job ∈ x.jobs, job.Entitled config P history
  asked : ∀ request, Asked history request → Cleared history request

section Steps

variable {config : Config} {P : SessionLibrary M} {history : List (ClientLabel M)}
  {x y : ClientSessions M} {l : ClientLabel M} {job : ClientJob M}

theorem ClientJob.Entitled.of_cleared (h : Cleared history job.request) :
    job.Entitled config P history := by
  rw [ClientJob.Entitled]
  split
  · exact h
  · exact h
  · exact fun _ => h
  · trivial

/-- A job that is over, or that checks the ban list itself. -/
theorem ClientJob.Entitled.of_stage (h : job.stage = .done ∨ job.stage = .syncRequest) :
    job.Entitled config P history := by
  rcases h with hstage | hstage
  · rw [ClientJob.Entitled, hstage]
    trivial
  · rw [ClientJob.Entitled, hstage]
    trivial

theorem ClientJob.Entitled.of_handshake (hstage : job.stage = .websocketHandshake)
    (h : handshakeAsks config P job.reqHeaders = true → Cleared history job.request) :
    job.Entitled config P history := by
  rw [ClientJob.Entitled, hstage]
  exact h

theorem ClientJob.Entitled.concat (h : job.Entitled config P history) (l : ClientLabel M) :
    job.Entitled config P (history ++ [l]) := by
  rw [ClientJob.Entitled] at h ⊢
  split at h
  · exact h.concat l
  · exact h.concat l
  · exact fun hasks => (h hasks).concat l
  · trivial

/-- A step that asks nobody for a request that was not cleared, and leaves no job to do so. -/
theorem BanInv.step (h : BanInv config P history x)
    (hjobs : ∀ job ∈ y.jobs, job ∈ x.jobs ∨ job.Entitled config P (history ++ [l]))
    (hasks : ∀ request, l.request = some request → l.effects.any GateEffect.isRequest = true →
      Cleared (history ++ [l]) request) : BanInv config P (history ++ [l]) y := by
  refine ⟨fun job hmem => ?_, fun request hasked => ?_⟩
  · exact (hjobs job hmem).elim (fun hold => (h.jobs job hold).concat l) id
  · rcases asked_concat hasked with hold | ⟨hrequest, hnew⟩
    · exact (h.asked request hold).concat l
    · exact hasks request hrequest hnew

/-- A job that goes on is over, or its request is cleared. -/
theorem ClientJob.Entitled.quiet_or_cleared {c : Context} {input : JobInput} {outcome : Outcome M}
    (h : job.Entitled config P history)
    (hprogress : Progress config P c job.reqHeaders input outcome job.stage)
    (hrequest : l.request = some job.request) (hremaining : l.timeRemaining = c.timeRemaining)
    (hchecked : input = .perform .sent → job.stage = .syncExpect →
      expectAsks config P job.reqHeaders = true → l.timeRemaining = 0) :
    outcome.Quiet ∨ Cleared (history ++ [l]) job.request := by
  obtain ⟨request, session, reqHeaders, reqEntity, stage⟩ := job
  cases hprogress with
  | quiet hquiet => exact .inl hquiet
  | expect hinput hasks => exact .inr (cleared_concat_self hrequest (hchecked hinput rfl hasks))
  | request hfree => exact .inr (cleared_concat_self hrequest (hremaining.trans hfree))
  | authenticated => exact .inr (Cleared.concat h l)
  | handshake hasks => exact .inr (Cleared.concat (h hasks) l)
  | websocketAuthenticated => exact .inr (Cleared.concat h l)

/-- A step that asks nobody and leaves the jobs alone. -/
theorem BanInv.same (h : BanInv config P history x) (hjobs : y.jobs = x.jobs)
    (hquiet : l.effects.any GateEffect.isRequest = false) : BanInv config P (history ++ [l]) y :=
  h.step (fun _ hmem => .inl (hjobs ▸ hmem)) fun _ _ hasks => absurd hasks (by simp [hquiet])

/-- The handshake of a banned client is enqueued only where the step lets it through. -/
theorem BanInv.lowLevelRequestEnd {request : ℕ} (h : BanInv config P history x)
    (hchecked : x.Checked config P (.lowLevelRequestEnd request)) :
    BanInv config P (history ++ [(x.next config P (.lowLevelRequestEnd request)).1])
      (x.next config P (.lowLevelRequestEnd request)).2 := by
  cases hreq : x.requests[request]? with
  | none =>
    simp only [ClientSessions.next, ClientSessions.handle, hreq]
    exact h.same rfl rfl
  | some req =>
    cases hsession : x.sessions[req.session]? with
    | none =>
      simp only [ClientSessions.next, ClientSessions.handle, hreq, hsession]
      exact h.same rfl rfl
    | some session =>
      have hremaining : x.timeRemaining (.lowLevelRequestEnd request)
          = (x.context session).timeRemaining := by
        simp only [ClientSessions.timeRemaining, ClientSessions.sessionOf, hreq, Option.bind_some,
          hsession]
        rfl
      obtain ⟨hquiet, hstage⟩ :=
        Context.onLowLevelRequestEnd_cases config P (x.context session) req.reqHeaders
      simp only [ClientSessions.next, ClientSessions.handle, hreq, hsession]
      refine h.step (fun job hmem => ?_) fun _ _ hasks => absurd (hquiet.symm.trans hasks) (by simp)
      split at hmem
      · exact .inl hmem
      · refine (List.mem_append.mp hmem).imp_right fun hnew => ?_
        obtain rfl := List.mem_singleton.mp hnew
        rcases hstage with hstage | hstage | ⟨hstage, hfirst, hwebsocket⟩
        · exact .of_stage (.inl hstage)
        · exact .of_stage (.inr hstage)
        · refine .of_handshake hstage fun hasks => cleared_concat_self rfl (hremaining.trans ?_)
          cases hlate : session.firstRequest with
          | true => exact hfirst hlate
          | false =>
            refine hremaining.symm.trans (hchecked ?_)
            simp [ClientSessions.LetsThrough, hreq, hasks, hwebsocket, hsession, hlate]

theorem BanInv.jobStep {i : ℕ} {input : JobInput} (h : BanInv config P history x)
    (henabled : x.Enabled (.job i input)) (hchecked : x.Checked config P (.job i input)) :
    BanInv config P (history ++ [(x.next config P (.job i input)).1])
      (x.next config P (.job i input)).2 := by
  obtain ⟨job, hjob, htakes⟩ := (Option.any_eq_true ..).mp henabled
  cases hsession : x.sessions[job.session]? with
  | none =>
    simp only [ClientSessions.next, ClientSessions.handle, hjob, hsession]
    exact h.same rfl rfl
  | some session =>
    have hremaining : x.timeRemaining (.job i input) = (x.context session).timeRemaining := by
      simp only [ClientSessions.timeRemaining, ClientSessions.sessionOf, hjob, Option.bind_some,
        hsession]
      rfl
    have hprogress : Progress config P (x.context session) job.reqHeaders input
        (job.step config P (x.context session) input) job.stage := job.progress htakes
    have hcase := (h.jobs job (List.mem_of_getElem? hjob)).quiet_or_cleared
      (l := (x.next config P (.job i input)).1) hprogress
      (by simp [ClientSessions.next, ClientSessions.requestOf, hjob]) hremaining
      (by
        rintro rfl hstage hasks
        exact hchecked (by simp [ClientSessions.LetsThrough, hjob, hstage, hasks]))
    simp only [ClientSessions.next, ClientSessions.handle, hjob, hsession] at hcase ⊢
    refine h.step (fun job' hmem => ?_) fun request hrequest hasks => ?_
    · refine (List.mem_or_eq_of_mem_set hmem).imp_right fun hnew => ?_
      subst hnew
      rcases hcase with hquiet | hcleared
      · exact .of_stage (.inl hquiet.stage)
      · exact .of_cleared hcleared
    · have hself : job.request = request := by
        simpa [ClientSessions.requestOf, hjob] using hrequest
      rcases hcase with hquiet | hcleared
      · exact absurd (hquiet.asks.symm.trans hasks) (by simp)
      · exact hself ▸ hcleared

/-- **A step that is checked keeps the invariant.** -/
theorem BanInv.next {event : ClientEvent M} (h : BanInv config P history x)
    (henabled : x.Enabled event) (hchecked : x.Checked config P event) :
    BanInv config P (history ++ [(x.next config P event).1]) (x.next config P event).2 := by
  cases event with
  | connect clientUuid ip => exact h.same rfl rfl
  | advance time => exact h.same rfl rfl
  | accumulate ip counter => exact h.same rfl rfl
  | setBanTimeRemaining ip timeRemaining => exact h.same rfl rfl
  | removeBan ip =>
    cases ip with
    | none => exact h.same rfl rfl
    | some ip => exact h.same rfl rfl
  | receive session reqHeaders reqEntity expect =>
    refine h.step (fun job hmem => ?_) fun _ _ hasks => by cases hasks
    cases expect with
    | false => exact .inl hmem
    | true =>
      refine (List.mem_append.mp hmem).imp_right fun hnew => ?_
      obtain rfl := List.mem_singleton.mp hnew
      trivial
  | shutdown session =>
    simp only [ClientSessions.next, ClientSessions.handle]
    split
    · exact h.same rfl rfl
    · exact h.same rfl rfl
  | lowLevelMessageEnd session =>
    simp only [ClientSessions.next, ClientSessions.handle]
    split
    · exact h.same rfl rfl
    · exact h.same rfl Context.asks_onLowLevelMessageEnd
  | lowLevelRequestEnd request => exact h.lowLevelRequestEnd hchecked
  | job i input => exact h.jobStep henabled hchecked

end Steps

/-! ## The runs -/

section Runs

variable {config : Config} {P : SessionLibrary M} {history : List (ClientLabel M)}
  {x : ClientSessions M} {now : ℕ}

theorem banInv (hrun : Lts.Run (Lts.Guarded (ClientSessions.Step config P) fun x l =>
    x.Checked config P l.event) (.start now) history x) : BanInv config P history x := by
  refine hrun.historyInvariant (J := BanInv config P) ?_ ⟨List.forall_mem_nil _, ?_⟩
  · rintro history s l t hinv ⟨hchecked, henabled, hnext⟩
    have h := hinv.next henabled hchecked
    rwa [hnext] at h
  · rintro request ⟨l, hmem, -⟩
    cases hmem

/-- **Where no step lets a banned client through, nothing gets through.** -/
theorem nothingThrough_of_checked
    (hrun : Lts.Run (Lts.Guarded (ClientSessions.Step config P) fun x l =>
      x.Checked config P l.event) (.start now) history x) : NothingThrough history :=
  nothingThrough_of_cleared (banInv hrun).asked

end Runs

/-! ## What is let through asks -/

section Asking

variable {config : Config} {P : SessionLibrary M} {c : Context} {reqHeaders : RequestHeaders M}

/-- `on_sync_expect` asks an auth server, banned or not. -/
theorem asks_onSyncExpect (h : expectAsks config P reqHeaders = true) :
    (c.onSyncExpect config P reqHeaders .sent).asks = true := by
  simp only [expectAsks, Bool.and_eq_true] at h
  obtain ⟨⟨hverb, hdecodes⟩, henabled⟩ := h
  obtain ⟨decodedUri, hdecode⟩ := c.exists_syncDecodeUri hdecodes
  have hoptions : reqHeaders.verb ≠ .options := fun heq => by rw [heq] at hverb; cases hverb
  rw [Context.onSyncExpect, if_neg hoptions, if_pos hverb, hdecode]
  simp only [Context.syncAuthenticate, henabled, Bool.true_eq_false, if_false]
  rfl

/-- The handshake job asks an auth server, banned or not. -/
theorem asks_performHandshake (hopen : c.session.shutdownWrite = false)
    (h : handshakeAsks config P reqHeaders = true) :
    (c.performHandshake config P reqHeaders .sent).asks = true := by
  simp only [handshakeAsks, Bool.and_eq_true, decide_eq_true_eq] at h
  obtain ⟨⟨hdecodes, henabled⟩, hswitch⟩ := h
  obtain ⟨decodedUri, hdecode⟩ := c.exists_syncDecodeUri hdecodes
  rw [Context.performHandshake, if_neg (by simp [hopen]), hdecode]
  simp only [hswitch, if_true, Context.syncAuthenticateWebsocket, henabled, Bool.true_eq_false,
    if_false]
  rfl

end Asking

/-! ## Two banned clients -/

/-- Poseidon as far as the runs below use it. -/
def clientLibrary : SessionLibrary (MultimapInterface.list Bytes Bytes) where
  toHttpLibrary := relayLibrary
  isPrivate _ := false
  get headers key := ((headers.find? fun e => e.1 = key).map Prod.snd).getD []
  makeHandshakeResponse _ := ⟨10001, statusSwitchingProtocols, [], []⟩
  opcodeOf opcode := .ok opcode.toNatClampNeg
  websocketStatusCodeOf statusCode := .ok statusCode.toNatClampNeg

def clientConfig : Config := { clientHttpEnabled := true, clientWebsocketEnabled := true }

def clientIp : Bytes := asciiBytes "203.0.113.7"

def clientRequest (headers : List (Bytes × Bytes)) :
    RequestHeaders (MultimapInterface.list Bytes Bytes) :=
  ⟨.get, asciiBytes "/", 10001, [], headers⟩

/-- A connection that is let in, and its first request answered. -/
def answeredFirst : List (ClientEvent (MultimapInterface.list Bytes Bytes)) :=
  [.connect 1 clientIp, .receive 0 (clientRequest []) [] false, .lowLevelRequestEnd 0,
    .job 0 (.perform .sent), .job 0 (.authResponse (.ok ⟨asciiBytes "token", 0, []⟩) .sent),
    .job 0 (.foyerResponse (.ok ⟨⟨200, [], asciiBytes "hello"⟩, 20⟩))]

/-- Then its address is banned, and it asks for a WebSocket session. -/
def upgradeLater : List (ClientEvent (MultimapInterface.list Bytes Bytes)) :=
  answeredFirst ++ [.setBanTimeRemaining clientIp 60000,
    .receive 0 (clientRequest [(asciiBytes "Upgrade", asciiBytes "websocket")]) [] false,
    .lowLevelRequestEnd 1, .job 1 (.perform .sent)]

/-- A connection from a banned address; its first request has `Expect`. -/
def expectFirst : List (ClientEvent (MultimapInterface.list Bytes Bytes)) :=
  [.setBanTimeRemaining clientIp 60000, .connect 1 clientIp,
    .receive 0 (clientRequest [(asciiBytes "Expect", asciiBytes "100-continue")]) [] true,
    .job 0 (.perform .sent)]

/-- The same as the first, with a plain request after the ban. -/
def plainLater : List (ClientEvent (MultimapInterface.list Bytes Bytes)) :=
  answeredFirst ++ [.setBanTimeRemaining clientIp 60000, .receive 0 (clientRequest []) [] false,
    .lowLevelRequestEnd 1, .job 1 (.perform .sent)]

abbrev clientTrace (events : List (ClientEvent (MultimapInterface.list Bytes Bytes))) :
    List (ClientLabel (MultimapInterface.list Bytes Bytes)) :=
  Lts.trace (ClientSessions.next clientConfig clientLibrary) (.start 0) events

/-- Both reach an auth server. -/
theorem not_nothingThrough :
    (∃ x, Lts.Run (ClientSessions.Step clientConfig clientLibrary) (.start 0)
        (clientTrace upgradeLater) x ∧ ¬ NothingThrough (clientTrace upgradeLater)) ∧
      ∃ x, Lts.Run (ClientSessions.Step clientConfig clientLibrary) (.start 0)
        (clientTrace expectFirst) x ∧ ¬ NothingThrough (clientTrace expectFirst) := by
  have hrun (events : List (ClientEvent (MultimapInterface.list Bytes Bytes)))
      (h : Lts.Admits (ClientSessions.next clientConfig clientLibrary) ClientSessions.Enabled
        (.start 0) events) :
      ∃ x, Lts.Run (ClientSessions.Step clientConfig clientLibrary) (.start 0)
        (clientTrace events) x :=
    ⟨_, Lts.Run.of_admits _ _ (fun henabled => ⟨henabled, rfl⟩) _ events h⟩
  obtain ⟨x, hx⟩ := hrun upgradeLater (by decide +kernel)
  obtain ⟨y, hy⟩ := hrun expectFirst (by decide +kernel)
  refine ⟨⟨x, hx, fun h => ?_⟩, ⟨y, hy, fun h => ?_⟩⟩
  · exact h 1 (by unfold BannedThroughout; decide +kernel) (by unfold Asked; decide +kernel)
  · exact h 0 (by unfold BannedThroughout; decide +kernel) (by unfold Asked; decide +kernel)

theorem nothingThrough_of_checked_trial :
    NothingThrough (clientTrace plainLater) ∧ Asked (clientTrace plainLater) 0 ∧
      BannedThroughout (clientTrace plainLater) 1 := by
  refine ⟨?_, by unfold Asked; decide +kernel, by unfold BannedThroughout; decide +kernel⟩
  have hrun : Lts.Run (Lts.Guarded (ClientSessions.Step clientConfig clientLibrary) fun x l =>
      x.Checked clientConfig clientLibrary l.event) (.start 0) (clientTrace plainLater) _ :=
    Lts.Run.of_admits (ClientSessions.next clientConfig clientLibrary)
      (fun x event => x.Checked clientConfig clientLibrary event ∧ x.Enabled event)
      (fun h => ⟨h.1, h.2, rfl⟩) (.start 0) plainLater (by decide +kernel)
  exact nothingThrough_of_checked hrun

end Circe.Gate
