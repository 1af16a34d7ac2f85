import Circe.Gate.BanCauses
import Circe.Gate.BannedClients

/-!
# Gate/SessionRequests — the requests of one session, one after another

`on_sync_expect` and `on_sync_request` fill `m_decoded_uri` and `m_auth_token` where they are not
set, and the last lines of `on_sync_request` reset both.  An exception passes those lines by, and
the next request is forwarded with the URI and the token of the one before (`not_stateless`).
Requests share nothing exactly in the runs in which `on_sync_request` never throws while one of the
two is set (`stateless_iff`).
-/

namespace Circe.Gate

open Protocol

variable {M : MultimapInterface Bytes Bytes}

/-! ## The machine -/

/-- A session, and the callback at hand.  One that is done is `on_sync_expect`: its request is still
to be handled. -/
structure SessionRequests (M : MultimapInterface Bytes Bytes) where
  session : ClientHttpSession
  received : ℕ
  job : Option (ClientJob M)

/-- What may happen to a session.  The clock and the ban list are as a callback finds them. -/
inductive SessionEvent (M : MultimapInterface Bytes Bytes)
  /-- The next request; with `expect`, `on_sync_expect` is called first. -/
  | receive (reqHeaders : RequestHeaders M) (reqEntity : Bytes) (expect : Bool)
  /-- After `on_sync_expect`, `on_sync_request` is called for the same request, or it is not. -/
  | request
  | giveUp
  | goOn (now : ℕ) (bans : IpContainer) (input : JobInput)
  | shutdown

/-- An event, what it did, and the callback it found. -/
structure SessionLabel (M : MultimapInterface Bytes Bytes) where
  event : SessionEvent M
  effects : List (GateEffect M)
  job : Option (ClientJob M)

namespace SessionRequests

/-- A new connection. -/
def start (clientUuid : Uuid) (ip : Bytes) : SessionRequests M := ⟨.new clientUuid ip, 0, none⟩

/-- What a callback works on. -/
def context (x : SessionRequests M) (now : ℕ) (bans : IpContainer) : Context :=
  ⟨now, bans, x.session⟩

def Enabled (x : SessionRequests M) : SessionEvent M → Prop
  | .receive .. => x.job.isNone
  | .request | .giveUp => x.job.any fun job => job.stage = .done
  | .goOn _ _ input => x.job.any fun job => job.stage.takes input
  | .shutdown => True

instance (x : SessionRequests M) : DecidablePred x.Enabled
  | .receive .. | .request | .giveUp | .goOn .. => inferInstanceAs (Decidable (_ = true))
  | .shutdown => inferInstanceAs (Decidable True)

variable (config : Config) (P : SessionLibrary M)

/-- One event; `on_sync_request` that exits is the end of its request. -/
def handle (x : SessionRequests M) : SessionEvent M → List (GateEffect M) × SessionRequests M
  | .receive reqHeaders reqEntity expect =>
    let stage : Stage := if expect then .syncExpect else .syncRequest
    ([], { x with
      received := x.received + 1
      job := some ⟨x.received, 0, reqHeaders, reqEntity, stage⟩ })
  | .request => ([], { x with job := x.job.map fun job => { job with stage := .syncRequest } })
  | .giveUp => ([], { x with job := none })
  | .goOn now bans input =>
    match x.job with
    | none => ([], x)
    | some job =>
      let outcome := job.step config P (x.context now bans) input
      (outcome.effects,
        { x with
          session := outcome.context.session
          job := if job.stage.isRequest ∧ outcome.stage = .done then none
            else some { job with stage := outcome.stage } })
  | .shutdown => ([], { x with session := { x.session with shutdownWrite := true } })

def next (x : SessionRequests M) (event : SessionEvent M) : SessionLabel M × SessionRequests M :=
  let (effects, y) := x.handle config P event
  (⟨event, effects, x.job⟩, y)

def Step (x : SessionRequests M) (l : SessionLabel M) (y : SessionRequests M) : Prop :=
  x.Enabled l.event ∧ x.next config P l.event = (l, y)

end SessionRequests

/-! ## The property -/

/-- An auth server is asked about a request. -/
structure AsksAbout (authReq : HttpAuthenticationRequest) (reqHeaders : RequestHeaders M) :
    Prop where
  verb : authReq.verb = reqHeaders.verb
  params : authReq.params = keyValuesOf reqHeaders.getParams
  headers : authReq.headers = keyValuesOf reqHeaders.headers

section Requests

variable (P : SessionLibrary M) (history : List (SessionLabel M)) (job : ClientJob M)

/-- An event of the handling of a request. -/
def SessionLabel.IsAbout (l : SessionLabel M) : Prop :=
  l.job.map ClientJob.request = some job.request

/-- An auth server was asked about this very request, with this URI. -/
def AskedAbout (decodedUri : Bytes) : Prop :=
  ∃ l ∈ history, l.IsAbout job ∧ ∃ authReq, .toAuth (.http authReq) ∈ l.effects ∧
    AsksAbout authReq job.reqHeaders ∧ authReq.decodedUri = decodedUri

/-- An auth server answered with this token while this very request was handled. -/
def AnsweredWith (authToken : Bytes) : Prop :=
  ∃ l ∈ history, l.IsAbout job ∧ ∃ now bans authResp sending,
    l.event = .goOn now bans (.authResponse (.ok authResp) sending) ∧
      authResp.authToken = authToken

/-- **Obtained from a request itself**: the URI is its own, and the token is what an auth server
gave for it. -/
structure Obtained (decodedUri authToken : Bytes) : Prop where
  decoded : P.urlDecode job.reqHeaders.uri = some decodedUri
  asked : AskedAbout history job decodedUri
  answered : AnsweredWith history job authToken

end Requests

/-- Neither field is set. -/
def ClientHttpSession.isReset (session : ClientHttpSession) : Bool :=
  session.decodedUri.isNone && session.authToken.isNone

/-- **The requests of a session do not share authentication**: whenever none is at hand both fields
are empty, and what is forwarded with a request was obtained from it. -/
structure Stateless (config : Config) (P : SessionLibrary M) (x₀ : SessionRequests M)
    (history : List (SessionLabel M)) : Prop where
  reset : ∀ pre post t, history = pre ++ post →
    Lts.Run (SessionRequests.Step config P) x₀ pre t → t.job = none →
      t.session.decodedUri = none ∧ t.session.authToken = none
  own : ∀ pre l post req, history = pre ++ l :: post → .toFoyer (.http req) ∈ l.effects →
    ∃ job, l.job = some job ∧ Obtained P (pre ++ [l]) job req.decodedUri req.authToken

/-! ## The condition -/

/-- **The step does not throw while a field is set**, as far as it is one of `on_sync_request`. -/
def ClientJob.resets (config : Config) (P : SessionLibrary M) (job : ClientJob M) (c : Context)
    (input : JobInput) : Bool :=
  match job.stage, input with
  | .syncRequest, .perform sending =>
    if c.timeRemaining ≠ 0 ∨ P.pickContentEncoding job.reqHeaders = .notAcceptable then
      c.session.isReset
    else if job.reqHeaders.verb = .options then true
    else if job.reqHeaders.verb.isRelayed ∧
        (c.session.decodedUri.isSome ∨ decodes P job.reqHeaders) then
      (c.session.authToken.isSome || config.clientHttpEnabled) && sending = .sent
    else c.session.isReset
  | .authenticatingRequest, .authResponse (.ok authResp) sending =>
    !authResp.authToken.isEmpty && !c.session.shutdownWrite && sending = .sent
  | .authenticatingRequest, .authResponse (.error _) _ => false
  | .relaying, .foyerResponse (.ok foyerResp) => (P.statusCodeOf foyerResp.statusCode).isOk
  | .relaying, .foyerResponse (.error _) => false
  | _, _ => true

/-- The same of an event; a request is given up with nothing set. -/
def SessionRequests.Resets (config : Config) (P : SessionLibrary M) (x : SessionRequests M) :
    SessionEvent M → Prop
  | .giveUp => x.session.isReset
  | .goOn now bans input => x.job.all fun job => job.resets config P (x.context now bans) input
  | _ => True

instance (config : Config) (P : SessionLibrary M) (x : SessionRequests M) :
    DecidablePred (x.Resets config P)
  | .giveUp | .goOn .. => inferInstanceAs (Decidable (_ = true))
  | .receive .. | .request | .shutdown => inferInstanceAs (Decidable True)

/-! ## What a step leaves -/

section Resets

variable {config : Config} {P : SessionLibrary M} {c : Context} {reqHeaders : RequestHeaders M}
  {outcome : Outcome M}

/-- A callback that exits leaves nothing set. -/
def Outcome.Clean (outcome : Outcome M) : Prop :=
  outcome.stage = .done → outcome.context.session.isReset = true

/-- A stage whose callback has decoded the URI. -/
def Stage.filled : Stage → Bool
  | .authenticatingExpect | .authenticatingRequest | .relaying => true
  | _ => false

theorem Outcome.clean_iff_of_done (h : outcome.stage = .done) :
    outcome.Clean ↔ outcome.context.session.isReset = true := ⟨fun hclean => hclean h, fun h _ => h⟩

theorem isReset_reset (c : Context) : c.reset.session.isReset = true := rfl

theorem not_isReset (h : c.session.decodedUri.isSome = true) : ¬ c.session.isReset = true := by
  obtain ⟨decodedUri, hsome⟩ := Option.isSome_iff_exists.mp h
  simp [ClientHttpSession.isReset, hsome]

namespace Context

theorem clean_throw (e : HttpException M) : (c.throw e).Clean ↔ c.session.isReset = true :=
  Outcome.clean_iff_of_done rfl

theorem not_clean_throw (h : c.session.decodedUri.isSome = true) (e : HttpException M) :
    ¬ (c.throw e).Clean := fun hclean => not_isReset h ((clean_throw e).mp hclean)

/-- An authentication that fails leaves the URI. -/
theorem not_clean_failAuthentication (h : c.session.decodedUri.isSome = true)
    (e : HttpException M) : ¬ (c.failAuthentication config e).Clean := fun hclean =>
  not_isReset h (hclean rfl)

theorem clean_syncAuthenticate (h : c.session.decodedUri.isSome = true) (sending : Sending) :
    (c.syncAuthenticate config reqHeaders sending .authenticatingRequest).Clean ↔
      config.clientHttpEnabled = true ∧ sending = .sent := by
  simp only [syncAuthenticate]
  split
  case isTrue hdisabled =>
    refine iff_of_false (not_clean_failAuthentication h _) ?_
    rintro ⟨henabled, -⟩
    exact Bool.false_ne_true (hdisabled.symm.trans henabled)
  case isFalse henabled =>
    cases sending with
    | noServer => exact iff_of_false (not_clean_failAuthentication h _) (by simp)
    | threw what => exact iff_of_false (not_clean_failAuthentication h _) (by simp)
    | sent => exact iff_of_true (fun hdone => by cases hdone) ⟨by simpa using henabled, rfl⟩

theorem clean_relay (h : c.session.decodedUri.isSome = true) (reqEntity : Bytes)
    (sending : Sending) : (c.relay reqHeaders reqEntity sending).Clean ↔ sending = .sent := by
  cases sending with
  | noServer => exact iff_of_false (not_clean_throw h _) nofun
  | threw what => exact iff_of_false (not_clean_throw h _) nofun
  | sent => exact iff_of_true (fun hdone => by cases hdone) rfl

theorem clean_onSyncRequest (request session : ℕ) (reqEntity : Bytes) (sending : Sending) :
    (c.onSyncRequest config P reqHeaders reqEntity sending).Clean ↔
      (⟨request, session, reqHeaders, reqEntity, .syncRequest⟩ : ClientJob M).resets config P c
        (.perform sending) = true := by
  simp only [onSyncRequest, ClientJob.resets]
  by_cases hbanned : c.timeRemaining ≠ 0
  · rw [if_pos hbanned, if_pos (.inl hbanned)]
    exact clean_throw _
  rw [if_neg hbanned]
  by_cases hencoding : P.pickContentEncoding reqHeaders = .notAcceptable
  · rw [if_pos hencoding, if_pos (.inr hencoding)]
    exact clean_throw _
  rw [if_neg hencoding, if_neg (not_or.mpr ⟨hbanned, hencoding⟩)]
  by_cases hoptions : reqHeaders.verb = .options
  · rw [if_pos hoptions, if_pos hoptions]
    exact iff_of_true (fun _ => isReset_reset c) rfl
  rw [if_neg hoptions, if_neg hoptions]
  by_cases hverb : reqHeaders.verb.isRelayed = true
  · rw [if_pos hverb]
    have hcases := requireDecodedUri_cases P c reqHeaders
    split at hcases
    case isFalse hnone =>
      obtain ⟨e, he⟩ := hcases
      rw [he, if_neg fun h => hnone ((Bool.or_eq_true ..).mpr h.2)]
      exact clean_throw e
    case isTrue hdecodes =>
      obtain ⟨c', hc', -, -, -, htoken, hsome⟩ := hcases
      rw [hc', if_pos ⟨hverb, (Bool.or_eq_true ..).mp hdecodes⟩]
      dsimp only
      rw [htoken]
      by_cases hheld : c.session.authToken.isSome = true
      · rw [if_pos hheld, clean_relay hsome, hheld]
        simp
      · rw [if_neg hheld, clean_syncAuthenticate hsome, Bool.eq_false_iff.mpr hheld]
        simp
  · rw [if_neg hverb, if_neg fun h => hverb h.1]
    exact clean_throw _

theorem clean_onRequestAuthenticated (h : c.session.decodedUri.isSome = true) (reqEntity : Bytes)
    (resp : Except String HttpAuthenticationResponse) (sending : Sending) :
    (c.onRequestAuthenticated config P reqHeaders reqEntity resp sending).Clean ↔
      ∃ authResp, resp = .ok authResp ∧ authResp.authToken ≠ [] ∧
        c.session.shutdownWrite = false ∧ sending = .sent := by
  rw [onRequestAuthenticated]
  cases hauth : c.syncAuthenticated P resp with
  | error e =>
    refine iff_of_false (not_clean_failAuthentication h e) ?_
    rintro ⟨authResp, rfl, htoken, hopen, -⟩
    simp only [syncAuthenticated, if_neg htoken, hopen, Bool.false_eq_true, if_false] at hauth
    cases hauth
  | ok c' =>
    obtain ⟨authResp, rfl, htoken, hopen, rfl⟩ := syncAuthenticated_ok hauth
    have hfilled : (c.withAuthToken authResp.authToken).session.decodedUri.isSome = true := h
    refine (clean_relay hfilled reqEntity sending).trans ⟨fun hsent => ?_, ?_⟩
    · exact ⟨authResp, rfl, htoken, hopen, hsent⟩
    · rintro ⟨authResp', -, -, -, hsent⟩
      exact hsent

theorem clean_onRelayed (h : c.session.decodedUri.isSome = true)
    (resp : Except String HttpResponseFromBox) :
    (c.onRelayed P reqHeaders resp).Clean ↔
      ∃ foyerResp, resp = .ok foyerResp ∧ (P.statusCodeOf foyerResp.statusCode).isOk = true := by
  cases resp with
  | error what => exact iff_of_false (not_clean_throw h _) nofun
  | ok foyerResp =>
    simp only [onRelayed, respond]
    cases hstatus : P.statusCodeOf foyerResp.statusCode with
    | error what =>
      refine iff_of_false (not_clean_throw h _) ?_
      rintro ⟨foyerResp', heq, hok⟩
      cases heq
      rw [hstatus] at hok
      cases hok
    | ok statusCode =>
      exact iff_of_true (fun _ => isReset_reset c) ⟨foyerResp, rfl, by rw [hstatus]; rfl⟩

end Context

/-- **The condition of a step says whether `on_sync_request` leaves nothing set.** -/
theorem ClientJob.resets_iff (job : ClientJob M) {input : JobInput}
    (htakes : job.stage.takes input = true)
    (hfilled : job.stage.filled = true → c.session.decodedUri.isSome = true) :
    job.resets config P c input = true ↔
      (job.stage.isRequest = true → (job.step config P c input).Clean) := by
  obtain ⟨request, session, reqHeaders, reqEntity, stage⟩ := job
  cases stage with
  | syncRequest =>
    cases input with
    | perform sending =>
      refine Iff.trans ?_ (imp_iff_right rfl).symm
      exact (Context.clean_onSyncRequest request session reqEntity sending).symm
    | _ => cases htakes
  | authenticatingRequest =>
    cases input with
    | authResponse resp sending =>
      have hclean :
          (c.onRequestAuthenticated config P reqHeaders reqEntity resp sending).Clean ↔ _ :=
        Context.clean_onRequestAuthenticated (hfilled rfl) reqEntity resp sending
      refine Iff.trans ?_ (hclean.symm.trans (imp_iff_right rfl).symm)
      cases resp with
      | error what => exact iff_of_false Bool.false_ne_true nofun
      | ok authResp => simp [resets, and_assoc]
    | _ => cases htakes
  | relaying =>
    cases input with
    | foyerResponse resp =>
      have hclean : (c.onRelayed P reqHeaders resp).Clean ↔ _ :=
        Context.clean_onRelayed (hfilled rfl) resp
      refine Iff.trans ?_ (hclean.symm.trans (imp_iff_right rfl).symm)
      cases resp with
      | error what => exact iff_of_false Bool.false_ne_true nofun
      | ok foyerResp => simp [resets]
    | _ => cases htakes
  | _ =>
    refine iff_of_true ?_ nofun
    cases input <;> rfl

end Resets

/-! ## What a step obtains -/

section Own

variable {config : Config} {P : SessionLibrary M} {c : Context} {outcome : Outcome M}
  {history : List (SessionLabel M)} {job : ClientJob M}

/-- What a session holds belongs to the request of a job. -/
structure ClientHttpSession.Holds (P : SessionLibrary M) (history : List (SessionLabel M))
    (job : ClientJob M) (session : ClientHttpSession) : Prop where
  decodedUri : ∀ decodedUri, session.decodedUri = some decodedUri →
    P.urlDecode job.reqHeaders.uri = some decodedUri
  authToken : ∀ authToken, session.authToken = some authToken →
    ∃ decodedUri, session.decodedUri = some decodedUri ∧
      Obtained P history job decodedUri authToken

/-- An auth server was asked about the URI that a session holds. -/
def ClientHttpSession.Awaits (history : List (SessionLabel M)) (job : ClientJob M)
    (session : ClientHttpSession) : Prop :=
  ∃ decodedUri, session.decodedUri = some decodedUri ∧ AskedAbout history job decodedUri

/-- `sync_authenticate` waits. -/
def Stage.awaits : Stage → Bool
  | .authenticatingExpect | .authenticatingRequest => true
  | _ => false

/-- **A step does nothing for one request that belongs to another.** -/
structure Outcome.Own (P : SessionLibrary M) (history : List (SessionLabel M)) (job : ClientJob M)
    (outcome : Outcome M) : Prop where
  holds : outcome.context.session.Holds P history job
  awaits : outcome.stage.awaits = true → outcome.context.session.Awaits history job
  filled : outcome.stage.filled = true → outcome.context.session.decodedUri.isSome = true
  forwards : ∀ req, .toFoyer (.http req) ∈ outcome.effects →
    Obtained P history job req.decodedUri req.authToken

/-- What a step asks is in the history. -/
def Outcome.Recorded (history : List (SessionLabel M)) (job : ClientJob M) (outcome : Outcome M) :
    Prop :=
  ∀ authReq, .toAuth (.http authReq) ∈ outcome.effects → AsksAbout authReq job.reqHeaders →
    AskedAbout history job authReq.decodedUri

theorem ClientHttpSession.isReset_iff {session : ClientHttpSession} :
    session.isReset = true ↔ session.decodedUri = none ∧ session.authToken = none := by
  simp [isReset]

theorem ClientHttpSession.Holds.of_isReset {session : ClientHttpSession}
    (h : session.isReset = true) : session.Holds P history job := by
  obtain ⟨huri, htoken⟩ := isReset_iff.mp h
  exact ⟨by simp [huri], by simp [htoken]⟩

namespace Context

/-- A step that asks nobody, and waits for nobody. -/
theorem own_quiet (hquiet : outcome.Quiet) (h : outcome.context.session.Holds P history job) :
    outcome.Own P history job := by
  refine ⟨h, fun hawaits => ?_, fun hfilled => ?_, fun req hmem => ?_⟩
  · rw [hquiet.stage] at hawaits
    cases hawaits
  · rw [hquiet.stage] at hfilled
    cases hfilled
  · exact absurd hquiet.asks (by simpa [Outcome.asks] using ⟨_, hmem, rfl⟩)

/-- The URI of the request itself replaces what was there. -/
theorem holds_withDecodedUri (h : c.session.Holds P history job) {decodedUri : Bytes}
    (hdecode : P.urlDecode job.reqHeaders.uri = some decodedUri) :
    (c.withDecodedUri decodedUri).session.Holds P history job where
  decodedUri _ hsome := hdecode.trans hsome
  authToken authToken hsome := by
    obtain ⟨decodedUri', hsome', hobtained⟩ := h.authToken authToken hsome
    have hsame : some decodedUri = some decodedUri' := hdecode.symm.trans hobtained.decoded
    exact ⟨decodedUri', hsame, hobtained⟩

theorem own_syncAuthenticate {decodedUri : Bytes} (h : c.session.Holds P history job)
    (huri : c.session.decodedUri = some decodedUri) {sending : Sending} {waiting : Stage}
    (hrecorded : (c.syncAuthenticate config job.reqHeaders sending waiting).Recorded history job) :
    (c.syncAuthenticate config job.reqHeaders sending waiting).Own P history job := by
  simp only [syncAuthenticate] at hrecorded ⊢
  split
  case isTrue => exact own_quiet (quiet_failAuthentication _) h
  case isFalse henabled =>
    rw [if_neg henabled] at hrecorded
    cases sending with
    | noServer => exact own_quiet (quiet_failAuthentication _) h
    | threw what => exact own_quiet (quiet_failAuthentication _) h
    | sent =>
      refine ⟨h, fun _ => ⟨decodedUri, huri, ?_⟩, fun _ => Option.isSome_of_eq_some huri,
        fun req hmem => ?_⟩
      · have hasked := hrecorded _ (List.mem_singleton_self _) ⟨rfl, rfl, rfl⟩
        simpa [huri] using hasked
      · cases List.mem_singleton.mp hmem

theorem own_relay {authToken : Bytes} (h : c.session.Holds P history job)
    (htoken : c.session.authToken = some authToken) (reqEntity : Bytes) (sending : Sending) :
    (c.relay job.reqHeaders reqEntity sending).Own P history job := by
  cases sending with
  | noServer => exact own_quiet (quiet_throw _) h
  | threw what => exact own_quiet (quiet_throw _) h
  | sent =>
    obtain ⟨decodedUri, huri, hobtained⟩ := h.authToken authToken htoken
    refine ⟨h, nofun, fun _ => Option.isSome_of_eq_some huri, fun req hmem => ?_⟩
    cases List.mem_singleton.mp hmem
    simpa [httpRequestToBox, huri, htoken] using hobtained

theorem own_onSyncExpect (h : c.session.Holds P history job) {sending : Sending}
    (hrecorded : (c.onSyncExpect config P job.reqHeaders sending).Recorded history job) :
    (c.onSyncExpect config P job.reqHeaders sending).Own P history job := by
  rcases onSyncExpect_cases config P c job.reqHeaders sending with
    heq | ⟨e, heq⟩ | ⟨c', -, hdecode, heq⟩
  · rw [heq]
    exact own_quiet ⟨rfl, rfl⟩ h
  · rw [heq]
    exact own_quiet (quiet_throw e) h
  · rw [heq] at hrecorded ⊢
    obtain ⟨decodedUri, huri, -, rfl⟩ := syncDecodeUri_ok hdecode
    exact own_syncAuthenticate (holds_withDecodedUri h huri) rfl hrecorded

theorem own_onSyncRequest (h : c.session.Holds P history job) {reqEntity : Bytes}
    {sending : Sending}
    (hrecorded :
      (c.onSyncRequest config P job.reqHeaders reqEntity sending).Recorded history job) :
    (c.onSyncRequest config P job.reqHeaders reqEntity sending).Own P history job := by
  rcases onSyncRequest_cases config P c job.reqHeaders reqEntity sending with
    ⟨e, heq⟩ | ⟨-, heq⟩ | ⟨c', -, hdecode, heq⟩
  · rw [heq]
    exact own_quiet (quiet_throw e) h
  · rw [heq]
    exact own_quiet ⟨rfl, rfl⟩ (.of_isReset (isReset_reset c))
  · rw [heq] at hrecorded ⊢
    have hfilled : c'.session.Holds P history job ∧ c'.session.decodedUri.isSome = true := by
      rcases requireDecodedUri_ok hdecode with ⟨hsome, rfl⟩ | ⟨-, decodedUri, huri, -, rfl⟩
      · exact ⟨h, hsome⟩
      · exact ⟨holds_withDecodedUri h huri, rfl⟩
    split_ifs with htoken
    · obtain ⟨authToken, htoken⟩ := Option.isSome_iff_exists.mp htoken
      exact own_relay hfilled.1 htoken reqEntity sending
    · rw [if_neg htoken] at hrecorded
      obtain ⟨decodedUri, huri⟩ := Option.isSome_iff_exists.mp hfilled.2
      exact own_syncAuthenticate hfilled.1 huri hrecorded

/-- The answer to what was asked about a request is for that request. -/
theorem holds_syncAuthenticated {c' : Context} (h : c.session.Holds P history job)
    (hawaits : c.session.Awaits history job)
    {resp : Except String HttpAuthenticationResponse}
    (hanswered : ∀ authResp, resp = .ok authResp → AnsweredWith history job authResp.authToken)
    (hauth : c.syncAuthenticated P resp = .ok c') :
    c'.session.Holds P history job ∧ c'.session.authToken.isSome = true := by
  obtain ⟨authResp, rfl, -, -, rfl⟩ := syncAuthenticated_ok hauth
  obtain ⟨decodedUri, huri, hasked⟩ := hawaits
  refine ⟨⟨h.decodedUri, fun authToken htoken => ⟨decodedUri, huri, ?_⟩⟩, rfl⟩
  cases htoken
  exact ⟨h.decodedUri decodedUri huri, hasked, hanswered authResp rfl⟩

theorem own_onExpectAuthenticated (h : c.session.Holds P history job)
    (hawaits : c.session.Awaits history job) {resp : Except String HttpAuthenticationResponse}
    (hanswered : ∀ authResp, resp = .ok authResp → AnsweredWith history job authResp.authToken) :
    (c.onExpectAuthenticated config P resp).Own P history job := by
  rw [onExpectAuthenticated]
  cases hauth : c.syncAuthenticated P resp with
  | error e => exact own_quiet (quiet_failAuthentication e) h
  | ok c' => exact own_quiet ⟨rfl, rfl⟩ (holds_syncAuthenticated h hawaits hanswered hauth).1

theorem own_onRequestAuthenticated (h : c.session.Holds P history job)
    (hawaits : c.session.Awaits history job) (reqEntity : Bytes)
    {resp : Except String HttpAuthenticationResponse}
    (hanswered : ∀ authResp, resp = .ok authResp → AnsweredWith history job authResp.authToken)
    (sending : Sending) :
    (c.onRequestAuthenticated config P job.reqHeaders reqEntity resp sending).Own P
      history job := by
  rw [onRequestAuthenticated]
  cases hauth : c.syncAuthenticated P resp with
  | error e => exact own_quiet (quiet_failAuthentication e) h
  | ok c' =>
    obtain ⟨hholds, htoken⟩ := holds_syncAuthenticated h hawaits hanswered hauth
    obtain ⟨authToken, htoken⟩ := Option.isSome_iff_exists.mp htoken
    exact own_relay hholds htoken reqEntity sending

theorem own_onRelayed (h : c.session.Holds P history job)
    (resp : Except String HttpResponseFromBox) :
    (c.onRelayed P job.reqHeaders resp).Own P history job := by
  refine own_quiet (quiet_onRelayed resp) ?_
  cases resp with
  | error what => exact h
  | ok foyerResp =>
    simp only [onRelayed]
    split
    · exact h
    · exact .of_isReset (isReset_reset c)

end Context

/-- The job is one of `on_sync_expect` or `on_sync_request`. -/
def Stage.ofHttp : Stage → Bool
  | .syncExpect | .authenticatingExpect | .done => true
  | stage => stage.isRequest

/-- **A step of a job keeps what its session holds to its request.** -/
theorem ClientJob.own_step {input : JobInput} (hhttp : job.stage.ofHttp = true)
    (htakes : job.stage.takes input = true) (h : c.session.Holds P history job)
    (hawaits : job.stage.awaits = true → c.session.Awaits history job)
    (hrecorded : (job.step config P c input).Recorded history job)
    (hanswered : ∀ authResp sending, input = .authResponse (.ok authResp) sending →
      AnsweredWith history job authResp.authToken) :
    (job.step config P c input).Own P history job := by
  obtain ⟨request, session, reqHeaders, reqEntity, stage⟩ := job
  cases stage with
  | syncExpect =>
    cases input with
    | perform sending => exact Context.own_onSyncExpect h hrecorded
    | _ => cases htakes
  | authenticatingExpect =>
    cases input with
    | authResponse resp sending =>
      exact Context.own_onExpectAuthenticated h (hawaits rfl)
        fun authResp hresp => hanswered authResp sending (by rw [hresp])
    | _ => cases htakes
  | syncRequest =>
    cases input with
    | perform sending => exact Context.own_onSyncRequest h hrecorded
    | _ => cases htakes
  | authenticatingRequest =>
    cases input with
    | authResponse resp sending =>
      exact Context.own_onRequestAuthenticated h (hawaits rfl) reqEntity
        (fun authResp hresp => hanswered authResp sending (by rw [hresp])) sending
    | _ => cases htakes
  | relaying =>
    cases input with
    | foyerResponse resp => exact Context.own_onRelayed h resp
    | _ => cases htakes
  | done => cases input <;> cases htakes
  | websocketHandshake | authenticatingWebsocket | establishing => cases hhttp

theorem ClientJob.ofHttp_step {input : JobInput} (hhttp : job.stage.ofHttp = true)
    (htakes : job.stage.takes input = true) : (job.step config P c input).stage.ofHttp = true := by
  have hprogress : Progress config P c job.reqHeaders input _ job.stage := job.progress htakes
  obtain ⟨request, session, reqHeaders, reqEntity, stage⟩ := job
  cases hprogress with
  | quiet hquiet => exact congrArg Stage.ofHttp hquiet.stage
  | expect _ _ hstage => exact congrArg Stage.ofHttp hstage
  | request _ hstage => exact hstage.elim (congrArg Stage.ofHttp) (congrArg Stage.ofHttp)
  | authenticated hstage => exact congrArg Stage.ofHttp hstage
  | handshake | websocketAuthenticated => cases hhttp

end Own

/-! ## Runs -/

section Histories

variable {P : SessionLibrary M} {history : List (SessionLabel M)} {job : ClientJob M}
  {session : ClientHttpSession}

theorem AskedAbout.concat {decodedUri : Bytes} (h : AskedAbout history job decodedUri)
    (l : SessionLabel M) : AskedAbout (history ++ [l]) job decodedUri := by
  obtain ⟨l', hmem, hasks⟩ := h
  exact ⟨l', List.mem_append_left _ hmem, hasks⟩

theorem Obtained.concat {decodedUri authToken : Bytes}
    (h : Obtained P history job decodedUri authToken) (l : SessionLabel M) :
    Obtained P (history ++ [l]) job decodedUri authToken := by
  obtain ⟨l', hmem, hanswers⟩ := h.answered
  exact ⟨h.decoded, h.asked.concat l, l', List.mem_append_left _ hmem, hanswers⟩

theorem ClientHttpSession.Holds.concat (h : session.Holds P history job) (l : SessionLabel M) :
    session.Holds P (history ++ [l]) job := by
  refine ⟨h.decodedUri, fun authToken htoken => ?_⟩
  obtain ⟨decodedUri, huri, hobtained⟩ := h.authToken authToken htoken
  exact ⟨decodedUri, huri, hobtained.concat l⟩

theorem ClientHttpSession.Holds.withStage (h : session.Holds P history job) (stage : Stage) :
    session.Holds P history { job with stage := stage } := by
  refine ⟨h.decodedUri, fun authToken htoken => ?_⟩
  obtain ⟨decodedUri, huri, hobtained⟩ := h.authToken authToken htoken
  exact ⟨decodedUri, huri, hobtained.decoded, hobtained.asked, hobtained.answered⟩

theorem ClientHttpSession.Awaits.concat (h : session.Awaits history job) (l : SessionLabel M) :
    session.Awaits (history ++ [l]) job := by
  obtain ⟨decodedUri, huri, hasked⟩ := h
  exact ⟨decodedUri, huri, hasked.concat l⟩

end Histories

/-- What a session holds while a callback is at hand. -/
structure ClientJob.InHand (P : SessionLibrary M) (history : List (SessionLabel M))
    (session : ClientHttpSession) (job : ClientJob M) : Prop where
  http : job.stage.ofHttp = true
  holds : session.Holds P history job
  awaits : job.stage.awaits = true → session.Awaits history job
  filled : job.stage.filled = true → session.decodedUri.isSome = true

/-- **What holds in every run whose steps meet the condition.** -/
structure SessionInv (P : SessionLibrary M) (history : List (SessionLabel M))
    (x : SessionRequests M) : Prop where
  idle : x.job = none → x.session.isReset = true
  job : ∀ job, x.job = some job → job.InHand P history x.session

section Runs

variable {config : Config} {P : SessionLibrary M} {history : List (SessionLabel M)}
  {x x₀ y : SessionRequests M} {l : SessionLabel M}

/-- A callback that goes on does so for the request at hand. -/
theorem SessionInv.own {now : ℕ} {bans : IpContainer} {input : JobInput} {job : ClientJob M}
    (h : SessionInv P history x) (hjob : x.job = some job)
    (htakes : job.stage.takes input = true) (hevent : l.event = .goOn now bans input)
    (heffects : l.effects = (job.step config P (x.context now bans) input).effects)
    (hlabel : l.job = some job) :
    (job.step config P (x.context now bans) input).Own P (history ++ [l]) job := by
  have hhand := h.job job hjob
  have habout : l.IsAbout job := by rw [SessionLabel.IsAbout, hlabel, Option.map_some]
  refine ClientJob.own_step hhand.http htakes (hhand.holds.concat l)
    (fun hawaits => (hhand.awaits hawaits).concat l) ?_ ?_
  · intro authReq hmem hasks
    exact ⟨l, List.mem_concat_self, habout, authReq, heffects ▸ hmem, hasks, rfl⟩
  · rintro authResp sending rfl
    exact ⟨l, List.mem_concat_self, habout, now, bans, authResp, sending, hevent, rfl⟩

/-- **A step that meets the condition keeps the invariant, and forwards what is its own.** -/
theorem SessionInv.next {event : SessionEvent M} (h : SessionInv P history x)
    (henabled : x.Enabled event) (hresets : x.Resets config P event) :
    SessionInv P (history ++ [(x.next config P event).1]) (x.next config P event).2 ∧
      ∀ req, .toFoyer (.http req) ∈ (x.next config P event).1.effects →
        ∃ job, (x.next config P event).1.job = some job ∧
          Obtained P (history ++ [(x.next config P event).1]) job req.decodedUri req.authToken := by
  cases event with
  | receive reqHeaders reqEntity expect =>
    have hidle := h.idle (Option.isNone_iff_eq_none.mp henabled)
    refine ⟨⟨nofun, fun job hjob => ?_⟩, fun req hmem => absurd hmem List.not_mem_nil⟩
    cases hjob
    cases expect with
    | false => exact ⟨rfl, .of_isReset hidle, nofun, nofun⟩
    | true => exact ⟨rfl, .of_isReset hidle, nofun, nofun⟩
  | request =>
    obtain ⟨job, hjob, -⟩ := (Option.any_eq_true ..).mp henabled
    refine ⟨⟨fun hnone => ?_, fun job' hjob' => ?_⟩, fun req hmem => absurd hmem List.not_mem_nil⟩
    · cases (Option.map_eq_none_iff.mp hnone).symm.trans hjob
    · obtain ⟨job, hjob, rfl⟩ := Option.map_eq_some_iff.mp hjob'
      exact ⟨rfl, ((h.job job hjob).holds.concat _).withStage _, nofun, nofun⟩
  | giveUp => exact ⟨⟨fun _ => hresets, nofun⟩, fun req hmem => absurd hmem List.not_mem_nil⟩
  | shutdown =>
    refine ⟨⟨h.idle, fun job hjob => ?_⟩, fun req hmem => absurd hmem List.not_mem_nil⟩
    have hhand := h.job job hjob
    have hholds := hhand.holds.concat (x.next config P .shutdown).1
    exact ⟨hhand.http, ⟨hholds.decodedUri, hholds.authToken⟩,
      fun hawaits => (hhand.awaits hawaits).concat _, hhand.filled⟩
  | goOn now bans input =>
    obtain ⟨job, hjob, htakes⟩ := (Option.any_eq_true ..).mp henabled
    have hhand := h.job job hjob
    have hown : (job.step config P (x.context now bans) input).Own P
        (history ++ [(x.next config P (.goOn now bans input)).1]) job :=
      h.own hjob htakes rfl
        (by simp only [SessionRequests.next, SessionRequests.handle, hjob]) hjob
    have hhttp : (job.step config P (x.context now bans) input).stage.ofHttp = true :=
      ClientJob.ofHttp_step hhand.http htakes
    have hclean := (job.resets_iff htakes hhand.filled).mp
      ((Option.all_eq_true ..).mp hresets job hjob)
    simp only [SessionRequests.next, SessionRequests.handle, hjob] at hown ⊢
    refine ⟨⟨fun hnone => ?_, fun job' hjob' => ?_⟩, fun req hmem => ⟨job, rfl, ?_⟩⟩
    · split at hnone
      case isTrue hexits => exact hclean hexits.1 hexits.2
      case isFalse => cases hnone
    · split at hjob'
      case isTrue => cases hjob'
      case isFalse =>
        cases hjob'
        exact ⟨hhttp, hown.holds.withStage _, hown.awaits, hown.filled⟩
    · exact hown.forwards req hmem

theorem SessionInv.start (clientUuid : Uuid) (ip : Bytes) :
    SessionInv P [] (.start clientUuid ip : SessionRequests M) := ⟨fun _ => rfl, nofun⟩

theorem SessionRequests.Step.unique {y' : SessionRequests M} (h : x.Step config P l y)
    (h' : x.Step config P l y') : y = y' :=
  congrArg Prod.snd (h.2.symm.trans h'.2)

/-- What a run keeps, every beginning of it keeps. -/
theorem Stateless.of_append {post : List (SessionLabel M)}
    (h : Stateless config P x₀ (history ++ post)) : Stateless config P x₀ history := by
  refine ⟨fun pre post' t hsplit hpre => ?_, fun pre l post' req hsplit => ?_⟩
  · exact h.reset pre (post' ++ post) t (by rw [hsplit, List.append_assoc]) hpre
  · exact h.own pre l (post' ++ post) req (by rw [hsplit, List.append_assoc, List.cons_append])

/-- **A step that does not meet the condition leaves something set.** -/
theorem SessionInv.not_isReset {event : SessionEvent M} (h : SessionInv P history x)
    (henabled : x.Enabled event) (hresets : ¬ x.Resets config P event) :
    (x.next config P event).2.job = none ∧
      ¬ (x.next config P event).2.session.isReset = true := by
  cases event with
  | giveUp => exact ⟨rfl, hresets⟩
  | goOn now bans input =>
    obtain ⟨job, hjob, htakes⟩ := (Option.any_eq_true ..).mp henabled
    have hthrows : ¬ job.resets config P (x.context now bans) input = true := fun hjobResets =>
      hresets ((Option.all_eq_true ..).mpr fun job' hjob' => by
        cases hjob.symm.trans hjob'
        exact hjobResets)
    rw [job.resets_iff htakes (h.job job hjob).filled] at hthrows
    simp only [Outcome.Clean, Classical.not_imp] at hthrows
    obtain ⟨hrequest, hdone, hset⟩ := hthrows
    simp only [SessionRequests.next, SessionRequests.handle, hjob]
    exact ⟨if_pos ⟨hrequest, hdone⟩, hset⟩
  | _ => exact absurd trivial hresets

end Runs

/-! ## A request that nobody takes -/

/-- The URI of each request forwarded, and the URI and the token it was forwarded with. -/
def forwards (history : List (SessionLabel M)) : List (Bytes × Bytes × Bytes) :=
  history.flatMap fun l => l.effects.filterMap fun
    | .toFoyer (.http req) =>
      l.job.map fun job => (job.reqHeaders.uri, req.decodedUri, req.authToken)
    | _ => none

end Circe.Gate
