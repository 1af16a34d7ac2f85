import Circe.Gate.BanCauses
import Circe.Gate.BannedClients

/-!
# Gate/Authorization — what gets past a gate

Every request to a foyer server carries an auth token.  That of a WebSocket session is given in the
same job; that of an HTTP session may be left from another request of the same session.

* `authorized_of_run` — a token that goes to a foyer server is one that an auth server gave to a job
  of the same session, after that job had asked about its client.
-/

namespace Circe

namespace Protocol

/-- The client a request is made for. -/
def AuthRequest.client : AuthRequest → Uuid × Bytes
  | http req => (req.clientUuid, req.clientIp)
  | websocket req => (req.clientUuid, req.clientIp)

def FoyerRequest.client : FoyerRequest → Uuid × Bytes
  | http req => (req.clientUuid, req.clientIp)
  | websocketEstablishment req => (req.clientUuid, req.clientIp)

def FoyerRequest.authToken : FoyerRequest → Bytes
  | http req => req.authToken
  | websocketEstablishment req => req.authToken

end Protocol

namespace Gate

open Protocol Websocket

variable {M : MultimapInterface Bytes Bytes}

def ClientHttpSession.client (s : ClientHttpSession) : Uuid × Bytes := (s.clientUuid, s.ip)

/-- The token in the response of an auth server; an empty one is none. -/
def JobInput.token? : JobInput → Option Bytes
  | .authResponse (.ok resp) _ => some resp.authToken |>.filter (· ≠ [])
  | .websocketAuthResponse (.ok resp) _ => some resp.authToken |>.filter (· ≠ [])
  | _ => none

/-- `sync_authenticate` waits for an auth server. -/
def Stage.awaitsAuth : Stage → Bool
  | .authenticatingExpect | .authenticatingRequest | .authenticatingWebsocket => true
  | _ => false

/-! ## What a step of a job asks with -/

section Steps

variable {config : Config} {P : SessionLibrary M} {c c' : Context} {reqHeaders : RequestHeaders M}
  {input : JobInput} {outcome : Outcome M}

/-- A step of a job for this client: which token the session has then, and which one a foyer server
gets. -/
structure Authorizes (c : Context) (input : JobInput) (outcome : Outcome M) : Prop where
  client : outcome.context.session.client = c.session.client
  token : ∀ token, outcome.context.session.authToken = some token →
    c.session.authToken = some token ∨ input.token? = some token
  foyer : ∀ req, .toFoyer req ∈ outcome.effects → req.client = c.session.client ∧
    (c.session.authToken = some req.authToken ∨ input.token? = some req.authToken)
  auth : outcome.stage.awaitsAuth = true →
    ∃ req, .toAuth req ∈ outcome.effects ∧ req.client = c.session.client

/-- What is done between two waits: the client stays, and a token may go. -/
structure Passes (c c' : Context) : Prop where
  client : c'.session.client = c.session.client
  token : ∀ token, c'.session.authToken = some token → c.session.authToken = some token

theorem Passes.refl (c : Context) : Passes c c := ⟨rfl, fun _ h => h⟩

theorem Passes.reset (c : Context) : Passes c c.reset := ⟨rfl, fun _ h => by cases h⟩

theorem Passes.authorizes (h : Passes c c') (hc' : Authorizes c' input outcome) :
    Authorizes c input outcome := by
  refine ⟨hc'.client.trans h.client, fun token htoken => ?_, fun req hreq => ?_, fun hauth => ?_⟩
  · exact (hc'.token token htoken).imp_left (h.token token)
  · obtain ⟨hclient, htoken⟩ := hc'.foyer req hreq
    exact ⟨hclient.trans h.client, htoken.imp_left (h.token _)⟩
  · obtain ⟨req, hreq, hclient⟩ := hc'.auth hauth
    exact ⟨req, hreq, hclient.trans h.client⟩

/-- A job that asks nobody. -/
theorem Authorizes.of_quiet (hquiet : outcome.Quiet)
    (hclient : outcome.context.session.client = c.session.client)
    (htoken : ∀ token, outcome.context.session.authToken = some token →
      c.session.authToken = some token ∨ input.token? = some token) :
    Authorizes c input outcome := by
  refine ⟨hclient, htoken, fun req hreq => ?_, fun hauth => ?_⟩
  · have hasks : outcome.asks = true := List.any_eq_true.mpr ⟨_, hreq, rfl⟩
    exact absurd (hquiet.asks.symm.trans hasks) (by simp)
  · rw [hquiet.stage] at hauth
    cases hauth

theorem Authorizes.of_passes (hquiet : outcome.Quiet) (h : Passes c outcome.context) :
    Authorizes c input outcome :=
  .of_quiet hquiet h.client fun token htoken => .inl (h.token token htoken)

namespace Context

theorem passes_syncDecodeUri {uri : Bytes} (h : c.syncDecodeUri P uri = .ok c') : Passes c c' := by
  obtain ⟨decodedUri, -, -, rfl⟩ := syncDecodeUri_ok h
  exact ⟨rfl, fun _ h => h⟩

theorem passes_requireDecodedUri {uri : Bytes} (h : c.requireDecodedUri P uri = .ok c') :
    Passes c c' := by
  rw [requireDecodedUri] at h
  split at h
  · obtain rfl := Except.ok.inj h
    exact .refl c
  · exact passes_syncDecodeUri h

theorem passes_failAuthentication (e : HttpException M) :
    Passes c (c.failAuthentication config e).context := ⟨rfl, fun _ h => h⟩

theorem passes_failWebsocket (e : SessionException) :
    Passes c (c.failWebsocket config e : Outcome M).context := ⟨rfl, fun _ h => h⟩

theorem authorizes_syncAuthenticate (sending : Sending) (waiting : Stage) :
    Authorizes c input (c.syncAuthenticate config reqHeaders sending waiting) := by
  simp only [syncAuthenticate]
  split
  case isTrue => exact .of_passes (quiet_failAuthentication _) (passes_failAuthentication _)
  case isFalse =>
    cases sending with
    | noServer => exact .of_passes (quiet_failAuthentication _) (passes_failAuthentication _)
    | threw what => exact .of_passes (quiet_failAuthentication _) (passes_failAuthentication _)
    | sent =>
      refine ⟨rfl, fun _ h => .inl h, fun req hreq => ?_, fun _ => ?_⟩
      · cases List.mem_singleton.mp hreq
      · exact ⟨_, List.mem_singleton_self _, rfl⟩

/-- `on_sync_request` relays with the token of the session. -/
theorem authorizes_relay {token : Bytes} (hclient : c'.session.client = c.session.client)
    (htoken : c'.session.authToken = some token)
    (hgiven : c.session.authToken = some token ∨ input.token? = some token) (reqEntity : Bytes)
    (sending : Sending) : Authorizes c input (c'.relay reqHeaders reqEntity sending) := by
  have hsame : ∀ t, c'.session.authToken = some t →
      c.session.authToken = some t ∨ input.token? = some t := by
    intro t ht
    obtain rfl := Option.some.inj (htoken.symm.trans ht)
    exact hgiven
  cases sending with
  | noServer => exact .of_quiet (quiet_throw _) hclient hsame
  | threw what => exact .of_quiet (quiet_throw _) hclient hsame
  | sent =>
    refine ⟨hclient, hsame, fun req hreq => ?_, fun hauth => by cases hauth⟩
    obtain rfl := GateEffect.toFoyer.inj (List.mem_singleton.mp hreq)
    have htok : c'.session.authToken.getD [] = token := by rw [htoken]; rfl
    exact ⟨hclient, htok.symm ▸ hgiven⟩

theorem authorizes_onSyncExpect (sending : Sending) :
    Authorizes c input (c.onSyncExpect config P reqHeaders sending) := by
  rcases onSyncExpect_cases config P c reqHeaders sending with
    heq | ⟨e, heq⟩ | ⟨c', -, hdecode, heq⟩
  · exact heq ▸ .of_passes ⟨rfl, rfl⟩ (.refl c)
  · exact heq ▸ .of_passes (quiet_throw e) (.refl c)
  · rw [heq]
    exact (passes_syncDecodeUri hdecode).authorizes (authorizes_syncAuthenticate _ _)

theorem authorizes_onSyncRequest (reqEntity : Bytes) (sending : Sending) :
    Authorizes c input (c.onSyncRequest config P reqHeaders reqEntity sending) := by
  rcases onSyncRequest_cases config P c reqHeaders reqEntity sending with
    ⟨e, heq⟩ | ⟨-, heq⟩ | ⟨c', -, hdecode, heq⟩
  · exact heq ▸ .of_passes (quiet_throw e) (.refl c)
  · exact heq ▸ .of_passes ⟨rfl, rfl⟩ (.reset c)
  · rw [heq]
    refine (passes_requireDecodedUri hdecode).authorizes ?_
    split
    case isTrue hsome =>
      obtain ⟨token, htoken⟩ := Option.isSome_iff_exists.mp hsome
      exact authorizes_relay rfl htoken (.inl htoken) reqEntity sending
    case isFalse => exact authorizes_syncAuthenticate _ _

/-- An auth server gave a token. -/
theorem token?_authResponse {resp : Except String HttpAuthenticationResponse}
    (h : c.syncAuthenticated P resp = .ok c') (sending : Sending) :
    c'.session.client = c.session.client ∧ ∃ token, c'.session.authToken = some token ∧
      (JobInput.authResponse resp sending).token? = some token := by
  obtain ⟨authResp, rfl, htoken, -, rfl⟩ := syncAuthenticated_ok h
  exact ⟨rfl, authResp.authToken, rfl, by simp [JobInput.token?, htoken]⟩

theorem authorizes_onExpectAuthenticated (resp : Except String HttpAuthenticationResponse)
    (sending : Sending) :
    Authorizes c (.authResponse resp sending) (c.onExpectAuthenticated config P resp) := by
  rw [onExpectAuthenticated]
  split
  case h_1 => exact .of_passes (quiet_failAuthentication _) (passes_failAuthentication _)
  case h_2 c' hauth =>
    obtain ⟨hclient, token, htoken, hgiven⟩ := token?_authResponse hauth sending
    refine .of_quiet ⟨rfl, rfl⟩ hclient fun t ht => ?_
    obtain rfl := Option.some.inj (htoken.symm.trans ht)
    exact .inr hgiven

theorem authorizes_onRequestAuthenticated (reqEntity : Bytes)
    (resp : Except String HttpAuthenticationResponse) (sending : Sending) :
    Authorizes c (.authResponse resp sending)
      (c.onRequestAuthenticated config P reqHeaders reqEntity resp sending) := by
  rw [onRequestAuthenticated]
  split
  case h_1 => exact .of_passes (quiet_failAuthentication _) (passes_failAuthentication _)
  case h_2 c' hauth =>
    obtain ⟨hclient, token, htoken, hgiven⟩ := token?_authResponse hauth sending
    exact authorizes_relay hclient htoken (.inr hgiven) reqEntity sending

theorem authorizes_onRelayed (resp : Except String HttpResponseFromBox) :
    Authorizes c input (c.onRelayed P reqHeaders resp) := by
  refine .of_passes (quiet_onRelayed resp) ?_
  cases resp with
  | error what => exact .refl c
  | ok foyerResp =>
    simp only [onRelayed]
    split
    · exact .refl c
    · exact .reset c

theorem authorizes_syncAuthenticateWebsocket (sending : Sending) :
    Authorizes c input (c.syncAuthenticateWebsocket config reqHeaders sending) := by
  simp only [syncAuthenticateWebsocket]
  split
  case isTrue => exact .of_passes (quiet_failWebsocket _) (passes_failWebsocket _)
  case isFalse =>
    cases sending with
    | noServer => exact .of_passes (quiet_failWebsocket _) (passes_failWebsocket _)
    | threw what => exact .of_passes (quiet_failWebsocket _) (passes_failWebsocket _)
    | sent =>
      refine ⟨rfl, fun _ h => .inl h, fun req hreq => ?_, fun _ => ?_⟩
      · cases List.mem_singleton.mp hreq
      · exact ⟨_, List.mem_singleton_self _, rfl⟩

/-- Something that is no request was done before. -/
theorem authorizes_after {effects : List (GateEffect M)}
    (heffects : effects.any GateEffect.isRequest = false) (h : Authorizes c input outcome) :
    Authorizes c input (outcome.after effects) := by
  refine ⟨h.client, h.token, fun req hreq => ?_, fun hauth => ?_⟩
  · rcases List.mem_append.mp hreq with hbefore | hreq
    · have hany : effects.any GateEffect.isRequest = true :=
        List.any_eq_true.mpr ⟨_, hbefore, rfl⟩
      exact absurd (heffects.symm.trans hany) (by simp)
    · exact h.foyer req hreq
  · obtain ⟨req, hreq, hclient⟩ := h.auth hauth
    exact ⟨req, List.mem_append_right _ hreq, hclient⟩

theorem authorizes_performHandshake (sending : Sending) :
    Authorizes c input (c.performHandshake config P reqHeaders sending) := by
  have hanswer (c' : Context) (hpasses : Passes c c') (e : HttpException M) :
      Authorizes c input (c'.answer e) := by
    refine .of_passes (quiet_answer e) ⟨?_, ?_⟩
    · cases e <;> exact hpasses.client
    · cases e <;> exact hpasses.token
  rw [performHandshake]
  split
  case isTrue => exact .of_passes ⟨rfl, rfl⟩ (.refl c)
  case isFalse =>
    split
    case h_1 e _ => exact hanswer c (.refl c) e
    case h_2 c' hdecode =>
      have hpasses := passes_syncDecodeUri hdecode
      dsimp only
      split
      case isTrue =>
        exact hpasses.authorizes (authorizes_after rfl (authorizes_syncAuthenticateWebsocket _))
      case isFalse => exact hanswer c' hpasses _

theorem authorizes_performExpired : Authorizes c input (c.performExpired : Outcome M) := by
  refine .of_passes quiet_performExpired ?_
  rw [performExpired]
  split
  · exact .refl c
  · exact ⟨rfl, fun _ h => h⟩

/-- A WebSocket session is established with the token that was given for it. -/
theorem authorizes_onWebsocketAuthenticated (resp : Except String WebsocketAuthenticationResponse)
    (sending : Sending) :
    Authorizes c (.websocketAuthResponse resp sending)
      (c.onWebsocketAuthenticated config P reqHeaders resp sending) := by
  have hfailed (e : SessionException) : Authorizes c (.websocketAuthResponse resp sending)
      (c.failWebsocket config e : Outcome M) :=
    .of_passes (quiet_failWebsocket e) (passes_failWebsocket e)
  cases resp with
  | error what => exact hfailed _
  | ok authResp =>
    have hsent := isRequest_sendMessages (P := P) authResp.messages
    simp only [onWebsocketAuthenticated]
    split
    case h_1 effects what heq =>
      rw [heq] at hsent
      exact authorizes_after hsent (hfailed _)
    case h_2 effects heq =>
      rw [heq] at hsent
      refine authorizes_after hsent ?_
      split_ifs with htoken
      · split
        · exact hfailed _
        · exact hfailed _
      · cases sending with
        | noServer => exact hfailed _
        | threw what => exact hfailed _
        | sent =>
          refine ⟨rfl, fun _ h => .inl h, fun req hreq => ?_, fun hauth => by cases hauth⟩
          obtain rfl := GateEffect.toFoyer.inj (List.mem_singleton.mp hreq)
          refine ⟨rfl, .inr ?_⟩
          simp [JobInput.token?, FoyerRequest.authToken, htoken]

theorem authorizes_onEstablished (authToken : Bytes) (resp : Except String Uuid) :
    Authorizes c input (c.onEstablished config authToken resp : Outcome M) := by
  refine .of_passes (quiet_onEstablished authToken resp) ?_
  cases resp with
  | error what => exact passes_failWebsocket _
  | ok boxUuid =>
    simp only [onEstablished]
    split
    · exact ⟨rfl, fun _ h => h⟩
    · exact .refl c

theorem passes_onLowLevelRequestEnd (config : Config) (P : SessionLibrary M) (c : Context)
    (reqHeaders : RequestHeaders M) :
    Passes c (c.onLowLevelRequestEnd config P reqHeaders).context := by
  simp only [onLowLevelRequestEnd]
  split_ifs
  · exact ⟨rfl, fun _ h => h⟩
  · exact ⟨rfl, fun _ h => h⟩
  · exact ⟨rfl, fun _ h => h⟩
  · exact ⟨rfl, fun _ h => h⟩
  · split <;> exact ⟨rfl, fun _ h => h⟩

theorem passes_onLowLevelMessageEnd :
    Passes c (c.onLowLevelMessageEnd config P : Outcome M).context := by
  rw [onLowLevelMessageEnd]
  split
  · exact .refl c
  · dsimp only
    split <;> exact ⟨rfl, fun _ h => h⟩

end Context

/-- **What a step of a job asks with.** -/
theorem ClientJob.authorizes (job : ClientJob M) (h : job.stage.takes input = true) :
    Authorizes c input (job.step config P c input) := by
  obtain ⟨request, session, reqHeaders, reqEntity, stage⟩ := job
  cases input with
  | perform sending =>
    cases stage with
    | syncExpect => exact Context.authorizes_onSyncExpect sending
    | syncRequest => exact Context.authorizes_onSyncRequest reqEntity sending
    | websocketHandshake => exact Context.authorizes_performHandshake sending
    | _ => cases h
  | expired =>
    cases stage with
    | websocketHandshake => exact Context.authorizes_performExpired
    | _ => cases h
  | authResponse resp sending =>
    cases stage with
    | authenticatingExpect => exact Context.authorizes_onExpectAuthenticated resp sending
    | authenticatingRequest =>
      exact Context.authorizes_onRequestAuthenticated reqEntity resp sending
    | _ => cases h
  | foyerResponse resp =>
    cases stage with
    | relaying => exact Context.authorizes_onRelayed resp
    | _ => cases h
  | websocketAuthResponse resp sending =>
    cases stage with
    | authenticatingWebsocket => exact Context.authorizes_onWebsocketAuthenticated resp sending
    | _ => cases h
  | websocketEstablished resp =>
    cases stage with
    | establishing authToken => exact Context.authorizes_onEstablished authToken resp
    | _ => cases h

end Steps

/-! ## What an auth server gave -/

/-- The `j`-th job asked an auth server about this client. -/
def AskedFor (history : List (ClientLabel M)) (j : ℕ) (client : Uuid × Bytes) : Prop :=
  ∃ l ∈ history, (∃ input, l.event = .job j input) ∧
    ∃ req, .toAuth req ∈ l.effects ∧ req.client = client

/-- A job of the `i`-th session asked an auth server about the client of the session, and then got
this token. -/
def ClientSessions.Given (x : ClientSessions M) (history : List (ClientLabel M)) (i : ℕ)
    (token : Bytes) : Prop :=
  ∃ before l after j input job s, history = before ++ l :: after ∧ l.event = .job j input ∧
    input.token? = some token ∧ x.jobs[j]? = some job ∧ job.session = i ∧
      x.sessions[i]? = some s ∧ AskedFor before j s.client

/-- A job that sends a request to a foyer server sends it for the client of its session, with a
token that was given to a job of the session by then. -/
def ClientSessions.Authorized (x : ClientSessions M) (history : List (ClientLabel M)) : Prop :=
  ∀ before l after, history = before ++ l :: after → ∀ req, .toFoyer req ∈ l.effects →
    req.authToken ≠ [] ∧ ∃ j input job s, l.event = .job j input ∧ x.jobs[j]? = some job ∧
      x.sessions[job.session]? = some s ∧ req.client = s.client ∧
        x.Given (before ++ [l]) job.session req.authToken

structure AuthInv (history : List (ClientLabel M)) (x : ClientSessions M) : Prop where
  waiting : ∀ (j : ℕ) (job : ClientJob M), x.jobs[j]? = some job → job.stage.awaitsAuth = true →
    ∃ s, x.sessions[job.session]? = some s ∧ AskedFor history j s.client
  token : ∀ (i : ℕ) (s : ClientHttpSession), x.sessions[i]? = some s →
    ∀ token, s.authToken = some token → x.Given history i token
  authorized : x.Authorized history

/-- The sessions and the jobs there are stay what they are. -/
structure Grows (x y : ClientSessions M) : Prop where
  sessions : ∀ (i : ℕ) (s : ClientHttpSession), x.sessions[i]? = some s →
    ∃ s', y.sessions[i]? = some s' ∧ s'.client = s.client
  jobs : ∀ (j : ℕ) (job : ClientJob M), x.jobs[j]? = some job →
    ∃ job', y.jobs[j]? = some job' ∧ job'.session = job.session

section Runs

variable {config : Config} {P : SessionLibrary M} {history : List (ClientLabel M)}
  {x y : ClientSessions M} {l : ClientLabel M} {client : Uuid × Bytes} {i j : ℕ} {token : Bytes}

theorem AskedFor.append (h : AskedFor history j client) (later : List (ClientLabel M)) :
    AskedFor (history ++ later) j client := by
  obtain ⟨l, hl, hasked⟩ := h
  exact ⟨l, List.mem_append_left _ hl, hasked⟩

theorem JobInput.token?_ne {input : JobInput} (h : input.token? = some token) : token ≠ [] := by
  rw [JobInput.token?.eq_def] at h
  split at h
  · simpa using (Option.filter_eq_some_iff.mp h).2
  · simpa using (Option.filter_eq_some_iff.mp h).2
  · cases h

theorem ClientSessions.Given.ne_nil (h : x.Given history i token) : token ≠ [] := by
  obtain ⟨_, _, _, _, _, _, _, -, -, htoken, -⟩ := h
  exact JobInput.token?_ne htoken

theorem ClientSessions.Given.grows (h : x.Given history i token) (hgrows : Grows x y)
    (later : List (ClientLabel M)) : y.Given (history ++ later) i token := by
  obtain ⟨before, l, after, j, input, job, s, rfl, hevent, htoken, hjob, hi, hs, hasked⟩ := h
  obtain ⟨s', hs', hclient⟩ := hgrows.sessions i s hs
  obtain ⟨job', hjob', hsession⟩ := hgrows.jobs j job hjob
  exact ⟨before, l, after ++ later, j, input, job', s', by simp, hevent, htoken, hjob',
    hsession.trans hi, hs', hclient ▸ hasked⟩

/-- **What one step adds** to what was given. -/
theorem AuthInv.step (h : AuthInv history x) (hgrows : Grows x y)
    (hjobs : ∀ (j : ℕ) (job : ClientJob M), y.jobs[j]? = some job → job.stage.awaitsAuth = true →
      x.jobs[j]? = some job ∨
        ∃ s, y.sessions[job.session]? = some s ∧ AskedFor (history ++ [l]) j s.client)
    (htokens : ∀ (i : ℕ) (s : ClientHttpSession), y.sessions[i]? = some s →
      ∀ token, s.authToken = some token → (∃ s', x.sessions[i]? = some s' ∧
        s'.authToken = some token) ∨ y.Given (history ++ [l]) i token)
    (hfoyer : ∀ req, .toFoyer req ∈ l.effects → ∃ j input job s, l.event = .job j input ∧
      y.jobs[j]? = some job ∧ y.sessions[job.session]? = some s ∧ req.client = s.client ∧
        y.Given (history ++ [l]) job.session req.authToken) :
    AuthInv (history ++ [l]) y := by
  refine ⟨fun j job hjob hawaits => ?_, fun i s hs token htoken => ?_,
    fun before l' after hsplit req hreq => ?_⟩
  · rcases hjobs j job hjob hawaits with hold | hnew
    · obtain ⟨s, hs, hasked⟩ := h.waiting j job hold hawaits
      obtain ⟨s', hs', hclient⟩ := hgrows.sessions _ s hs
      exact ⟨s', hs', hclient ▸ hasked.append [l]⟩
    · exact hnew
  · rcases htokens i s hs token htoken with ⟨s', hs', hold⟩ | hnew
    · exact (h.token i s' hs' token hold).grows hgrows [l]
    · exact hnew
  · rcases List.eq_nil_or_concat after with rfl | ⟨after', last, rfl⟩
    · obtain ⟨rfl, hl⟩ := List.append_inj' hsplit rfl
      obtain rfl := List.singleton_inj.mp hl
      obtain ⟨j, input, job, s, hevent, hjob, hs, hclient, hgiven⟩ := hfoyer req hreq
      exact ⟨hgiven.ne_nil, j, input, job, s, hevent, hjob, hs, hclient, hgiven⟩
    · have hsplit' : history ++ [l] = (before ++ l' :: after') ++ [last] := by simpa using hsplit
      obtain ⟨hpre, -⟩ := List.append_inj' hsplit' rfl
      obtain ⟨hne, j, input, job, s, hevent, hjob, hs, hclient, hgiven⟩ :=
        h.authorized before l' after' hpre req hreq
      obtain ⟨job', hjob', hsession⟩ := hgrows.jobs j job hjob
      obtain ⟨s', hs', hsame⟩ := hgrows.sessions _ s hs
      refine ⟨hne, j, input, job', s', hevent, hjob', hsession ▸ hs', hclient.trans hsame.symm, ?_⟩
      rw [hsession]
      simpa using hgiven.grows hgrows []

theorem of_getElem?_set {α : Type*} {as : List α} {k i : ℕ} {a b : α}
    (h : (as.set k a)[i]? = some b) : k = i ∧ b = a ∨ k ≠ i ∧ as[i]? = some b := by
  by_cases hik : k = i
  · subst hik
    have hlt : k < (as.set k a).length := (List.getElem?_eq_some_iff.mp h).1
    rw [List.getElem?_set_self (by simpa using hlt)] at h
    exact .inl ⟨rfl, (Option.some.inj h).symm⟩
  · rw [List.getElem?_set_ne hik] at h
    exact .inr ⟨hik, h⟩

/-- An element that changes keeps what is said of it. -/
theorem getElem?_set_related {α : Type*} {as : List α} {k : ℕ} {a a' : α} {r : α → α → Prop}
    (hr : ∀ b, r b b) (hk : as[k]? = some a) (ha : r a a') (i : ℕ) (b : α) (hb : as[i]? = some b) :
    ∃ b', (as.set k a')[i]? = some b' ∧ r b b' := by
  by_cases hik : k = i
  · subst hik
    obtain rfl := Option.some.inj (hk.symm.trans hb)
    exact ⟨a', List.getElem?_set_self (List.getElem?_eq_some_iff.mp hk).1, ha⟩
  · exact ⟨b, (List.getElem?_set_ne hik).trans hb, hr b⟩

theorem Grows.of_sessions {k : ℕ} {s s' : ClientHttpSession} (hs : x.sessions[k]? = some s)
    (hclient : s'.client = s.client) (hy : y.sessions = x.sessions.set k s')
    (hjobs : ∀ (j : ℕ) (job : ClientJob M), x.jobs[j]? = some job →
      ∃ job', y.jobs[j]? = some job' ∧ job'.session = job.session) : Grows x y := by
  refine ⟨fun i t ht => ?_, hjobs⟩
  rw [hy]
  exact getElem?_set_related (r := fun s s' => s'.client = s.client) (fun _ => rfl) hs hclient i t
    ht

/-- Jobs may be enqueued. -/
theorem jobs_append (jobs : List (ClientJob M)) (j : ℕ) (job : ClientJob M)
    (hjob : x.jobs[j]? = some job) :
    ∃ job', (x.jobs ++ jobs)[j]? = some job' ∧ job'.session = job.session :=
  ⟨job, by rw [List.getElem?_append_left (List.getElem?_eq_some_iff.mp hjob).1, hjob], rfl⟩

/-- A job that was there, or was enqueued. -/
theorem of_getElem?_append {α : Type*} {as bs : List α} {j : ℕ} {a : α}
    (h : (as ++ bs)[j]? = some a) : as[j]? = some a ∨ a ∈ bs := by
  rw [List.getElem?_append] at h
  split at h
  · exact .inl h
  · exact .inr (List.mem_of_getElem? h)

/-- A step that asks nobody, and after which no session has another token. -/
theorem AuthInv.quiet (h : AuthInv history x) (hgrows : Grows x y)
    (htokens : ∀ (i : ℕ) (s : ClientHttpSession), y.sessions[i]? = some s →
      ∀ token, s.authToken = some token →
        ∃ s', x.sessions[i]? = some s' ∧ s'.authToken = some token)
    (hjobs : ∀ (j : ℕ) (job : ClientJob M), y.jobs[j]? = some job → job.stage.awaitsAuth = true →
      x.jobs[j]? = some job)
    (hquiet : l.effects.any GateEffect.isRequest = false) : AuthInv (history ++ [l]) y := by
  refine h.step hgrows (fun j job hjob hawaits => .inl (hjobs j job hjob hawaits))
    (fun i s hs token htoken => .inl (htokens i s hs token htoken)) fun req hreq => ?_
  have hany : l.effects.any GateEffect.isRequest = true := List.any_eq_true.mpr ⟨_, hreq, rfl⟩
  exact absurd (hquiet.symm.trans hany) (by simp)

/-- A callback of a session that authenticates nobody. -/
theorem AuthInv.passes (h : AuthInv history x) {k : ℕ} {s : ClientHttpSession}
    (hs : x.sessions[k]? = some s) {c : Context} (hpasses : Passes (x.context s) c)
    (hy : y.sessions = x.sessions.set k c.session) (jobs : List (ClientJob M))
    (hyjobs : y.jobs = x.jobs ++ jobs) (hjobs : ∀ job ∈ jobs, job.stage.awaitsAuth = false)
    (hquiet : l.effects.any GateEffect.isRequest = false) : AuthInv (history ++ [l]) y := by
  refine h.quiet (.of_sessions hs hpasses.client hy (hyjobs ▸ jobs_append jobs))
    (fun i t ht token htoken => ?_) (fun j job hjob hawaits => ?_) hquiet
  · rcases of_getElem?_set (hy ▸ ht) with ⟨rfl, rfl⟩ | ⟨-, ht⟩
    · exact ⟨s, hs, hpasses.token token htoken⟩
    · exact ⟨t, ht, htoken⟩
  · exact (of_getElem?_append (hyjobs ▸ hjob)).resolve_right fun hnew =>
      absurd ((hjobs job hnew).symm.trans hawaits) (by simp)

/-- Nothing happens to the sessions that are there. -/
theorem AuthInv.same (h : AuthInv history x) (sessions : List ClientHttpSession)
    (hsessions : ∀ s ∈ sessions, s.authToken = none) (hy : y.sessions = x.sessions ++ sessions)
    (jobs : List (ClientJob M)) (hyjobs : y.jobs = x.jobs ++ jobs)
    (hjobs : ∀ job ∈ jobs, job.stage.awaitsAuth = false) (heffects : l.effects = []) :
    AuthInv (history ++ [l]) y := by
  refine h.quiet ⟨fun i s hs => ?_, hyjobs ▸ jobs_append jobs⟩ (fun i s hs token htoken => ?_)
    (fun j job hjob hawaits => ?_) (by rw [heffects]; rfl)
  · refine ⟨s, ?_, rfl⟩
    rw [hy, List.getElem?_append_left (List.getElem?_eq_some_iff.mp hs).1, hs]
  · rcases Nat.lt_or_ge i x.sessions.length with hlt | hge
    · rw [hy, List.getElem?_append_left hlt] at hs
      exact ⟨s, hs, htoken⟩
    · rw [hy, List.getElem?_append_right hge] at hs
      exact absurd ((hsessions s (List.mem_of_getElem? hs)).symm.trans htoken) (by simp)
  · exact (of_getElem?_append (hyjobs ▸ hjob)).resolve_right fun hnew =>
      absurd ((hjobs job hnew).symm.trans hawaits) (by simp)

/-- A token is given to a job that waits for an auth server. -/
theorem awaitsAuth_of_token {stage : Stage} {input : JobInput} (htakes : stage.takes input = true)
    (htoken : input.token? = some token) : stage.awaitsAuth = true := by
  cases input with
  | authResponse resp sending => cases stage <;> first | rfl | cases htakes
  | websocketAuthResponse resp sending => cases stage <;> first | rfl | cases htakes
  | _ => cases htoken

theorem AuthInv.jobStep {j : ℕ} {input : JobInput} (h : AuthInv history x)
    (henabled : x.Enabled (.job j input)) :
    AuthInv (history ++ [(x.next config P (.job j input)).1])
      (x.next config P (.job j input)).2 := by
  obtain ⟨job, hjob, htakes⟩ := (Option.any_eq_true ..).mp henabled
  cases hsession : x.sessions[job.session]? with
  | none =>
    simp only [ClientSessions.next, ClientSessions.handle, hjob, hsession]
    exact h.same [] (by simp) (by simp) [] (by simp) (by simp) rfl
  | some s =>
    have hauth : Authorizes (x.context s) input (job.step config P (x.context s) input) :=
      job.authorizes htakes
    simp only [ClientSessions.next, ClientSessions.handle, hjob, hsession]
    generalize job.step config P (x.context s) input = outcome at hauth ⊢
    set l : ClientLabel M := ⟨.job j input, outcome.effects, x.requestOf (.job j input),
      x.timeRemaining (.job j input)⟩
    set y : ClientSessions M := { x.leave job.session outcome.context with
      jobs := x.jobs.set j { job with stage := outcome.stage } } with hy
    have hgrows : Grows x y := by
      refine .of_sessions hsession hauth.client rfl fun i job' hjob' => ?_
      exact getElem?_set_related (r := fun a b => b.session = a.session) (fun _ => rfl) hjob
        (show ({ job with stage := outcome.stage } : ClientJob M).session = job.session from rfl)
        i job' hjob'
    have hs : y.sessions[job.session]? = some outcome.context.session :=
      List.getElem?_set_self (List.getElem?_eq_some_iff.mp hsession).1
    have hj : y.jobs[j]? = some { job with stage := outcome.stage } :=
      List.getElem?_set_self (List.getElem?_eq_some_iff.mp hjob).1
    have hgiven : ∀ token, input.token? = some token →
        y.Given (history ++ [l]) job.session token := by
      intro token htoken
      obtain ⟨s', hs', hasked⟩ := h.waiting j job hjob (awaitsAuth_of_token htakes htoken)
      obtain rfl := Option.some.inj (hsession.symm.trans hs')
      exact ⟨history, l, [], j, input, _, _, rfl, rfl, htoken, hj, rfl, hs, hauth.client ▸ hasked⟩
    refine h.step hgrows (fun k job' hjob' hawaits => ?_) (fun i t ht token htoken => ?_)
      fun req hreq => ?_
    · rcases of_getElem?_set hjob' with ⟨rfl, rfl⟩ | ⟨-, hold⟩
      · obtain ⟨req, hreq, hclient⟩ := hauth.auth hawaits
        refine .inr ⟨_, hs, l, List.mem_append_right _ (List.mem_singleton_self l), ⟨input, rfl⟩,
          req, hreq, ?_⟩
        exact hclient.trans hauth.client.symm
      · exact .inl hold
    · rcases of_getElem?_set ht with ⟨rfl, rfl⟩ | ⟨-, ht⟩
      · exact (hauth.token token htoken).imp (fun hold => ⟨s, hsession, hold⟩) (hgiven token)
      · exact .inl ⟨t, ht, htoken⟩
    · obtain ⟨hclient, htoken⟩ := hauth.foyer req hreq
      refine ⟨j, input, _, _, rfl, hj, hs, hclient.trans hauth.client.symm, ?_⟩
      rcases htoken with hold | hnew
      · exact (h.token job.session s hsession _ hold).grows hgrows [l]
      · exact hgiven _ hnew

theorem AuthInv.next {event : ClientEvent M} (h : AuthInv history x) (henabled : x.Enabled event) :
    AuthInv (history ++ [(x.next config P event).1]) (x.next config P event).2 := by
  have hsame {l : ClientLabel M} {y : ClientSessions M} (hy : y.sessions = x.sessions)
      (hjobs : y.jobs = x.jobs) (heffects : l.effects = []) : AuthInv (history ++ [l]) y :=
    h.same [] (by simp) (by simp [hy]) [] (by simp [hjobs]) (by simp) heffects
  cases event with
  | connect clientUuid ip =>
    exact h.same [.new clientUuid ip] (by simp [ClientHttpSession.new]) rfl []
      (by simp [ClientSessions.next, ClientSessions.handle]) (by simp) rfl
  | advance time => exact hsame rfl rfl rfl
  | accumulate ip counter => exact hsame rfl rfl rfl
  | setBanTimeRemaining ip timeRemaining => exact hsame rfl rfl rfl
  | removeBan ip => cases ip <;> exact hsame rfl rfl rfl
  | receive session reqHeaders reqEntity expect =>
    cases expect with
    | false => exact hsame rfl rfl rfl
    | true =>
      refine h.same [] (by simp) ?_ _ rfl (fun job hjob => ?_) rfl
      · simp [ClientSessions.next, ClientSessions.handle, ClientSessions.addJob]
      · obtain rfl := List.mem_singleton.mp hjob
        rfl
  | shutdown session =>
    simp only [ClientSessions.next, ClientSessions.handle]
    split
    · exact hsame rfl rfl rfl
    · next s hs =>
      exact h.passes hs (c := (x.context s).withShutdown) ⟨rfl, fun _ h => h⟩ rfl []
        (by simp [ClientSessions.leave]) (by simp) rfl
  | lowLevelMessageEnd session =>
    simp only [ClientSessions.next, ClientSessions.handle]
    split
    · exact hsame rfl rfl rfl
    · next s hs =>
      exact h.passes hs Context.passes_onLowLevelMessageEnd rfl []
        (by simp [ClientSessions.leave]) (by simp) Context.asks_onLowLevelMessageEnd
  | lowLevelRequestEnd request =>
    cases hreq : x.requests[request]? with
    | none =>
      simp only [ClientSessions.next, ClientSessions.handle, hreq]
      exact hsame rfl rfl rfl
    | some req =>
      cases hs : x.sessions[req.session]? with
      | none =>
        simp only [ClientSessions.next, ClientSessions.handle, hreq, hs]
        exact hsame rfl rfl rfl
      | some s =>
        obtain ⟨hquiet, hstage⟩ :=
          Context.onLowLevelRequestEnd_cases config P (x.context s) req.reqHeaders
        have hpasses := Context.passes_onLowLevelRequestEnd config P (x.context s) req.reqHeaders
        have hnone :
            ((x.context s).onLowLevelRequestEnd config P req.reqHeaders).stage.awaitsAuth
              = false := by
          rcases hstage with hstage | hstage | ⟨hstage, -⟩ <;> rw [hstage] <;> rfl
        simp only [ClientSessions.next, ClientSessions.handle, hreq, hs]
        split
        · exact h.passes hs hpasses rfl [] (by simp [ClientSessions.leave]) (by simp) hquiet
        · refine h.passes hs hpasses rfl _ rfl (fun job hjob => ?_) hquiet
          obtain rfl := List.mem_singleton.mp hjob
          exact hnone
  | job i input => exact h.jobStep henabled

end Runs

/-! ## A request with `Expect`, and a WebSocket session -/

/-- The token of the first request is given before its body has come. -/
def authTrial : List (ClientEvent (MultimapInterface.list Bytes Bytes)) :=
  [.connect 1 clientIp,
    .receive 0 (clientRequest [(asciiBytes "Expect", asciiBytes "100-continue")]) [] true,
    .job 0 (.perform .sent), .job 0 (.authResponse (.ok ⟨asciiBytes "token", 0, []⟩) .sent),
    .lowLevelRequestEnd 0, .job 1 (.perform .sent),
    .receive 0 (clientRequest [(asciiBytes "Upgrade", asciiBytes "websocket")]) [] false,
    .lowLevelRequestEnd 1, .job 2 (.perform .sent),
    .job 2 (.websocketAuthResponse (.ok ⟨[], asciiBytes "other", 0, ""⟩) .sent)]

theorem authTrial_run : Lts.Run (ClientSessions.Step clientConfig clientLibrary) (.start 0)
    (clientTrace authTrial)
    (Lts.final (ClientSessions.next clientConfig clientLibrary) (.start 0) authTrial) :=
  Lts.Run.of_admits _ ClientSessions.Enabled (fun h => ⟨h, rfl⟩) _ authTrial (by decide +kernel)

end Gate

end Circe
