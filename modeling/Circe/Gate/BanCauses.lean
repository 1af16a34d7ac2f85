import Circe.Gate.ClientSessions
import Circe.Gate.FloodBans

/-!
# Gate/BanCauses — the accumulating calls of the sessions

`ClientJob.calls` and `ClientSessions.calls` are the accumulating calls that a step makes, read off
the source as the steps themselves are: where an exception leaves the `try` block of a
`sync_authenticate`, its `catch` clause calls `accumulate_auth_failure`.  The ban list after a step
is the one before it after these calls (`bans_step`, `bans_handle`), so whoever is banned was banned
by one of them, or by hand (`exists_banCause`).
-/

namespace Circe.Gate

open Protocol Websocket

variable {M : MultimapInterface Bytes Bytes}

/-! ## The calls of a job -/

namespace Context

variable (config : Config) (P : SessionLibrary M) (c : Context)

/-- The call in the `catch` clause of both `sync_authenticate`s. -/
def authFailure : AccumulateCall := ⟨config, c.now, c.session.ip, .authFailure⟩

/-- A request to a server that does not get away. -/
def sendingCalls : Sending → List AccumulateCall
  | .noServer | .threw _ => [c.authFailure config]
  | .sent => []

/-- Of both `sync_authenticate`s, until they wait. -/
def syncAuthenticateCalls (enabled : Bool) (sending : Sending) : List AccumulateCall :=
  if enabled = false then [c.authFailure config] else c.sendingCalls config sending

/-- Of `Client_http_session::sync_authenticate`, once it has waited. -/
def syncAuthenticatedCalls (resp : Except String HttpAuthenticationResponse) :
    List AccumulateCall :=
  match c.syncAuthenticated P resp with
  | .error _ => [c.authFailure config]
  | .ok _ => []

/-- Of `Client_websocket_session::sync_authenticate`, from the response of the auth server on. -/
def onWebsocketAuthenticatedCalls (resp : Except String WebsocketAuthenticationResponse)
    (sending : Sending) : List AccumulateCall :=
  match resp with
  | .error _ => [c.authFailure config]
  | .ok authResp =>
    match sendMessages P authResp.messages with
    | (_, some _) => [c.authFailure config]
    | (_, none) =>
      if authResp.authToken = [] then [c.authFailure config] else c.sendingCalls config sending

/-- From the response of the foyer server on. -/
def onEstablishedCalls (resp : Except String Uuid) : List AccumulateCall :=
  match resp with
  | .error _ => [c.authFailure config]
  | .ok _ => if c.session.shutdownWrite then [c.authFailure config] else []

def onSyncExpectCalls (reqHeaders : RequestHeaders M) (sending : Sending) : List AccumulateCall :=
  if reqHeaders.verb.isRelayed then
    match c.syncDecodeUri P reqHeaders.uri with
    | .error _ => []
    | .ok c => c.syncAuthenticateCalls config config.clientHttpEnabled sending
  else []

def onSyncRequestCalls (reqHeaders : RequestHeaders M) (sending : Sending) : List AccumulateCall :=
  if c.timeRemaining ≠ 0 then []
  else if P.pickContentEncoding reqHeaders = .notAcceptable then []
  else if reqHeaders.verb.isRelayed then
    match c.requireDecodedUri P reqHeaders.uri with
    | .error _ => []
    | .ok c =>
      if c.session.authToken.isSome then []
      else c.syncAuthenticateCalls config config.clientHttpEnabled sending
  else []

def performHandshakeCalls (reqHeaders : RequestHeaders M) (sending : Sending) :
    List AccumulateCall :=
  if c.session.shutdownWrite then []
  else match c.syncDecodeUri P reqHeaders.uri with
    | .error _ => []
    | .ok c =>
      if (P.makeHandshakeResponse reqHeaders).statusCode = statusSwitchingProtocols then
        c.syncAuthenticateCalls config config.clientWebsocketEnabled sending
      else []

def onLowLevelRequestEndCalls (reqHeaders : RequestHeaders M) : List AccumulateCall :=
  let upgradeStr := P.get reqHeaders.headers (asciiBytes "Upgrade")
  if c.session.firstRequest ∧ c.timeRemaining ≠ 0 then []
  else if sameText upgradeStr (asciiBytes "websocket") then []
  else if upgradeStr ≠ [] then []
  else if config.clientGenericExemptPrivateAddresses ∧ P.isPrivate c.session.ip then []
  else [⟨config, c.now, c.session.ip, .httpRequest⟩]

def onLowLevelMessageEndCalls : List AccumulateCall :=
  if config.clientGenericExemptPrivateAddresses ∧ P.isPrivate c.session.ip then []
  else [⟨config, c.now, c.session.ip, .websocketRequest⟩]

end Context

/-- The accumulating calls of a step of a job. -/
def ClientJob.calls (config : Config) (P : SessionLibrary M) (job : ClientJob M) (c : Context)
    (input : JobInput) : List AccumulateCall :=
  match job.stage, input with
  | .syncExpect, .perform sending => c.onSyncExpectCalls config P job.reqHeaders sending
  | .syncRequest, .perform sending => c.onSyncRequestCalls config P job.reqHeaders sending
  | .websocketHandshake, .perform sending => c.performHandshakeCalls config P job.reqHeaders sending
  | .authenticatingExpect, .authResponse resp _ | .authenticatingRequest, .authResponse resp _ =>
    c.syncAuthenticatedCalls config P resp
  | .authenticatingWebsocket, .websocketAuthResponse resp sending =>
    c.onWebsocketAuthenticatedCalls config P resp sending
  | .establishing _, .websocketEstablished resp => c.onEstablishedCalls config resp
  | _, _ => []

/-! ## The ban list after a step -/

section Bans

variable {config : Config} {P : SessionLibrary M} {c : Context} {reqHeaders : RequestHeaders M}

namespace Context

/-- What a step does with some calls: they are all it does to the ban list, and a failed
authentication is the end of its job. -/
structure Called (c : Context) (calls : List AccumulateCall) (outcome : Outcome M) : Prop where
  bans : outcome.context.bans = c.bans.calls calls
  ip : outcome.context.session.ip = c.session.ip
  ends : ∀ call ∈ calls, call.counter = .authFailure → outcome.stage = .done

variable {outcome : Outcome M}

/-- A step without calls. -/
theorem Called.none (hbans : outcome.context.bans = c.bans)
    (hip : outcome.context.session.ip = c.session.ip) : c.Called [] outcome :=
  ⟨hbans, hip, fun _ h => absurd h List.not_mem_nil⟩

/-- Calls made after the fields of a request were filled. -/
theorem Called.of_same {c' : Context} {calls : List AccumulateCall} (h : c'.Called calls outcome)
    (hbans : c'.bans = c.bans) (hip : c'.session.ip = c.session.ip) : c.Called calls outcome :=
  ⟨hbans ▸ h.bans, h.ip.trans hip, h.ends⟩

theorem Called.after {calls : List AccumulateCall} (h : c.Called calls outcome)
    (effects : List (GateEffect M)) : c.Called calls (outcome.after effects) :=
  ⟨h.bans, h.ip, h.ends⟩

theorem called_failAuthentication (e : HttpException M) :
    c.Called [c.authFailure config] (c.failAuthentication config e) :=
  ⟨rfl, rfl, fun _ _ _ => rfl⟩

theorem called_failWebsocket (e : SessionException) :
    c.Called [c.authFailure config] (c.failWebsocket config e : Outcome M) :=
  ⟨rfl, rfl, fun _ _ _ => rfl⟩

theorem called_answer (e : HttpException M) : c.Called [] (c.answer e) := by
  cases e <;> exact .none rfl rfl

theorem syncDecodeUri_ok {c' : Context} {uri : Bytes} (h : c.syncDecodeUri P uri = .ok c') :
    ∃ decodedUri, P.urlDecode uri = some decodedUri ∧ decodedUri ≠ [] ∧
      c' = c.withDecodedUri decodedUri := by
  rw [syncDecodeUri] at h
  split at h
  case h_1 | h_2 => cases h
  case h_3 decodedUri hne hdecode =>
    cases h
    exact ⟨decodedUri, hdecode, fun hnil => hne (hnil ▸ rfl), rfl⟩

theorem called_syncAuthenticate (sending : Sending) (waiting : Stage) :
    c.Called (c.syncAuthenticateCalls config config.clientHttpEnabled sending)
      (c.syncAuthenticate config reqHeaders sending waiting) := by
  simp only [syncAuthenticateCalls, syncAuthenticate]
  split
  case isTrue => exact called_failAuthentication _
  case isFalse =>
    cases sending with
    | noServer => exact called_failAuthentication _
    | threw what => exact called_failAuthentication _
    | sent => exact .none rfl rfl

theorem called_syncAuthenticateWebsocket (sending : Sending) :
    c.Called (c.syncAuthenticateCalls config config.clientWebsocketEnabled sending)
      (c.syncAuthenticateWebsocket config reqHeaders sending) := by
  simp only [syncAuthenticateCalls, syncAuthenticateWebsocket]
  split
  case isTrue => exact called_failWebsocket _
  case isFalse =>
    cases sending with
    | noServer => exact called_failWebsocket _
    | threw what => exact called_failWebsocket _
    | sent => exact .none rfl rfl

theorem called_relay (reqEntity : Bytes) (sending : Sending) :
    c.Called [] (c.relay reqHeaders reqEntity sending) := by
  cases sending <;> exact .none rfl rfl

theorem called_onSyncExpect (sending : Sending) :
    c.Called (c.onSyncExpectCalls config P reqHeaders sending)
      (c.onSyncExpect config P reqHeaders sending) := by
  rw [onSyncExpectCalls, onSyncExpect]
  by_cases hoptions : reqHeaders.verb = .options
  · rw [if_pos hoptions, hoptions]
    exact .none rfl rfl
  rw [if_neg hoptions]
  split
  case isTrue =>
    cases hdecode : c.syncDecodeUri P reqHeaders.uri with
    | error e => exact .none rfl rfl
    | ok c' =>
      obtain ⟨decodedUri, -, -, rfl⟩ := syncDecodeUri_ok hdecode
      exact (called_syncAuthenticate (c := c.withDecodedUri decodedUri) sending _).of_same rfl rfl
  case isFalse => exact .none rfl rfl

theorem requireDecodedUri_ok {c' : Context} {uri : Bytes}
    (h : c.requireDecodedUri P uri = .ok c') :
    (c.session.decodedUri.isSome = true ∧ c' = c) ∨
      (c.session.decodedUri = none ∧ ∃ decodedUri, P.urlDecode uri = some decodedUri ∧
        decodedUri ≠ [] ∧ c' = c.withDecodedUri decodedUri) := by
  rw [requireDecodedUri] at h
  split at h
  case isTrue hsome =>
    cases h
    exact .inl ⟨hsome, rfl⟩
  case isFalse hnone => exact .inr ⟨by simpa using hnone, syncDecodeUri_ok h⟩

theorem called_onSyncRequest (reqEntity : Bytes) (sending : Sending) :
    c.Called (c.onSyncRequestCalls config P reqHeaders sending)
      (c.onSyncRequest config P reqHeaders reqEntity sending) := by
  rw [onSyncRequestCalls, onSyncRequest]
  split
  case isTrue => exact .none rfl rfl
  case isFalse =>
  split
  case isTrue => exact .none rfl rfl
  case isFalse =>
  by_cases hoptions : reqHeaders.verb = .options
  · rw [if_pos hoptions, hoptions]
    exact .none rfl rfl
  rw [if_neg hoptions]
  split
  case isTrue =>
    cases hdecode : c.requireDecodedUri P reqHeaders.uri with
    | error e => exact .none rfl rfl
    | ok c' =>
      obtain ⟨hbans, hip⟩ : c'.bans = c.bans ∧ c'.session.ip = c.session.ip := by
        rcases requireDecodedUri_ok hdecode with ⟨-, rfl⟩ | ⟨-, decodedUri, -, -, rfl⟩
        · exact ⟨rfl, rfl⟩
        · exact ⟨rfl, rfl⟩
      dsimp only
      split
      case isTrue => exact (called_relay reqEntity sending).of_same hbans hip
      case isFalse => exact (called_syncAuthenticate sending _).of_same hbans hip
  case isFalse => exact .none rfl rfl

theorem called_performHandshake (sending : Sending) :
    c.Called (c.performHandshakeCalls config P reqHeaders sending)
      (c.performHandshake config P reqHeaders sending) := by
  rw [performHandshakeCalls, performHandshake]
  split
  case isTrue => exact .none rfl rfl
  case isFalse =>
    cases hdecode : c.syncDecodeUri P reqHeaders.uri with
    | error e => exact called_answer e
    | ok c' =>
      obtain ⟨decodedUri, -, -, rfl⟩ := syncDecodeUri_ok hdecode
      dsimp only
      split
      case isTrue =>
        refine Called.after ?_ [.sent (P.makeHandshakeResponse reqHeaders, [])]
        exact (called_syncAuthenticateWebsocket sending).of_same rfl rfl
      case isFalse => exact (called_answer _).of_same rfl rfl

theorem syncAuthenticated_ok {c' : Context} {resp : Except String HttpAuthenticationResponse}
    (h : c.syncAuthenticated P resp = .ok c') :
    ∃ authResp, resp = .ok authResp ∧ authResp.authToken ≠ [] ∧ c.session.shutdownWrite = false ∧
      c' = c.withAuthToken authResp.authToken := by
  cases resp with
  | error what => cases h
  | ok authResp =>
    rw [syncAuthenticated] at h
    split_ifs at h with htoken hshutdown
    · split at h <;> cases h
    · cases h
      exact ⟨authResp, rfl, htoken, by simpa using hshutdown, rfl⟩

theorem called_onExpectAuthenticated (resp : Except String HttpAuthenticationResponse) :
    c.Called (c.syncAuthenticatedCalls config P resp)
      (c.onExpectAuthenticated config P resp) := by
  rw [syncAuthenticatedCalls, onExpectAuthenticated]
  cases hauth : c.syncAuthenticated P resp with
  | error e => exact called_failAuthentication e
  | ok c' =>
    obtain ⟨authResp, -, -, -, rfl⟩ := syncAuthenticated_ok hauth
    exact .none rfl rfl

theorem called_onRequestAuthenticated (reqEntity : Bytes)
    (resp : Except String HttpAuthenticationResponse) (sending : Sending) :
    c.Called (c.syncAuthenticatedCalls config P resp)
      (c.onRequestAuthenticated config P reqHeaders reqEntity resp sending) := by
  rw [syncAuthenticatedCalls, onRequestAuthenticated]
  cases hauth : c.syncAuthenticated P resp with
  | error e => exact called_failAuthentication e
  | ok c' =>
    obtain ⟨authResp, -, -, -, rfl⟩ := syncAuthenticated_ok hauth
    exact (called_relay reqEntity sending).of_same rfl rfl

theorem called_onRelayed (resp : Except String HttpResponseFromBox) :
    c.Called [] (c.onRelayed P reqHeaders resp) := by
  cases resp with
  | error what => exact .none rfl rfl
  | ok foyerResp =>
    simp only [onRelayed]
    split
    · exact .none rfl rfl
    · exact .none rfl rfl

theorem called_establish (authToken : Bytes) (sending : Sending) :
    c.Called (c.sendingCalls config sending)
      (c.establish config reqHeaders authToken sending) := by
  cases sending with
  | noServer => exact called_failWebsocket _
  | threw what => exact called_failWebsocket _
  | sent => exact .none rfl rfl

theorem called_onWebsocketAuthenticated (resp : Except String WebsocketAuthenticationResponse)
    (sending : Sending) :
    c.Called (c.onWebsocketAuthenticatedCalls config P resp sending)
      (c.onWebsocketAuthenticated config P reqHeaders resp sending) := by
  cases resp with
  | error what => exact called_failWebsocket _
  | ok authResp =>
    simp only [onWebsocketAuthenticatedCalls, onWebsocketAuthenticated]
    rcases sendMessages P authResp.messages with ⟨effects, _ | what⟩
    · dsimp only
      refine Called.after ?_ effects
      split
      case isTrue => split <;> exact called_failWebsocket _
      case isFalse => exact called_establish _ sending
    · exact (called_failWebsocket (.std what)).after effects

theorem called_onEstablished (authToken : Bytes) (resp : Except String Uuid) :
    c.Called (c.onEstablishedCalls config resp)
      (c.onEstablished config authToken resp : Outcome M) := by
  cases resp with
  | error what => exact called_failWebsocket _
  | ok boxUuid =>
    simp only [onEstablishedCalls, onEstablished]
    refine Called.after ?_ [.websocketBox boxUuid]
    split
    · exact called_failWebsocket _
    · exact .none rfl rfl

theorem called_performExpired : c.Called [] (c.performExpired : Outcome M) := by
  rw [performExpired]
  split <;> exact .none rfl rfl

/-- A call that counts a request or a message. -/
theorem Called.flood {call : AccumulateCall} (hcounter : call.counter ≠ .authFailure)
    (hbans : outcome.context.bans = (c.bans.call call).2)
    (hip : outcome.context.session.ip = c.session.ip) : c.Called [call] outcome :=
  ⟨hbans, hip, fun _ hmem h => absurd (List.mem_singleton.mp hmem ▸ h) hcounter⟩

theorem called_onLowLevelRequestEnd :
    c.Called (c.onLowLevelRequestEndCalls config P reqHeaders)
      (c.onLowLevelRequestEnd config P reqHeaders) := by
  simp only [onLowLevelRequestEndCalls, onLowLevelRequestEnd]
  split_ifs
  · exact .none rfl rfl
  · exact .none rfl rfl
  · exact .none rfl rfl
  · exact .none rfl rfl
  · split <;> exact .flood (by simp) rfl rfl

theorem called_onLowLevelMessageEnd :
    c.Called (c.onLowLevelMessageEndCalls config P)
      (c.onLowLevelMessageEnd config P : Outcome M) := by
  simp only [onLowLevelMessageEndCalls, onLowLevelMessageEnd]
  split
  · exact .none rfl rfl
  · split <;> exact .flood (by simp) rfl rfl

end Context

/-- **The calls of a step of a job** are what it does to the ban list. -/
theorem ClientJob.called_step (job : ClientJob M) (input : JobInput) :
    c.Called (job.calls config P c input) (job.step config P c input) := by
  obtain ⟨request, session, reqHeaders, reqEntity, stage⟩ := job
  cases input with
  | perform sending =>
    cases stage with
    | syncExpect => exact c.called_onSyncExpect sending
    | syncRequest => exact c.called_onSyncRequest reqEntity sending
    | websocketHandshake => exact c.called_performHandshake sending
    | _ => exact .none rfl rfl
  | expired =>
    cases stage with
    | websocketHandshake => exact c.called_performExpired
    | _ => exact .none rfl rfl
  | authResponse resp sending =>
    cases stage with
    | authenticatingExpect => exact c.called_onExpectAuthenticated resp
    | authenticatingRequest => exact c.called_onRequestAuthenticated reqEntity resp sending
    | _ => exact .none rfl rfl
  | foyerResponse resp =>
    cases stage with
    | relaying => exact c.called_onRelayed resp
    | _ => exact .none rfl rfl
  | websocketAuthResponse resp sending =>
    cases stage with
    | authenticatingWebsocket => exact c.called_onWebsocketAuthenticated resp sending
    | _ => exact .none rfl rfl
  | websocketEstablished resp =>
    cases stage with
    | establishing authToken => exact c.called_onEstablished authToken resp
    | _ => exact .none rfl rfl

end Bans

/-! ## What an authentication needs -/

/-- The auth server answered with an empty token. -/
def Stage.refused : Stage → JobInput → Bool
  | .authenticatingExpect, .authResponse (.ok authResp) _
  | .authenticatingRequest, .authResponse (.ok authResp) _ => authResp.authToken = []
  | .authenticatingWebsocket, .websocketAuthResponse (.ok authResp) _ => authResp.authToken = []
  | _, _ => false

namespace ClientJob

variable (config : Config) (P : SessionLibrary M)

/-- A job that goes on here calls `sync_authenticate`. -/
def authenticates (job : ClientJob M) (c : Context) : Bool :=
  match job.stage with
  | .syncExpect => job.reqHeaders.verb.isRelayed && decodes P job.reqHeaders
  | .syncRequest =>
    c.timeRemaining = 0 && P.pickContentEncoding job.reqHeaders ≠ .notAcceptable &&
      job.reqHeaders.verb.isRelayed &&
      (c.session.decodedUri.isSome || decodes P job.reqHeaders) && c.session.authToken.isNone
  | .websocketHandshake =>
    !c.session.shutdownWrite && decodes P job.reqHeaders &&
      (P.makeHandshakeResponse job.reqHeaders).statusCode = statusSwitchingProtocols
  | _ => false

/-- **`sync_authenticate` has what it needs**, as far as this step goes: the protocol is enabled, a
server is there and takes the request, its response comes, and then the token is empty, or the
client is still there and all goes well up to the next wait. -/
def served (job : ClientJob M) (c : Context) (input : JobInput) : Bool :=
  match job.stage, input with
  | .syncExpect, .perform sending | .syncRequest, .perform sending =>
    !job.authenticates P c || config.clientHttpEnabled && sending = .sent
  | .websocketHandshake, .perform sending =>
    !job.authenticates P c || config.clientWebsocketEnabled && sending = .sent
  | .authenticatingExpect, .authResponse resp _ | .authenticatingRequest, .authResponse resp _ =>
    match resp with
    | .error _ => false
    | .ok authResp => authResp.authToken = [] || !c.session.shutdownWrite
  | .authenticatingWebsocket, .websocketAuthResponse resp sending =>
    match resp with
    | .error _ => false
    | .ok authResp =>
      authResp.authToken = [] ||
        (authResp.messages.all fun message => (P.opcodeOf message.opcode).isOk) && sending = .sent
  | .establishing _, .websocketEstablished resp => resp.isOk && !c.session.shutdownWrite
  | _, _ => true

end ClientJob

section Authentication

variable {config : Config} {P : SessionLibrary M} {c : Context} {reqHeaders : RequestHeaders M}

namespace Context

theorem syncAuthenticateCalls_eq (enabled : Bool) (sending : Sending) :
    c.syncAuthenticateCalls config enabled sending
      = if enabled && sending = .sent then [] else [c.authFailure config] := by
  cases enabled <;> cases sending <;> rfl

theorem syncDecodeUri_error (h : decodes P reqHeaders = false) :
    ∃ e, c.syncDecodeUri P reqHeaders.uri = .error e := by
  cases hdecode : c.syncDecodeUri P reqHeaders.uri with
  | error e => exact ⟨e, rfl⟩
  | ok c' => exact absurd (decodes_of_syncDecodeUri hdecode) (by simp [h])

theorem sendMessages_eq (messages : List CommonWebsocketFrame) :
    (sendMessages P messages).2 = none
      ↔ (messages.all fun message => (P.opcodeOf message.opcode).isOk) = true := by
  induction messages with
  | nil => simp [sendMessages]
  | cons message messages ih =>
    rw [sendMessages, List.all_cons]
    cases hopcode : P.opcodeOf message.opcode with
    | error what => simp [Except.isOk, Except.toBool]
    | ok opcode => simpa [Except.isOk, Except.toBool] using ih

theorem onSyncExpectCalls_eq (sending : Sending) :
    c.onSyncExpectCalls config P reqHeaders sending
      = if !(reqHeaders.verb.isRelayed && decodes P reqHeaders)
          || config.clientHttpEnabled && sending = .sent
        then [] else [c.authFailure config] := by
  rw [onSyncExpectCalls]
  cases hverb : reqHeaders.verb.isRelayed with
  | false => rfl
  | true =>
    cases hdecodes : decodes P reqHeaders with
    | false =>
      obtain ⟨e, he⟩ := c.syncDecodeUri_error hdecodes
      rw [if_pos rfl, he]
      rfl
    | true =>
      obtain ⟨decodedUri, hdecode⟩ := c.exists_syncDecodeUri hdecodes
      rw [if_pos rfl, hdecode]
      exact syncAuthenticateCalls_eq config.clientHttpEnabled sending

theorem performHandshakeCalls_eq (sending : Sending) :
    c.performHandshakeCalls config P reqHeaders sending
      = if !(!c.session.shutdownWrite && decodes P reqHeaders &&
            (P.makeHandshakeResponse reqHeaders).statusCode = statusSwitchingProtocols)
          || config.clientWebsocketEnabled && sending = .sent
        then [] else [c.authFailure config] := by
  rw [performHandshakeCalls]
  cases c.session.shutdownWrite with
  | true => rfl
  | false =>
    cases hdecodes : decodes P reqHeaders with
    | false =>
      obtain ⟨e, he⟩ := c.syncDecodeUri_error hdecodes
      rw [he]
      rfl
    | true =>
      obtain ⟨decodedUri, hdecode⟩ := c.exists_syncDecodeUri hdecodes
      rw [if_neg Bool.false_ne_true, hdecode]
      by_cases hswitch : (P.makeHandshakeResponse reqHeaders).statusCode = statusSwitchingProtocols
      · simp only [hswitch, if_true, decide_true, Bool.not_false, Bool.and_self, Bool.not_true,
          Bool.false_or]
        exact syncAuthenticateCalls_eq config.clientWebsocketEnabled sending
      · simp [hswitch]

theorem requireDecodedUri_cases (P : SessionLibrary M) (c : Context)
    (reqHeaders : RequestHeaders M) :
    if c.session.decodedUri.isSome || decodes P reqHeaders then
      ∃ c', c.requireDecodedUri P reqHeaders.uri = .ok c' ∧ c'.bans = c.bans ∧ c'.now = c.now ∧
        c'.session.ip = c.session.ip ∧ c'.session.authToken = c.session.authToken ∧
        c'.session.decodedUri.isSome = true
    else ∃ e, c.requireDecodedUri P reqHeaders.uri = .error e := by
  rw [requireDecodedUri]
  cases hsome : c.session.decodedUri.isSome with
  | true => exact ⟨c, rfl, rfl, rfl, rfl, rfl, hsome⟩
  | false =>
    cases hdecodes : decodes P reqHeaders with
    | false => exact c.syncDecodeUri_error hdecodes
    | true =>
      obtain ⟨decodedUri, hdecode⟩ := c.exists_syncDecodeUri hdecodes
      exact ⟨_, hdecode, rfl, rfl, rfl, rfl, rfl⟩

theorem onSyncRequestCalls_eq (sending : Sending) :
    c.onSyncRequestCalls config P reqHeaders sending
      = if !(c.timeRemaining = 0 && P.pickContentEncoding reqHeaders ≠ .notAcceptable &&
            reqHeaders.verb.isRelayed &&
            (c.session.decodedUri.isSome || decodes P reqHeaders) && c.session.authToken.isNone)
          || config.clientHttpEnabled && sending = .sent
        then [] else [c.authFailure config] := by
  have hcases := requireDecodedUri_cases P c reqHeaders
  rw [onSyncRequestCalls]
  by_cases hfree : c.timeRemaining = 0
  case neg => simp [hfree]
  by_cases hencoding : P.pickContentEncoding reqHeaders = .notAcceptable
  case pos => simp [hencoding]
  cases hverb : reqHeaders.verb.isRelayed with
  | false => simp
  | true =>
    rw [if_neg (not_not.mpr hfree), if_neg hencoding, if_pos rfl]
    generalize (c.session.decodedUri.isSome || decodes P reqHeaders) = decoded at *
    cases decoded with
    | false =>
      obtain ⟨e, he⟩ := hcases
      simp [he]
    | true =>
      obtain ⟨c', hc', -, hnow, hip, htoken, -⟩ := hcases
      have hfailure : c'.authFailure config = c.authFailure config := by
        rw [authFailure, authFailure, hnow, hip]
      simp only [hc', htoken, syncAuthenticateCalls_eq, hfailure, hfree]
      cases c.session.authToken <;> simp [hencoding]

theorem syncAuthenticatedCalls_eq (resp : Except String HttpAuthenticationResponse) :
    c.syncAuthenticatedCalls config P resp
      = match resp with
        | .error _ => [c.authFailure config]
        | .ok authResp => if authResp.authToken ≠ [] ∧ c.session.shutdownWrite = false then []
          else [c.authFailure config] := by
  rw [syncAuthenticatedCalls]
  cases resp with
  | error what => rfl
  | ok authResp =>
    simp only [syncAuthenticated]
    by_cases htoken : authResp.authToken = []
    · rw [if_pos htoken, if_neg (fun h => h.1 htoken)]
      cases P.statusCodeOf authResp.statusCode <;> rfl
    · cases c.session.shutdownWrite <;> simp [htoken]

theorem sendingCalls_eq (sending : Sending) :
    c.sendingCalls config sending = if sending = .sent then [] else [c.authFailure config] := by
  cases sending <;> rfl

theorem onWebsocketAuthenticatedCalls_eq (resp : Except String WebsocketAuthenticationResponse)
    (sending : Sending) :
    c.onWebsocketAuthenticatedCalls config P resp sending
      = match resp with
        | .error _ => [c.authFailure config]
        | .ok authResp =>
          if authResp.authToken ≠ [] ∧
              (authResp.messages.all fun message => (P.opcodeOf message.opcode).isOk) = true ∧
              sending = .sent
          then [] else [c.authFailure config] := by
  cases resp with
  | error what => rfl
  | ok authResp =>
    have hmessages := sendMessages_eq (P := P) authResp.messages
    simp only [onWebsocketAuthenticatedCalls]
    generalize sendMessages P authResp.messages = sent at *
    obtain ⟨effects, _ | what⟩ := sent
    · by_cases htoken : authResp.authToken = []
      · simp [htoken]
      · simp only [if_neg htoken, hmessages.mp rfl, sendingCalls_eq]
        simp [htoken]
    · have hall := mt hmessages.mpr (by simp)
      exact (if_neg fun h => hall h.2.1).symm

end Context

/-- **An authentication is counted as failed where something it needs is missing**, as well as where
it is refused. -/
theorem ClientJob.calls_eq (job : ClientJob M) (c : Context) (input : JobInput) :
    job.calls config P c input
      = if job.served config P c input && !job.stage.refused input then []
        else [c.authFailure config] := by
  obtain ⟨request, session, reqHeaders, reqEntity, stage⟩ := job
  cases input with
  | perform sending =>
    cases stage with
    | syncExpect =>
      simpa [calls, served, authenticates, Stage.refused] using c.onSyncExpectCalls_eq sending
    | syncRequest =>
      simpa [calls, served, authenticates, Stage.refused] using c.onSyncRequestCalls_eq sending
    | websocketHandshake =>
      simpa [calls, served, authenticates, Stage.refused] using c.performHandshakeCalls_eq sending
    | _ => rfl
  | expired => cases stage <;> rfl
  | authResponse resp sending =>
    cases stage with
    | authenticatingExpect | authenticatingRequest =>
      refine (c.syncAuthenticatedCalls_eq resp).trans ?_
      cases resp with
      | error what => rfl
      | ok authResp =>
        by_cases htoken : authResp.authToken = [] <;>
          cases hshutdown : c.session.shutdownWrite <;>
          simp [served, Stage.refused, htoken, hshutdown]
    | _ => rfl
  | foyerResponse resp => cases stage <;> rfl
  | websocketAuthResponse resp sending =>
    cases stage with
    | authenticatingWebsocket =>
      refine (c.onWebsocketAuthenticatedCalls_eq resp sending).trans ?_
      cases resp with
      | error what => rfl
      | ok authResp =>
        by_cases htoken : authResp.authToken = [] <;> simp [served, Stage.refused, htoken]
    | _ => rfl
  | websocketEstablished resp =>
    cases stage with
    | establishing authToken =>
      cases resp with
      | error what => rfl
      | ok boxUuid => cases hshutdown : c.session.shutdownWrite <;>
          simp [calls, Context.onEstablishedCalls, served, Stage.refused, hshutdown, Except.isOk,
            Except.toBool]
    | _ => rfl

end Authentication

/-! ## The calls of the sessions -/

namespace ClientSessions

variable (config : Config) (P : SessionLibrary M)

/-- A job, and what it works on. -/
def working (x : ClientSessions M) (i : ℕ) : Option (ClientJob M × Context) :=
  x.jobs[i]?.bind fun job => x.sessions[job.session]?.map fun session => (job, x.context session)

/-- The accumulating calls of an event. -/
def calls (x : ClientSessions M) (event : ClientEvent M) : List AccumulateCall :=
  match event with
  | .lowLevelRequestEnd request =>
    match x.requests[request]? with
    | none => []
    | some req =>
      match x.sessions[req.session]? with
      | none => []
      | some session => (x.context session).onLowLevelRequestEndCalls config P req.reqHeaders
  | .job i input =>
    match x.working i with
    | none => []
    | some (job, c) => job.calls config P c input
  | .lowLevelMessageEnd session =>
    match x.sessions[session]? with
    | none => []
    | some s => (x.context s).onLowLevelMessageEndCalls config P
  | .accumulate ip counter => [⟨config, x.now, ip, counter⟩]
  | _ => []

variable {config : Config} {P : SessionLibrary M} {x : ClientSessions M} {event : ClientEvent M}

/-- What the ban list is once the event was handled. -/
theorem bans_handle (config : Config) (P : SessionLibrary M) (x : ClientSessions M)
    (event : ClientEvent M) :
    (x.handle config P event).2.bans = match event with
      | .setBanTimeRemaining ip timeRemaining =>
        x.bans.setBanTimeRemaining x.now ip timeRemaining
      | .removeBan (some ip) => (x.bans.removeBan ip).2
      | event => x.bans.calls (x.calls config P event) := by
  cases event with
  | connect | advance | accumulate | setBanTimeRemaining => rfl
  | receive session reqHeaders reqEntity expect => cases expect <;> rfl
  | removeBan ip => cases ip <;> rfl
  | lowLevelRequestEnd request =>
    cases hreq : x.requests[request]? with
    | none => simp only [handle, calls, hreq]; rfl
    | some req =>
      cases hsession : x.sessions[req.session]? with
      | none => simp only [handle, calls, hreq, hsession]; rfl
      | some session =>
        have hcalled : (x.context session).Called _
            ((x.context session).onLowLevelRequestEnd config P req.reqHeaders) :=
          Context.called_onLowLevelRequestEnd
        simp only [handle, calls, hreq, hsession]
        split <;> exact hcalled.bans
  | job i input =>
    cases hjob : x.jobs[i]? with
    | none => simp only [handle, calls, working, hjob]; rfl
    | some job =>
      cases hsession : x.sessions[job.session]? with
      | none => simp only [handle, calls, working, hjob, hsession, Option.bind_some]; rfl
      | some session =>
        simp only [handle, calls, working, hjob, hsession, Option.bind_some, Option.map_some]
        exact (job.called_step input).bans
  | lowLevelMessageEnd session =>
    cases hsession : x.sessions[session]? with
    | none => simp only [handle, calls, hsession]; rfl
    | some s =>
      have hcalled : (x.context s).Called _
          ((x.context s).onLowLevelMessageEnd config P : Outcome M) :=
        Context.called_onLowLevelMessageEnd
      simp only [handle, calls, hsession]
      exact hcalled.bans
  | shutdown session =>
    cases hsession : x.sessions[session]? with
    | none => simp only [handle, calls, hsession]; rfl
    | some s => simp only [handle, calls, hsession]; rfl

/-- An event calls once at most, and now. -/
theorem calls_cases (config : Config) (P : SessionLibrary M) (x : ClientSessions M)
    (event : ClientEvent M) :
    x.calls config P event = [] ∨
      ∃ call, x.calls config P event = [call] ∧ call.config = config ∧ call.now = x.now := by
  cases event with
  | lowLevelRequestEnd request =>
    simp only [calls]
    split
    · exact .inl rfl
    · split
      · exact .inl rfl
      · simp only [Context.onLowLevelRequestEndCalls]
        split_ifs
        · exact .inl rfl
        · exact .inl rfl
        · exact .inl rfl
        · exact .inl rfl
        · exact .inr ⟨_, rfl, rfl, rfl⟩
  | job i input =>
    simp only [calls, working]
    split
    case h_1 => exact .inl rfl
    case h_2 job c hworking =>
      obtain ⟨job', -, hsession⟩ := Option.bind_eq_some_iff.mp hworking
      obtain ⟨session, -, hpair⟩ := Option.map_eq_some_iff.mp hsession
      cases hpair
      rw [ClientJob.calls_eq]
      split
      · exact .inl rfl
      · exact .inr ⟨_, rfl, rfl, rfl⟩
  | lowLevelMessageEnd session =>
    simp only [calls]
    split
    · exact .inl rfl
    · simp only [Context.onLowLevelMessageEndCalls]
      split
      · exact .inl rfl
      · exact .inr ⟨_, rfl, rfl, rfl⟩
  | accumulate ip counter => exact .inr ⟨_, rfl, rfl, rfl⟩
  | connect | receive | shutdown | advance | setBanTimeRemaining | removeBan => exact .inl rfl

end ClientSessions

/-! ## Who is banned, and why -/

namespace IpContainer

/-- The call bans its address: its counter reaches the maximum, and the ban lasts. -/
def Bans (bans : IpContainer) (call : AccumulateCall) : Prop :=
  let elem := bans.elementAt call.now call.ip
  elem.counters call.counter + 1 ≤ uint64Max ∧
    call.config.counterValueMax call.counter ≤ elem.counters call.counter + 1 ∧
    call.now < saturatedAdd call.now call.config.clientGenericAutoIpBanExpiryDuration

variable {bans : IpContainer} {call : AccumulateCall} {ip : Bytes}

theorem remaining_elementAt_le (bans : IpContainer) (now : ℕ) (ip : Bytes) :
    (bans.elementAt now ip).banExpiryTime - now ≤ bans.getBanTimeRemaining now ip := by
  cases hfind : bans.find? ip with
  | none => simp [elementAt_of_none hfind, IpElement.new]
  | some elem =>
    rcases lt_or_ge now elem.expiryTime with hlive | hexpired
    · rw [elementAt_of_find? hfind hlive, getBanTimeRemaining_of_find? hfind]
    · simp [elementAt_of_expired hfind hexpired, IpElement.new]

/-- **A call that does not ban leaves no address banned for longer.** -/
theorem remaining_call_le (h : ip = call.ip → ¬ bans.Bans call) :
    (bans.call call).2.getBanTimeRemaining call.now ip ≤ bans.getBanTimeRemaining call.now ip := by
  by_cases hself : ip = call.ip
  · subst hself
    have hnot := h rfl
    obtain ⟨elem, hcounted, hfind⟩ := bans.counted_call call
    rw [getBanTimeRemaining_of_find? hfind]
    refine le_trans ?_ (bans.remaining_elementAt_le call.now call.ip)
    generalize (bans.call call).1 = result at hcounted
    cases hcounted with
    | overflow | returned => exact le_rfl
    | excessFlood hfits hmax =>
      have hshort : ¬ call.now
          < saturatedAdd call.now call.config.clientGenericAutoIpBanExpiryDuration :=
        fun hlt => hnot ⟨hfits, hmax, hlt⟩
      exact (Nat.sub_eq_zero_of_le (not_lt.mp hshort)).trans_le (Nat.zero_le _)
  · rw [getBanTimeRemaining, find?_call_of_ne hself, getBanTimeRemaining]
    cases bans.find? ip with
    | none => exact le_rfl
    | some elem =>
      rw [Option.filter_some]
      cases !decide (elem.expiryTime ≤ call.now) with
      | true => exact le_rfl
      | false => exact Nat.zero_le _

/-- **A call that bans does.** -/
theorem remaining_call_pos (h : bans.Bans call) :
    0 < (bans.call call).2.getBanTimeRemaining call.now call.ip := by
  obtain ⟨hfits, hmax, hlasts⟩ := h
  obtain ⟨elem, hcounted, hfind⟩ := bans.counted_call call
  rw [getBanTimeRemaining_of_find? hfind]
  generalize (bans.call call).1 = result at hcounted
  cases hcounted with
  | overflow hover => exact absurd hfits (not_le.mpr hover)
  | returned _ hless => exact absurd hmax (not_le.mpr hless)
  | excessFlood => exact Nat.sub_pos_of_lt hlasts

end IpContainer

namespace ClientSessions

variable {config : Config} {P : SessionLibrary M} {x y : ClientSessions M}
  {event : ClientEvent M} {ip : Bytes}

/-- **The event bans the address**: by hand, or by an accumulating call of its own. -/
def BanCause (config : Config) (P : SessionLibrary M) (x : ClientSessions M) (ip : Bytes)
    (event : ClientEvent M) : Prop :=
  (∃ timeRemaining, event = .setBanTimeRemaining ip timeRemaining) ∨
    ∃ call ∈ x.calls config P event, call.ip = ip ∧ x.bans.Bans call

theorem le_now_handle (x : ClientSessions M) (event : ClientEvent M) :
    x.now ≤ (x.handle config P event).2.now := by
  cases event with
  | connect | accumulate | setBanTimeRemaining => exact le_rfl
  | receive session reqHeaders reqEntity expect => cases expect <;> exact le_rfl
  | removeBan ip => cases ip <;> exact le_rfl
  | advance time => exact Nat.le_add_right _ _
  | lowLevelRequestEnd request =>
    simp only [handle]
    split
    · exact le_rfl
    · split
      · exact le_rfl
      · dsimp only
        split <;> exact le_rfl
  | job i input =>
    simp only [handle]
    split
    · exact le_rfl
    · split <;> exact le_rfl
  | lowLevelMessageEnd session | shutdown session =>
    simp only [handle]
    split <;> exact le_rfl

/-- A ban is over sooner or later. -/
theorem remaining_anti (bans : IpContainer) (ip : Bytes) {now now' : ℕ} (h : now ≤ now') :
    bans.getBanTimeRemaining now' ip ≤ bans.getBanTimeRemaining now ip := by
  rw [IpContainer.getBanTimeRemaining, IpContainer.getBanTimeRemaining]
  split
  · exact le_rfl
  · exact Nat.sub_le_sub_left h _

/-- **Without a cause nobody is banned for longer.** -/
theorem remaining_handle_le (h : ¬ x.BanCause config P ip event) :
    (x.handle config P event).2.bans.getBanTimeRemaining (x.handle config P event).2.now ip
      ≤ x.bans.getBanTimeRemaining x.now ip := by
  refine (remaining_anti _ ip (le_now_handle x event)).trans ?_
  have hbans := bans_handle config P x event
  split at hbans
  case h_1 ip' timeRemaining =>
    have hne : ip ≠ ip' := fun heq => h (.inl ⟨timeRemaining, by rw [heq]⟩)
    rw [hbans, IpContainer.getBanTimeRemaining_setBanTimeRemaining_of_ne timeRemaining hne]
  case h_2 ip' =>
    rw [hbans, IpContainer.getBanTimeRemaining_removeBan]
    split
    · exact Nat.zero_le _
    · exact le_rfl
  case h_3 =>
    rw [hbans]
    rcases calls_cases config P x event with hnone | ⟨call, hone, -, hnow⟩
    · rw [hnone]
      exact le_rfl
    · rw [hone, ← hnow]
      refine IpContainer.remaining_call_le fun hip hcall => h (.inr ⟨call, ?_, hip.symm, hcall⟩)
      rw [hone]
      exact List.mem_singleton_self call

/-- A label says what its step does. -/
theorem Step.unique {y' : ClientSessions M} {l : ClientLabel M} (h : x.Step config P l y)
    (h' : x.Step config P l y') : y = y' :=
  congrArg Prod.snd (h.2.symm.trans h'.2)

variable {now : ℕ} {history : List (ClientLabel M)}

/-- **Whoever is banned was banned by something**, in any run. -/
theorem exists_banCause (hrun : Lts.Run (Step config P) (.start now) history x)
    (hbanned : x.bans.getBanTimeRemaining x.now ip ≠ 0) :
    ∃ pre l post t, history = pre ++ l :: post ∧ Lts.Run (Step config P) (.start now) pre t ∧
      t.BanCause config P ip l.event := by
  induction hrun with
  | nil => exact absurd rfl hbanned
  | @snoc t u history l hpre hstep ih =>
    by_cases hcause : t.BanCause config P ip l.event
    · exact ⟨history, l, [], t, rfl, hpre, hcause⟩
    · have hu : (t.handle config P l.event).2 = u := congrArg Prod.snd hstep.2
      have hle := remaining_handle_le hcause
      rw [hu] at hle
      obtain ⟨pre, l', post, t', rfl, hrun', hcause'⟩ := ih (by omega)
      exact ⟨pre, l', post ++ [l], t', by simp, hrun', hcause'⟩

end ClientSessions

end Circe.Gate
