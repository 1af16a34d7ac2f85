import Circe.Foundations.Run
import Circe.Foyer.Broadcast
import Circe.Gate.ClientHttpSession
import Circe.Gate.IpBanList

/-!
# Gate/ClientSessions — the HTTP sessions of a gate

What a client sends comes up in callbacks of its session: `on_low_level_request_end` in the epoll
thread, `on_sync_expect`, `on_sync_request` and the handshake of a WebSocket session as jobs.  A job
stops where it waits for an auth server or a foyer server, and anything else may happen until it
goes on.  All sessions of a gate share its ban list and its clock.
-/

namespace Circe

/-! ## The messages -/

namespace Protocol

/-- `Auth::Http_authentication_request`. -/
structure HttpAuthenticationRequest where
  clientUuid : Uuid
  clientIp : Bytes
  verb : Verb
  decodedUri : Bytes
  params : List Common.CommonKeyValue
  headers : List Common.CommonKeyValue
deriving DecidableEq

/-- `Auth::Http_authentication_response`. -/
structure HttpAuthenticationResponse where
  authToken : Bytes
  statusCode : Int64
  headers : List Common.CommonKeyValue
deriving DecidableEq

/-- `Auth::Websocket_authentication_request`. -/
structure WebsocketAuthenticationRequest where
  clientUuid : Uuid
  clientIp : Bytes
  decodedUri : Bytes
  params : List Common.CommonKeyValue
deriving DecidableEq

/-- `Auth::Websocket_authentication_response`. -/
structure WebsocketAuthenticationResponse where
  messages : List CommonWebsocketFrame
  authToken : Bytes
  statusCode : Int64
  reason : String
deriving DecidableEq

/-- `Foyer::Websocket_establishment_request_to_box`. -/
structure WebsocketEstablishmentRequestToBox where
  clientUuid : Uuid
  clientIp : Bytes
  authToken : Bytes
  decodedUri : Bytes
  params : List Common.CommonKeyValue
deriving DecidableEq

/-- What a gate asks an auth server. -/
inductive AuthRequest
  | http (req : HttpAuthenticationRequest)
  | websocket (req : WebsocketAuthenticationRequest)
deriving DecidableEq

/-- What a gate asks a foyer server for a client that is not there yet. -/
inductive FoyerRequest
  | http (req : HttpRequestToBox)
  | websocketEstablishment (req : WebsocketEstablishmentRequestToBox)
deriving DecidableEq

end Protocol

/-- The verbs whose requests are relayed to a box. -/
def Verb.isRelayed : Verb → Bool
  | .get | .put | .delete | .head | .post => true
  | .options | .other _ => false

namespace Gate

open Protocol Websocket

variable {M : MultimapInterface Bytes Bytes}

/-! ## A session and what it works with -/

/-- What the sessions use of Poseidon: `is_private`, `Option_map::get`, `make_handshake_response`
and two conversions of integers, besides what a response is made with. -/
structure SessionLibrary (M : MultimapInterface Bytes Bytes) extends HttpLibrary M where
  isPrivate : Bytes → Bool
  get : M.Map → Bytes → Bytes
  makeHandshakeResponse : RequestHeaders M → ResponseHeaders M
  opcodeOf : Int64 → Except String ℕ
  websocketStatusCodeOf : Int64 → Except String ℕ

/-- `Client_http_session`; `ip` is that of its remote address. -/
structure ClientHttpSession where
  clientUuid : Uuid
  ip : Bytes
  firstRequest : Bool
  decodedUri : Option Bytes
  authToken : Option Bytes
  shutdownWrite : Bool
deriving DecidableEq

def ClientHttpSession.new (clientUuid : Uuid) (ip : Bytes) : ClientHttpSession :=
  ⟨clientUuid, ip, true, none, none, false⟩

/-- What a callback or a job of a session reads and writes. -/
structure Context where
  now : ℕ
  bans : IpContainer
  session : ClientHttpSession

/-- What comes of asking for a connection to a server and sending it a request. -/
inductive Sending
  | noServer
  | sent
  | threw (what : String)
deriving DecidableEq

/-- What a callback or a job does to the outside. -/
inductive GateEffect (M : MultimapInterface Bytes Bytes)
  | toAuth (req : AuthRequest)
  | toFoyer (req : FoyerRequest)
  /-- `Poseidon::Http::Session::on_sync_expect`. -/
  | continued
  | sent (resp : ResponseHeaders M × Bytes)
  /-- `send_default_and_shutdown`. -/
  | sentDefault (statusCode : ℕ) (headers : M.Map)
  /-- An exception that leaves the callback; Poseidon answers it. -/
  | threw (e : HttpException M)
  | websocketSent (opcode : ℕ) (payload : Bytes)
  | websocketShutdown (e : SessionException)
  /-- What a WebSocket session learns in the end. -/
  | websocketBox (boxUuid : Uuid)
  | websocketAuthToken (authToken : Bytes)

/-- The effect is a request to an auth server or a foyer server. -/
def GateEffect.isRequest : GateEffect M → Bool
  | .toAuth _ | .toFoyer _ => true
  | _ => false

/-- Where a job is. -/
inductive Stage
  | syncExpect
  | syncRequest
  | websocketHandshake
  /-- `sync_authenticate` waits, called from `on_sync_expect` or from `on_sync_request`. -/
  | authenticatingExpect
  | authenticatingRequest
  /-- `on_sync_request` waits for the foyer server. -/
  | relaying
  /-- `Client_websocket_session::sync_authenticate` waits for the auth server, or the foyer
  server. -/
  | authenticatingWebsocket
  | establishing (authToken : Bytes)
  | done
deriving DecidableEq

/-- A job, with the request it is about. -/
structure ClientJob (M : MultimapInterface Bytes Bytes) where
  request : ℕ
  session : ℕ
  reqHeaders : RequestHeaders M
  reqEntity : Bytes
  stage : Stage

/-- What a step of a job did, where the job is then, and what it left. -/
structure Outcome (M : MultimapInterface Bytes Bytes) where
  effects : List (GateEffect M)
  stage : Stage
  context : Context

/-- The text of what an accumulating call throws; that of an overflow is up to Poseidon. -/
def Accumulated.what : Accumulated → Option String
  | .returned => none
  | .overflow => some "checked_add"
  | .excessFlood => some "Excess flood"

/-- `strcasecmp` finds no difference: the texts end at the first zero. -/
def sameText (a b : Bytes) : Bool :=
  let lower (text : Bytes) : Bytes :=
    (text.takeWhile (· ≠ 0)).map fun c => if 65 ≤ c ∧ c ≤ 90 then c + 32 else c
  lower a = lower b

def makeRetryAfterHeaders (timeRemaining : ℕ) : M.Map :=
  M.set M.empty (asciiBytes "Retry-After") (asciiBytes (toString (timeRemaining / 1000)))

/-- The step asked an auth server or a foyer server for something. -/
def Outcome.asks (outcome : Outcome M) : Bool := outcome.effects.any GateEffect.isRequest

/-- Something done before. -/
def Outcome.after (effects : List (GateEffect M)) (outcome : Outcome M) : Outcome M :=
  { outcome with effects := effects ++ outcome.effects }

namespace Context

def timeRemaining (c : Context) : ℕ := c.bans.getBanTimeRemaining c.now c.session.ip

def withDecodedUri (c : Context) (decodedUri : Bytes) : Context :=
  { c with session := { c.session with decodedUri := some decodedUri } }

def withAuthToken (c : Context) (authToken : Bytes) : Context :=
  { c with session := { c.session with authToken := some authToken } }

def withShutdown (c : Context) : Context :=
  { c with session := { c.session with shutdownWrite := true } }

/-- HTTP is stateless. -/
def reset (c : Context) : Context :=
  { c with session := { c.session with decodedUri := none, authToken := none } }

/-- An exception leaves the callback. -/
def throw (c : Context) (e : HttpException M) : Outcome M := ⟨[.threw e], .done, c⟩

def sendDefaultAndShutdown (c : Context) (statusCode : ℕ) (headers : M.Map) : Outcome M :=
  ⟨[.sentDefault statusCode headers], .done, c.withShutdown⟩

/-- The `catch` clauses of `Websocket_handshake_job`. -/
def answer (c : Context) : HttpException M → Outcome M
  | .http statusCode headers => c.sendDefaultAndShutdown statusCode headers
  | .std _ => c.sendDefaultAndShutdown statusInternalServerError M.empty

variable (config : Config)

/-- `accumulate_auth_failure`, called where `sync_authenticate` fails; it may throw itself. -/
def accumulateAuthFailure (c : Context) : Option String × Context :=
  let (accumulated, bans) := c.bans.accumulateAuthFailure config c.now c.session.ip
  (accumulated.what, { c with bans := bans })

/-- The `catch` clause of `Client_http_session::sync_authenticate`. -/
def failAuthentication (c : Context) (e : HttpException M) : Outcome M :=
  let (what, c) := c.accumulateAuthFailure config
  c.throw (what.elim e .std)

/-- That of `Client_websocket_session::sync_authenticate`, and the `catch` clauses after it. -/
def failWebsocket (c : Context) (e : SessionException) : Outcome M :=
  let (what, c) := c.accumulateAuthFailure config
  ⟨[.websocketShutdown (what.elim e .std)], .done, c.withShutdown⟩

variable (P : SessionLibrary M)

/-! ## `Client_http_session` -/

/-- `sync_decode_uri`. -/
def syncDecodeUri (c : Context) (uri : Bytes) : Except (HttpException M) Context :=
  match P.urlDecode uri with
  | none | some [] => .error (.http statusBadRequest M.empty)
  | some decodedUri => .ok (c.withDecodedUri decodedUri)

/-- `sync_authenticate`, until it waits at `waiting`. -/
def syncAuthenticate (c : Context) (reqHeaders : RequestHeaders M) (sending : Sending)
    (waiting : Stage) : Outcome M :=
  if config.clientHttpEnabled = false then
    c.failAuthentication config (.http statusServiceUnavailable M.empty)
  else match sending with
    | .noServer => c.failAuthentication config (.http statusBadGateway M.empty)
    | .threw what => c.failAuthentication config (.std what)
    | .sent =>
      let authReq : HttpAuthenticationRequest :=
        { clientUuid := c.session.clientUuid
          clientIp := c.session.ip
          verb := reqHeaders.verb
          decodedUri := c.session.decodedUri.getD []
          params := keyValuesOf reqHeaders.getParams
          headers := keyValuesOf reqHeaders.headers }
      ⟨[.toAuth (.http authReq)], waiting, c⟩

/-- `sync_authenticate`, once it has waited. -/
def syncAuthenticated (c : Context) (resp : Except String HttpAuthenticationResponse) :
    Except (HttpException M) Context :=
  match resp with
  | .error what => .error (.std what)
  | .ok authResp =>
    if authResp.authToken = [] then
      match P.statusCodeOf authResp.statusCode with
      | .error what => .error (.std what)
      | .ok statusCode =>
        .error (.http statusCode
          (M.setAll (authResp.headers.map fun o => (o.key, o.value)) M.empty))
    else if c.session.shutdownWrite then .error (.std "Connection has been shut down")
    else .ok (c.withAuthToken authResp.authToken)

/-- `on_low_level_request_end`; `stage` is where the job it enqueues begins. -/
def onLowLevelRequestEnd (c : Context) (reqHeaders : RequestHeaders M) : Outcome M :=
  if c.session.firstRequest ∧ c.timeRemaining ≠ 0 then
    c.sendDefaultAndShutdown statusServiceUnavailable (makeRetryAfterHeaders c.timeRemaining)
  else
    let c := { c with session := { c.session with firstRequest := false } }
    let upgradeStr := P.get reqHeaders.headers (asciiBytes "Upgrade")
    if sameText upgradeStr (asciiBytes "websocket") then ⟨[], .websocketHandshake, c⟩
    else if upgradeStr ≠ [] then c.throw (.http statusNotImplemented M.empty)
    else if config.clientGenericExemptPrivateAddresses ∧ P.isPrivate c.session.ip then
      ⟨[], .syncRequest, c⟩
    else
      let (accumulated, bans) := c.bans.accumulateHttpRequest config c.now c.session.ip
      let c := { c with bans := bans }
      match accumulated.what with
      | none => ⟨[], .syncRequest, c⟩
      | some what => c.throw (.std what)

/-- `on_sync_expect`. -/
def onSyncExpect (c : Context) (reqHeaders : RequestHeaders M) (sending : Sending) : Outcome M :=
  if reqHeaders.verb = .options then ⟨[.continued], .done, c⟩
  else if reqHeaders.verb.isRelayed then
    match c.syncDecodeUri P reqHeaders.uri with
    | .error e => c.throw e
    | .ok c => c.syncAuthenticate config reqHeaders sending .authenticatingExpect
  else c.throw (.http statusNotImplemented M.empty)

def onExpectAuthenticated (c : Context) (resp : Except String HttpAuthenticationResponse) :
    Outcome M :=
  match c.syncAuthenticated P resp with
  | .error e => c.failAuthentication config e
  | .ok c => ⟨[.continued], .done, c⟩

/-- `on_sync_request`, where it sends the request to a foyer server. -/
def relay (c : Context) (reqHeaders : RequestHeaders M) (reqEntity : Bytes) (sending : Sending) :
    Outcome M :=
  match sending with
  | .noServer => c.throw (.http statusBadGateway M.empty)
  | .threw what => c.throw (.std what)
  | .sent =>
    let session : Authenticated :=
      { clientUuid := c.session.clientUuid
        clientIp := c.session.ip
        authToken := c.session.authToken.getD []
        decodedUri := c.session.decodedUri.getD [] }
    ⟨[.toFoyer (.http (httpRequestToBox session reqHeaders reqEntity))], .relaying, c⟩

/-- The response to an `OPTIONS` request, which goes no further. -/
def respondOptions (reqHeaders : RequestHeaders M) : ResponseHeaders M × Bytes :=
  orDefault P.toHttpLibrary statusOk (fillIn P.toHttpLibrary (P.isKeepAliveEnabled reqHeaders)
    (P.pickContentEncoding reqHeaders) M.empty [])

/-- `if(!m_decoded_uri)`. -/
def requireDecodedUri (c : Context) (uri : Bytes) : Except (HttpException M) Context :=
  if c.session.decodedUri.isSome then .ok c else c.syncDecodeUri P uri

/-- `on_sync_request`, until it waits. -/
def onSyncRequest (c : Context) (reqHeaders : RequestHeaders M) (reqEntity : Bytes)
    (sending : Sending) : Outcome M :=
  if c.timeRemaining ≠ 0 then
    c.throw (.http statusServiceUnavailable (makeRetryAfterHeaders c.timeRemaining))
  else if P.pickContentEncoding reqHeaders = .notAcceptable then
    c.throw (.http statusNotAcceptable M.empty)
  else if reqHeaders.verb = .options then ⟨[.sent (respondOptions P reqHeaders)], .done, c.reset⟩
  else if reqHeaders.verb.isRelayed then
    match c.requireDecodedUri P reqHeaders.uri with
    | .error e => c.throw e
    | .ok c =>
      if c.session.authToken.isSome then c.relay reqHeaders reqEntity sending
      else c.syncAuthenticate config reqHeaders sending .authenticatingRequest
  else c.throw (.http statusNotImplemented M.empty)

def onRequestAuthenticated (c : Context) (reqHeaders : RequestHeaders M) (reqEntity : Bytes)
    (resp : Except String HttpAuthenticationResponse) (sending : Sending) : Outcome M :=
  match c.syncAuthenticated P resp with
  | .error e => c.failAuthentication config e
  | .ok c => c.relay reqHeaders reqEntity sending

def onRelayed (c : Context) (reqHeaders : RequestHeaders M)
    (resp : Except String HttpResponseFromBox) : Outcome M :=
  match resp with
  | .error what => c.throw (.std what)
  | .ok foyerResp =>
    match respond P.toHttpLibrary (P.pickContentEncoding reqHeaders) reqHeaders foyerResp with
    | .error e => c.throw e
    | .ok sent => ⟨[.sent sent], .done, c.reset⟩

/-! ## `Client_websocket_session` -/

/-- `sync_authenticate`, until it waits for the auth server. -/
def syncAuthenticateWebsocket (c : Context) (reqHeaders : RequestHeaders M) (sending : Sending) :
    Outcome M :=
  if config.clientWebsocketEnabled = false then
    c.failWebsocket config (.websocket statusGoingAway "WebSocket is not enabled")
  else match sending with
    | .noServer => c.failWebsocket config (.websocket statusGoingAway "No auth server is available")
    | .threw what => c.failWebsocket config (.std what)
    | .sent =>
      let authReq : WebsocketAuthenticationRequest :=
        { clientUuid := c.session.clientUuid
          clientIp := c.session.ip
          decodedUri := c.session.decodedUri.getD []
          params := keyValuesOf reqHeaders.getParams }
      ⟨[.toAuth (.websocket authReq)], .authenticatingWebsocket, c⟩

/-- The messages of an auth server, up to one whose opcode does not fit. -/
def sendMessages : List CommonWebsocketFrame → List (GateEffect M) × Option String
  | [] => ([], none)
  | message :: messages =>
    match P.opcodeOf message.opcode with
    | .error what => ([], some what)
    | .ok opcode =>
      let (effects, what) := sendMessages messages
      (.websocketSent opcode message.payload :: effects, what)

/-- `sync_authenticate`, where it sends the request to a foyer server. -/
def establish (c : Context) (reqHeaders : RequestHeaders M) (authToken : Bytes)
    (sending : Sending) :
    Outcome M :=
  match sending with
  | .noServer => c.failWebsocket config (.websocket statusGoingAway "No foyer server is available")
  | .threw what => c.failWebsocket config (.std what)
  | .sent =>
    let foyerReq : WebsocketEstablishmentRequestToBox :=
      { clientUuid := c.session.clientUuid
        clientIp := c.session.ip
        authToken := authToken
        decodedUri := c.session.decodedUri.getD []
        params := keyValuesOf reqHeaders.getParams }
    ⟨[.toFoyer (.websocketEstablishment foyerReq)], .establishing authToken, c⟩

/-- `sync_authenticate`, from the response of the auth server on. -/
def onWebsocketAuthenticated (c : Context) (reqHeaders : RequestHeaders M)
    (resp : Except String WebsocketAuthenticationResponse) (sending : Sending) : Outcome M :=
  match resp with
  | .error what => c.failWebsocket config (.std what)
  | .ok authResp =>
    match sendMessages P authResp.messages with
    | (effects, some what) => (c.failWebsocket config (.std what)).after effects
    | (effects, none) =>
      Outcome.after effects <|
        if authResp.authToken = [] then
          match P.websocketStatusCodeOf authResp.statusCode with
          | .error what => c.failWebsocket config (.std what)
          | .ok statusCode => c.failWebsocket config (.websocket statusCode authResp.reason)
        else c.establish config reqHeaders authResp.authToken sending

/-- `sync_authenticate`, from the response of the foyer server on. -/
def onEstablished (c : Context) (authToken : Bytes) (resp : Except String Uuid) : Outcome M :=
  match resp with
  | .error what => c.failWebsocket config (.std what)
  | .ok boxUuid =>
    Outcome.after [.websocketBox boxUuid] <|
      if c.session.shutdownWrite then
        c.failWebsocket config (.std "Connection has been shut down")
      else ⟨[.websocketAuthToken authToken], .done, c⟩

/-- `Websocket_handshake_job::perform`, until it waits. -/
def performHandshake (c : Context) (reqHeaders : RequestHeaders M) (sending : Sending) :
    Outcome M :=
  if c.session.shutdownWrite then ⟨[], .done, c⟩
  else match c.syncDecodeUri P reqHeaders.uri with
    | .error e => c.answer e
    | .ok c =>
      let wsResp := P.makeHandshakeResponse reqHeaders
      if wsResp.statusCode = statusSwitchingProtocols then
        (c.syncAuthenticateWebsocket config reqHeaders sending).after [.sent (wsResp, [])]
      else c.answer (.http wsResp.statusCode wsResp.headers)

/-- The same where the WebSocket session is gone. -/
def performExpired (c : Context) : Outcome M :=
  if c.session.shutdownWrite then ⟨[], .done, c⟩
  else c.sendDefaultAndShutdown statusBadRequest M.empty

/-- `on_low_level_message_end`. -/
def onLowLevelMessageEnd (c : Context) : Outcome M :=
  if config.clientGenericExemptPrivateAddresses ∧ P.isPrivate c.session.ip then ⟨[], .done, c⟩
  else
    let (accumulated, bans) := c.bans.accumulateWebsocketRequest config c.now c.session.ip
    let c := { c with bans := bans }
    match accumulated.what with
    | none => ⟨[], .done, c⟩
    | some what => c.throw (.std what)

end Context

/-! ## The sessions as a machine -/

/-- What a job goes on with. -/
inductive JobInput
  | perform (sending : Sending)
  /-- The WebSocket session of the job is gone. -/
  | expired
  | authResponse (resp : Except String HttpAuthenticationResponse) (sending : Sending)
  | foyerResponse (resp : Except String HttpResponseFromBox)
  | websocketAuthResponse (resp : Except String WebsocketAuthenticationResponse) (sending : Sending)
  | websocketEstablished (resp : Except String Uuid)

/-- A job goes on with this where it is. -/
def Stage.takes : Stage → JobInput → Bool
  | .syncExpect, .perform _ | .syncRequest, .perform _ | .websocketHandshake, .perform _ => true
  | .websocketHandshake, .expired => true
  | .authenticatingExpect, .authResponse .. | .authenticatingRequest, .authResponse .. => true
  | .relaying, .foyerResponse _ => true
  | .authenticatingWebsocket, .websocketAuthResponse .. => true
  | .establishing _, .websocketEstablished _ => true
  | _, _ => false

/-- A job of `on_sync_request`. -/
def Stage.isRequest : Stage → Bool
  | .syncRequest | .authenticatingRequest | .relaying => true
  | _ => false

/-- A step of a job. -/
def ClientJob.step (config : Config) (P : SessionLibrary M) (job : ClientJob M) (c : Context)
    (input : JobInput) : Outcome M :=
  match job.stage, input with
  | .syncExpect, .perform sending => c.onSyncExpect config P job.reqHeaders sending
  | .syncRequest, .perform sending =>
    c.onSyncRequest config P job.reqHeaders job.reqEntity sending
  | .websocketHandshake, .perform sending => c.performHandshake config P job.reqHeaders sending
  | .websocketHandshake, .expired => c.performExpired
  | .authenticatingExpect, .authResponse resp _ => c.onExpectAuthenticated config P resp
  | .authenticatingRequest, .authResponse resp sending =>
    c.onRequestAuthenticated config P job.reqHeaders job.reqEntity resp sending
  | .relaying, .foyerResponse resp => c.onRelayed P job.reqHeaders resp
  | .authenticatingWebsocket, .websocketAuthResponse resp sending =>
    c.onWebsocketAuthenticated config P job.reqHeaders resp sending
  | .establishing authToken, .websocketEstablished resp => c.onEstablished config authToken resp
  | stage, _ => ⟨[], stage, c⟩

/-! ## How a job goes on -/

section Progress

variable {config : Config} {P : SessionLibrary M} {c : Context} {reqHeaders : RequestHeaders M}
  {outcome : Outcome M}

/-- The URI of a request is one that `sync_decode_uri` takes. -/
def decodes (P : SessionLibrary M) (reqHeaders : RequestHeaders M) : Bool :=
  (P.urlDecode reqHeaders.uri).any fun decodedUri => !decodedUri.isEmpty

/-- A request for which `on_sync_expect` asks an auth server. -/
def expectAsks (config : Config) (P : SessionLibrary M) (reqHeaders : RequestHeaders M) : Bool :=
  reqHeaders.verb.isRelayed && decodes P reqHeaders && config.clientHttpEnabled

/-- A request for a WebSocket session, for which the handshake job asks an auth server. -/
def handshakeAsks (config : Config) (P : SessionLibrary M) (reqHeaders : RequestHeaders M) : Bool :=
  decodes P reqHeaders && config.clientWebsocketEnabled &&
    (P.makeHandshakeResponse reqHeaders).statusCode = statusSwitchingProtocols

/-- The job is over, and asked nobody. -/
structure Outcome.Quiet (outcome : Outcome M) : Prop where
  asks : outcome.asks = false
  stage : outcome.stage = .done

/-- **How a job can go on** from a stage: either it is over and asked nobody, or it waits. -/
inductive Progress (config : Config) (P : SessionLibrary M) (c : Context)
    (reqHeaders : RequestHeaders M) (input : JobInput) (outcome : Outcome M) : Stage → Prop
  | quiet {stage : Stage} (hquiet : outcome.Quiet) :
      Progress config P c reqHeaders input outcome stage
  | expect (hinput : input = .perform .sent) (hasks : expectAsks config P reqHeaders = true)
      (hstage : outcome.stage = .authenticatingExpect) :
      Progress config P c reqHeaders input outcome .syncExpect
  | request (hfree : c.timeRemaining = 0)
      (hstage : outcome.stage = .authenticatingRequest ∨ outcome.stage = .relaying) :
      Progress config P c reqHeaders input outcome .syncRequest
  | authenticated (hstage : outcome.stage = .relaying) :
      Progress config P c reqHeaders input outcome .authenticatingRequest
  | handshake (hasks : handshakeAsks config P reqHeaders = true)
      (hstage : outcome.stage = .authenticatingWebsocket) :
      Progress config P c reqHeaders input outcome .websocketHandshake
  | websocketAuthenticated {authToken : Bytes} (hstage : outcome.stage = .establishing authToken) :
      Progress config P c reqHeaders input outcome .authenticatingWebsocket

@[simp] theorem asks_after (effects : List (GateEffect M)) :
    (outcome.after effects).asks = (effects.any GateEffect.isRequest || outcome.asks) :=
  List.any_append

theorem Outcome.Quiet.after {effects : List (GateEffect M)} (h : outcome.Quiet)
    (heffects : effects.any GateEffect.isRequest = false) : (outcome.after effects).Quiet :=
  ⟨by rw [asks_after, heffects, h.asks, Bool.or_self], h.stage⟩

namespace Context

theorem quiet_throw (e : HttpException M) : (c.throw e).Quiet := ⟨rfl, rfl⟩

theorem quiet_answer (e : HttpException M) : (c.answer e).Quiet := by
  cases e with
  | http statusCode headers => exact ⟨rfl, rfl⟩
  | std what => exact ⟨rfl, rfl⟩

theorem quiet_failAuthentication (e : HttpException M) : (c.failAuthentication config e).Quiet :=
  ⟨rfl, rfl⟩

theorem quiet_failWebsocket (e : SessionException) :
    (c.failWebsocket config e : Outcome M).Quiet := ⟨rfl, rfl⟩

theorem decodes_of_syncDecodeUri {c' : Context} (h : c.syncDecodeUri P reqHeaders.uri = .ok c') :
    decodes P reqHeaders = true := by
  rw [syncDecodeUri] at h
  split at h
  case h_1 | h_2 => cases h
  case h_3 decodedUri hne hdecode =>
    cases decodedUri with
    | nil => exact absurd rfl hne
    | cons => simp [decodes, hdecode]

theorem exists_syncDecodeUri (c : Context) (h : decodes P reqHeaders = true) :
    ∃ decodedUri, c.syncDecodeUri P reqHeaders.uri = .ok (c.withDecodedUri decodedUri) := by
  obtain ⟨decodedUri, hdecode, hne⟩ := (Option.any_eq_true ..).mp h
  cases decodedUri with
  | nil => cases hne
  | cons b bytes => exact ⟨b :: bytes, by simp only [Context.syncDecodeUri, hdecode]⟩

/-- `sync_authenticate` fails, or it waits. -/
theorem syncAuthenticate_cases (sending : Sending) (waiting : Stage) :
    (c.syncAuthenticate config reqHeaders sending waiting).Quiet ∨
      (sending = .sent ∧ config.clientHttpEnabled = true ∧
        (c.syncAuthenticate config reqHeaders sending waiting).stage = waiting) := by
  simp only [syncAuthenticate]
  split
  case isTrue => exact .inl (quiet_failAuthentication _)
  case isFalse henabled =>
    cases sending with
    | noServer => exact .inl (quiet_failAuthentication _)
    | threw what => exact .inl (quiet_failAuthentication _)
    | sent => exact .inr ⟨rfl, by simpa using henabled, rfl⟩

theorem relay_cases (reqEntity : Bytes) (sending : Sending) :
    (c.relay reqHeaders reqEntity sending).Quiet ∨
      (c.relay reqHeaders reqEntity sending).stage = .relaying := by
  cases sending with
  | noServer => exact .inl (quiet_throw _)
  | threw what => exact .inl (quiet_throw _)
  | sent => exact .inr rfl

/-- **How `on_sync_expect` begins**: it is over at once, or it authenticates. -/
theorem onSyncExpect_cases (config : Config) (P : SessionLibrary M) (c : Context)
    (reqHeaders : RequestHeaders M) (sending : Sending) :
    c.onSyncExpect config P reqHeaders sending = ⟨[.continued], .done, c⟩ ∨
      (∃ e, c.onSyncExpect config P reqHeaders sending = c.throw e) ∨
      ∃ c', reqHeaders.verb.isRelayed = true ∧ c.syncDecodeUri P reqHeaders.uri = .ok c' ∧
        c.onSyncExpect config P reqHeaders sending
          = c'.syncAuthenticate config reqHeaders sending .authenticatingExpect := by
  rw [onSyncExpect]
  split_ifs with hoptions hverb
  · exact .inl rfl
  · cases hdecode : c.syncDecodeUri P reqHeaders.uri with
    | error e => exact .inr (.inl ⟨e, rfl⟩)
    | ok c' => exact .inr (.inr ⟨c', hverb, rfl, rfl⟩)
  · exact .inr (.inl ⟨_, rfl⟩)

/-- **How `on_sync_request` begins**: it throws, it answers `OPTIONS`, or it goes on to a server. -/
theorem onSyncRequest_cases (config : Config) (P : SessionLibrary M) (c : Context)
    (reqHeaders : RequestHeaders M) (reqEntity : Bytes) (sending : Sending) :
    (∃ e, c.onSyncRequest config P reqHeaders reqEntity sending = c.throw e) ∨
      (reqHeaders.verb = .options ∧ c.onSyncRequest config P reqHeaders reqEntity sending
        = ⟨[.sent (respondOptions P reqHeaders)], .done, c.reset⟩) ∨
      ∃ c', c.timeRemaining = 0 ∧ c.requireDecodedUri P reqHeaders.uri = .ok c' ∧
        c.onSyncRequest config P reqHeaders reqEntity sending
          = if c'.session.authToken.isSome then c'.relay reqHeaders reqEntity sending
            else c'.syncAuthenticate config reqHeaders sending .authenticatingRequest := by
  rw [onSyncRequest]
  split_ifs with hbanned hencoding hoptions hverb
  · exact .inl ⟨_, rfl⟩
  · exact .inl ⟨_, rfl⟩
  · exact .inr (.inl ⟨hoptions, rfl⟩)
  · cases hdecode : c.requireDecodedUri P reqHeaders.uri with
    | error e => exact .inl ⟨e, rfl⟩
    | ok c' => exact .inr (.inr ⟨c', not_not.mp hbanned, rfl, rfl⟩)
  · exact .inl ⟨_, rfl⟩

theorem progress_onSyncExpect (sending : Sending) :
    Progress config P c reqHeaders (.perform sending) (c.onSyncExpect config P reqHeaders sending)
      .syncExpect := by
  rcases onSyncExpect_cases config P c reqHeaders sending with
    h | ⟨e, h⟩ | ⟨c', hverb, hdecode, h⟩
  · exact h ▸ .quiet ⟨rfl, rfl⟩
  · exact h ▸ .quiet (quiet_throw e)
  · rw [h]
    rcases c'.syncAuthenticate_cases sending .authenticatingExpect with
      hquiet | ⟨hsent, henabled, hstage⟩
    · exact .quiet hquiet
    · refine .expect (congrArg _ hsent) ?_ hstage
      rw [expectAsks, hverb, decodes_of_syncDecodeUri hdecode, henabled]
      rfl

theorem progress_onSyncRequest (reqEntity : Bytes) (sending : Sending) :
    Progress config P c reqHeaders (.perform sending)
      (c.onSyncRequest config P reqHeaders reqEntity sending) .syncRequest := by
  rcases onSyncRequest_cases config P c reqHeaders reqEntity sending with
    ⟨e, h⟩ | ⟨-, h⟩ | ⟨c', hfree, -, h⟩
  · exact h ▸ .quiet (quiet_throw e)
  · exact h ▸ .quiet ⟨rfl, rfl⟩
  · rw [h]
    split_ifs
    · rcases c'.relay_cases reqEntity sending with hquiet | hstage
      · exact .quiet hquiet
      · exact .request hfree (.inr hstage)
    · rcases c'.syncAuthenticate_cases sending .authenticatingRequest with
        hquiet | ⟨-, -, hstage⟩
      · exact .quiet hquiet
      · exact .request hfree (.inl hstage)

theorem quiet_onExpectAuthenticated (resp : Except String HttpAuthenticationResponse) :
    (c.onExpectAuthenticated config P resp).Quiet := by
  rw [onExpectAuthenticated]
  split
  · exact quiet_failAuthentication _
  · exact ⟨rfl, rfl⟩

theorem progress_onRequestAuthenticated (reqEntity : Bytes)
    (resp : Except String HttpAuthenticationResponse) (sending : Sending) :
    Progress config P c reqHeaders (.authResponse resp sending)
      (c.onRequestAuthenticated config P reqHeaders reqEntity resp sending)
      .authenticatingRequest := by
  rw [onRequestAuthenticated]
  split
  case h_1 => exact .quiet (quiet_failAuthentication _)
  case h_2 c' _ => exact (c'.relay_cases reqEntity sending).elim .quiet .authenticated

theorem quiet_onRelayed (resp : Except String HttpResponseFromBox) :
    (c.onRelayed P reqHeaders resp).Quiet := by
  cases resp with
  | error what => exact quiet_throw _
  | ok foyerResp =>
    simp only [onRelayed]
    split
    · exact quiet_throw _
    · exact ⟨rfl, rfl⟩

theorem syncAuthenticateWebsocket_cases (sending : Sending) :
    (c.syncAuthenticateWebsocket config reqHeaders sending).Quiet ∨
      (config.clientWebsocketEnabled = true ∧
        (c.syncAuthenticateWebsocket config reqHeaders sending).stage
          = .authenticatingWebsocket) := by
  simp only [syncAuthenticateWebsocket]
  split
  case isTrue => exact .inl (quiet_failWebsocket _)
  case isFalse henabled =>
    cases sending with
    | noServer => exact .inl (quiet_failWebsocket _)
    | threw what => exact .inl (quiet_failWebsocket _)
    | sent => exact .inr ⟨by simpa using henabled, rfl⟩

theorem isRequest_sendMessages (messages : List CommonWebsocketFrame) :
    (sendMessages P messages).1.any GateEffect.isRequest = false := by
  induction messages with
  | nil => rfl
  | cons message messages ih =>
    rw [sendMessages]
    split
    · rfl
    · exact ih

theorem establish_cases (authToken : Bytes) (sending : Sending) :
    (c.establish config reqHeaders authToken sending).Quiet ∨
      (c.establish config reqHeaders authToken sending).stage = .establishing authToken := by
  cases sending with
  | noServer => exact .inl (quiet_failWebsocket _)
  | threw what => exact .inl (quiet_failWebsocket _)
  | sent => exact .inr rfl

theorem progress_onWebsocketAuthenticated (resp : Except String WebsocketAuthenticationResponse)
    (sending : Sending) :
    Progress config P c reqHeaders (.websocketAuthResponse resp sending)
      (c.onWebsocketAuthenticated config P reqHeaders resp sending) .authenticatingWebsocket := by
  cases resp with
  | error what => exact .quiet (quiet_failWebsocket _)
  | ok authResp =>
    have hsent := isRequest_sendMessages (P := P) authResp.messages
    simp only [onWebsocketAuthenticated]
    split
    case h_1 effects what heq =>
      rw [heq] at hsent
      exact .quiet ((quiet_failWebsocket _).after hsent)
    case h_2 effects heq =>
      rw [heq] at hsent
      split_ifs
      · split
        · exact .quiet ((quiet_failWebsocket _).after hsent)
        · exact .quiet ((quiet_failWebsocket _).after hsent)
      · rcases c.establish_cases authResp.authToken sending with hquiet | hstage
        · exact .quiet (hquiet.after hsent)
        · exact .websocketAuthenticated hstage

theorem quiet_onEstablished (authToken : Bytes) (resp : Except String Uuid) :
    (c.onEstablished config authToken resp : Outcome M).Quiet := by
  cases resp with
  | error what => exact quiet_failWebsocket _
  | ok boxUuid =>
    simp only [onEstablished]
    split
    · exact (quiet_failWebsocket _).after rfl
    · exact ⟨rfl, rfl⟩

theorem progress_performHandshake (sending : Sending) :
    Progress config P c reqHeaders (.perform sending)
      (c.performHandshake config P reqHeaders sending) .websocketHandshake := by
  rw [performHandshake]
  split
  case isTrue => exact .quiet ⟨rfl, rfl⟩
  case isFalse =>
    split
    case h_1 e _ => exact .quiet (quiet_answer e)
    case h_2 c' hdecode =>
      simp only
      split_ifs with hswitch
      · rcases c'.syncAuthenticateWebsocket_cases sending with hquiet | ⟨henabled, hstage⟩
        · exact .quiet (hquiet.after rfl)
        · refine .handshake ?_ hstage
          rw [handshakeAsks, decodes_of_syncDecodeUri hdecode, henabled]
          exact decide_eq_true hswitch
      · exact .quiet (quiet_answer _)

theorem quiet_performExpired : (c.performExpired : Outcome M).Quiet := by
  rw [performExpired]
  split
  · exact ⟨rfl, rfl⟩
  · exact ⟨rfl, rfl⟩

/-- What `on_low_level_request_end` enqueues; a handshake of the first request only where the
address is not banned. -/
theorem onLowLevelRequestEnd_cases (config : Config) (P : SessionLibrary M) (c : Context)
    (reqHeaders : RequestHeaders M) :
    (c.onLowLevelRequestEnd config P reqHeaders).asks = false ∧
      ((c.onLowLevelRequestEnd config P reqHeaders).stage = .done ∨
        (c.onLowLevelRequestEnd config P reqHeaders).stage = .syncRequest ∨
        ((c.onLowLevelRequestEnd config P reqHeaders).stage = .websocketHandshake ∧
          (c.session.firstRequest = true → c.timeRemaining = 0) ∧
          sameText (P.get reqHeaders.headers (asciiBytes "Upgrade"))
            (asciiBytes "websocket"))) := by
  simp only [onLowLevelRequestEnd]
  split_ifs with hbanned hwebsocket hupgrade hexempt
  · exact ⟨rfl, .inl rfl⟩
  · exact ⟨rfl, .inr (.inr ⟨rfl, fun hfirst => not_not.mp fun h => hbanned ⟨hfirst, h⟩,
      hwebsocket⟩)⟩
  · exact ⟨rfl, .inl rfl⟩
  · exact ⟨rfl, .inr (.inl rfl)⟩
  · split
    · exact ⟨rfl, .inr (.inl rfl)⟩
    · exact ⟨rfl, .inl rfl⟩

theorem asks_onLowLevelMessageEnd :
    (c.onLowLevelMessageEnd config P : Outcome M).asks = false := by
  rw [onLowLevelMessageEnd]
  split
  · rfl
  · simp only
    split
    · rfl
    · rfl

end Context

/-- **Every step of a job is a way to go on.** -/
theorem ClientJob.progress (job : ClientJob M) {input : JobInput}
    (h : job.stage.takes input = true) :
    Progress config P c job.reqHeaders input (job.step config P c input) job.stage := by
  obtain ⟨request, session, reqHeaders, reqEntity, stage⟩ := job
  cases input with
  | perform sending =>
    cases stage with
    | syncExpect => exact c.progress_onSyncExpect sending
    | syncRequest => exact c.progress_onSyncRequest reqEntity sending
    | websocketHandshake => exact c.progress_performHandshake sending
    | _ => cases h
  | expired =>
    cases stage with
    | websocketHandshake => exact .quiet c.quiet_performExpired
    | _ => cases h
  | authResponse resp sending =>
    cases stage with
    | authenticatingExpect => exact .quiet (c.quiet_onExpectAuthenticated resp)
    | authenticatingRequest => exact c.progress_onRequestAuthenticated reqEntity resp sending
    | _ => cases h
  | foyerResponse resp =>
    cases stage with
    | relaying => exact .quiet (c.quiet_onRelayed resp)
    | _ => cases h
  | websocketAuthResponse resp sending =>
    cases stage with
    | authenticatingWebsocket => exact c.progress_onWebsocketAuthenticated resp sending
    | _ => cases h
  | websocketEstablished resp =>
    cases stage with
    | establishing authToken => exact .quiet (c.quiet_onEstablished authToken resp)
    | _ => cases h

end Progress

/-- A request as its client sends it.  `ended` says that `on_low_level_request_end` was called. -/
structure ClientRequest (M : MultimapInterface Bytes Bytes) where
  session : ℕ
  reqHeaders : RequestHeaders M
  reqEntity : Bytes
  ended : Bool

/-- A gate, as far as its clients are concerned. -/
structure ClientSessions (M : MultimapInterface Bytes Bytes) where
  now : ℕ
  bans : IpContainer
  sessions : List ClientHttpSession
  requests : List (ClientRequest M)
  jobs : List (ClientJob M)

inductive ClientEvent (M : MultimapInterface Bytes Bytes)
  | connect (clientUuid : Uuid) (ip : Bytes)
  /-- The headers of a request are there; with `expect`, `on_sync_expect` is to be called. -/
  | receive (session : ℕ) (reqHeaders : RequestHeaders M) (reqEntity : Bytes) (expect : Bool)
  | lowLevelRequestEnd (request : ℕ)
  | job (i : ℕ) (input : JobInput)
  | lowLevelMessageEnd (session : ℕ)
  /-- A session is shut down by its client, or by anything else. -/
  | shutdown (session : ℕ)
  /-- The clock goes on. -/
  | advance (time : ℕ)
  | accumulate (ip : Bytes) (counter : Counter)
  | setBanTimeRemaining (ip : Bytes) (timeRemaining : ℕ)
  /-- `remove_ban`; where the address is none, it does nothing. -/
  | removeBan (ip : Option Bytes)

namespace ClientSessions

/-- Nobody is connected or banned. -/
def start (now : ℕ) : ClientSessions M := ⟨now, FlatMap.empty, [], [], []⟩

variable (config : Config) (P : SessionLibrary M)

/-- What a callback of a session works on. -/
def context (x : ClientSessions M) (session : ClientHttpSession) : Context :=
  ⟨x.now, x.bans, session⟩

/-- What a callback of a session leaves. -/
def leave (x : ClientSessions M) (session : ℕ) (c : Context) : ClientSessions M :=
  { x with bans := c.bans, sessions := x.sessions.set session c.session }

def addJob (x : ClientSessions M) (request : ℕ) (req : ClientRequest M) (stage : Stage) :
    ClientSessions M :=
  { x with jobs := x.jobs ++ [⟨request, req.session, req.reqHeaders, req.reqEntity, stage⟩] }

/-- The request an event is about. -/
def requestOf (x : ClientSessions M) : ClientEvent M → Option ℕ
  | .receive .. => some x.requests.length
  | .lowLevelRequestEnd request => some request
  | .job i _ => x.jobs[i]?.map ClientJob.request
  | _ => none

/-- The session whose client an event is about. -/
def sessionOf (x : ClientSessions M) : ClientEvent M → Option ClientHttpSession
  | .receive session .. | .lowLevelMessageEnd session | .shutdown session => x.sessions[session]?
  | .lowLevelRequestEnd request => x.requests[request]?.bind fun req => x.sessions[req.session]?
  | .job i _ => x.jobs[i]?.bind fun job => x.sessions[job.session]?
  | _ => none

def Enabled (x : ClientSessions M) : ClientEvent M → Prop
  | .receive session .. | .lowLevelMessageEnd session | .shutdown session =>
    session < x.sessions.length
  | .lowLevelRequestEnd request => x.requests[request]?.any fun req => !req.ended
  | .job i input => x.jobs[i]?.any fun job => job.stage.takes input
  | _ => True

instance (x : ClientSessions M) : DecidablePred x.Enabled
  | .receive .. | .lowLevelMessageEnd _ | .shutdown _ => inferInstanceAs (Decidable (_ < _))
  | .lowLevelRequestEnd _ | .job .. => inferInstanceAs (Decidable (_ = true))
  | .connect .. | .advance _ | .accumulate .. | .setBanTimeRemaining .. | .removeBan _ =>
    inferInstanceAs (Decidable True)

/-- One event: what it did to the outside, and the gate afterwards. -/
def handle (x : ClientSessions M) : ClientEvent M → List (GateEffect M) × ClientSessions M
  | .connect clientUuid ip => ([], { x with sessions := x.sessions ++ [.new clientUuid ip] })
  | .receive session reqHeaders reqEntity expect =>
    let req : ClientRequest M := ⟨session, reqHeaders, reqEntity, false⟩
    let x' := { x with requests := x.requests ++ [req] }
    ([], if expect then x'.addJob x.requests.length req .syncExpect else x')
  | .lowLevelRequestEnd request =>
    match x.requests[request]? with
    | none => ([], x)
    | some req =>
      let x := { x with requests := x.requests.set request { req with ended := true } }
      match x.sessions[req.session]? with
      | none => ([], x)
      | some session =>
        let outcome := (x.context session).onLowLevelRequestEnd config P req.reqHeaders
        let x := x.leave req.session outcome.context
        (outcome.effects, if outcome.stage = .done then x else x.addJob request req outcome.stage)
  | .job i input =>
    match x.jobs[i]? with
    | none => ([], x)
    | some job =>
      match x.sessions[job.session]? with
      | none => ([], x)
      | some session =>
        let outcome := job.step config P (x.context session) input
        (outcome.effects,
          { x.leave job.session outcome.context with
            jobs := x.jobs.set i { job with stage := outcome.stage } })
  | .lowLevelMessageEnd session =>
    match x.sessions[session]? with
    | none => ([], x)
    | some s =>
      let outcome := (x.context s).onLowLevelMessageEnd config P
      (outcome.effects, x.leave session outcome.context)
  | .shutdown session =>
    match x.sessions[session]? with
    | none => ([], x)
    | some s => ([], x.leave session (x.context s).withShutdown)
  | .advance time => ([], { x with now := x.now + time })
  | .accumulate ip counter =>
    ([], { x with bans := (x.bans.accumulate config x.now ip counter).2 })
  | .setBanTimeRemaining ip timeRemaining =>
    ([], { x with bans := x.bans.setBanTimeRemaining x.now ip timeRemaining })
  | .removeBan none => ([], x)
  | .removeBan (some ip) => ([], { x with bans := (x.bans.removeBan ip).2 })

end ClientSessions

/-- An event, what it did, the request it is about, and how long the address of that request was
still banned when it came up. -/
structure ClientLabel (M : MultimapInterface Bytes Bytes) where
  event : ClientEvent M
  effects : List (GateEffect M)
  request : Option ℕ
  timeRemaining : ℕ

namespace ClientSessions

variable (config : Config) (P : SessionLibrary M)

def timeRemaining (x : ClientSessions M) (event : ClientEvent M) : ℕ :=
  match x.sessionOf event with
  | none => 0
  | some session => x.bans.getBanTimeRemaining x.now session.ip

def next (x : ClientSessions M) (event : ClientEvent M) : ClientLabel M × ClientSessions M :=
  let (effects, y) := x.handle config P event
  (⟨event, effects, x.requestOf event, x.timeRemaining event⟩, y)

def Step (x : ClientSessions M) (l : ClientLabel M) (y : ClientSessions M) : Prop :=
  x.Enabled l.event ∧ x.next config P l.event = (l, y)

end ClientSessions

end Gate

end Circe
