import Circe.Common.Platform

/-!
# Common/InterserverConnection — one end of an interserver connection

What a connection holds and what it does: frames handled and sent by its workhorse thread
(`inflateAndDispatch`, `deflateAndSend`), requests and notifications made on it, jobs that run the
servlets, and its close.  `InterserverConnection.handle` is the connection as a machine: one event,
what it did, and the connection after it.

`layer7_post_set_connection_uuid` is virtual.  It is the parameter `post` of the functions that call
it, and acts on what surrounds the connection.
-/

namespace Circe.Common

/-! ## Promises -/

/-- A `Promised_response`, by the order in which they were made. -/
abbrev PromiseId := ℕ

/-- `m_next_serial` and `m_weak_promises`, the number of promises made so far, and those whose
requester has let go of them. -/
structure PromiseTable where
  nextSerial : UInt64
  weakPromises : FlatMultimap UInt64 PromiseId
  made : ℕ
  dropped : List PromiseId
deriving DecidableEq

namespace PromiseTable

def empty : PromiseTable := ⟨0, .empty, 0, []⟩

/-- The serial of the next request. -/
def serial (t : PromiseTable) : UInt64 := t.nextSerial + 1

/-- A new promise under the next serial. -/
def emplace (t : PromiseTable) : PromiseTable :=
  { t with
    nextSerial := t.serial
    weakPromises := t.weakPromises.emplace t.serial t.made
    made := t.made + 1 }

/-- The entry of a request that is not sent after all. -/
def cancel (t : PromiseTable) (serial : UInt64) (promise : PromiseId) : PromiseTable :=
  { t with weakPromises := t.weakPromises.eraseEntry (serial, promise) }

/-- `weak_ptr::lock`. -/
def lock (t : PromiseTable) (promise : PromiseId) : Option PromiseId :=
  if promise ∈ t.dropped then none else some promise

/-- The promise a response is for, out of the table. -/
def take (t : PromiseTable) (serial : UInt64) : Option PromiseId × PromiseTable :=
  match t.weakPromises.find? serial with
  | none => (none, t)
  | some (_, promise) =>
    (t.lock promise, { t with weakPromises := t.weakPromises.eraseFirst serial })

/-- The requester lets go of its promise. -/
def drop (t : PromiseTable) (promise : PromiseId) : PromiseTable :=
  { t with dropped := promise :: t.dropped }

end PromiseTable

/-! ## The connection -/

/-- A job on the workhorse thread of a connection. -/
inductive Task
  | inflateAndDispatch (magicNumber : UInt16) (encodedPayload : Bytes)
  | deflateAndSend (magicNumber : UInt16) (magicPayload : Bytes)
deriving DecidableEq

structure RequestMessageJob where
  messageId : UInt16
  sendResponse : Bool
  serial : UInt64
  payload : Bytes
deriving DecidableEq

/-- A `Poseidon::Cbpp::Message_base`. -/
structure Message where
  id : UInt64
  payload : Bytes
deriving DecidableEq

/-- A connection: its members, what it was shut down with, the jobs its workhorse thread still has
to do, and the jobs waiting to run a servlet. -/
structure InterserverConnection (Φ : Type) where
  applicationKey : Bytes
  messageFilter : Option Φ
  authenticated : Bool
  connectionUuid : Uuid
  timestamp : UInt64
  options : OptionMap
  promises : PromiseTable
  shutdownWith : Option (Int64 × String)
  workhorse : List Task
  jobs : List RequestMessageJob
deriving DecidableEq

/-- What a connection does to the world and to its callers. -/
inductive Effect
  | requested (serial : UInt64) (promise : PromiseId) (msg : Message)
  | notified (msg : Message)
  | sent (magicNumber : UInt16) (magicPayload encodedPayload : Bytes)
  | received (magicNumber : UInt16) (encodedPayload magicPayload : Bytes)
  | enqueued (job : RequestMessageJob)
  | ran (job : RequestMessageJob) (resp : InterserverResponse)
  | settled (promise : PromiseId) (result : Except Exception InterserverResponse)
  | sentControl (statusCode : Int64) (param : Bytes)
deriving DecidableEq

namespace InterserverConnection

variable {Φ σ : Type} (P : Platform Φ) (post : Uuid → σ → Except Exception Unit × σ)

/-- A connection just made. -/
def new (applicationKey : Bytes) : InterserverConnection Φ :=
  ⟨applicationKey, none, false, 0, 0, [], .empty, none, [], []⟩

def isConnectionUuidSet (c : InterserverConnection Φ) : Bool := c.connectionUuid != 0

def hasBeenShutdown (c : InterserverConnection Φ) : Bool := c.shutdownWith.isSome

/-- The first shutdown counts. -/
def shutdown (c : InterserverConnection Φ) (errCode : Int64) (errMsg : String) :
    InterserverConnection Φ :=
  { c with shutdownWith := c.shutdownWith <|> some (errCode, errMsg) }

/-- The `catch` clauses that end in a shutdown. -/
def shutdownIfThrown (result : Except Exception Unit) (c : InterserverConnection Φ) :
    InterserverConnection Φ :=
  match result with
  | .error e => c.shutdown e.statusCode e.what
  | .ok _ => c

/-- `m_message_filter`, made on its first use. -/
def requireMessageFilter (c : InterserverConnection Φ) : Φ :=
  c.messageFilter.getD
    (P.filter.make (P.calculateChecksum c.applicationKey saltAuthentication 0 0))

def launchDeflateAndSend (c : InterserverConnection Φ) (magicNumber : UInt16)
    (magicPayload : Bytes) : InterserverConnection Φ :=
  { c with workhorse := c.workhorse ++ [.deflateAndSend magicNumber magicPayload] }

/-- `layer5_on_receive_data`. -/
def layer5OnReceiveData (c : InterserverConnection Φ) (magicNumber : UInt16)
    (encodedPayload : Bytes) : InterserverConnection Φ :=
  { c with workhorse := c.workhorse ++ [.inflateAndDispatch magicNumber encodedPayload] }

/-- `layer5_on_receive_control`. -/
def layer5OnReceiveControl (statusCode : Int64) (param : Bytes) (c : InterserverConnection Φ) :
    Except Exception Unit × InterserverConnection Φ × List Effect :=
  if c.authenticated then
    if statusCode = P.statusShutdown then
      (.ok (), c.shutdown P.statusShutdown (textOfBytes param), [])
    else if statusCode = P.statusPing then (.ok (), c, [.sentControl P.statusPong param])
    else (.ok (), c, [])
  else (.error (.assertion "has_authenticated()"), c, [])

/-! ### The handshake -/

def calledTwice (function caller other : String) : Exception :=
  .exception (function ++ "() shall be called exactly once by the " ++ caller ++
    " and must not be called by the " ++ other)

/-- The part of `server_accept_hello` before `layer7_post_set_connection_uuid`: the
`Server_hello` is launched and the hello is kept.  `options_resp` is moved from, value by value,
before it is kept. -/
def keepHello (connectionUuid : Uuid) (timestamp : UInt64) (optionsResp : OptionMap)
    (c : InterserverConnection Φ) : InterserverConnection Φ :=
  let checksumResp :=
    P.calculateChecksum c.applicationKey saltServerHello connectionUuid timestamp
  let msg : ServerHello := ⟨checksumResp, optionsResp.map fun o => ⟨o.1, o.2⟩⟩
  { c.launchDeflateAndSend ServerHello.id (P.serverHello.serialize msg) with
    connectionUuid := connectionUuid
    timestamp := timestamp
    options := optionsResp.map fun o => (o.1, []) }

def serverAcceptHello (connectionUuid : Uuid) (timestamp : UInt64) (optionsResp : OptionMap)
    (c : InterserverConnection Φ) (s : σ) : Except Exception Unit × InterserverConnection Φ × σ :=
  if c.isConnectionUuidSet then (.error (calledTwice "server_accept_hello" "server" "client"), c, s)
  else
    let (posted, s) := post connectionUuid s
    (posted, c.keepHello P connectionUuid timestamp optionsResp, s)

def clientAcceptHello (optionsResp : OptionMap) (c : InterserverConnection Φ) (s : σ) :
    Except Exception Unit × InterserverConnection Φ × σ :=
  if c.isConnectionUuidSet then
    let (posted, s) := post c.connectionUuid s
    (posted, { c with options := optionsResp }, s)
  else
    (.error (calledTwice "client_accept_hello" "client" "server"), c, s)

/-- `layer7_client_say_hello`, with the UUID and the time it draws. -/
def layer7ClientSayHello (connectionUuid : Uuid) (timestamp : UInt64) (optionsReq : OptionMap)
    (c : InterserverConnection Φ) : Except Exception Unit × InterserverConnection Φ :=
  if c.isConnectionUuidSet then
    (.error (calledTwice "layer7_client_say_hello" "client" "server"), c)
  else
    let checksumReq := P.calculateChecksum c.applicationKey saltClientHello connectionUuid timestamp
    let msg : ClientHello :=
      ⟨connectionUuid, timestamp, checksumReq, optionsReq.map fun o => ⟨o.1, o.2⟩⟩
    let c := c.launchDeflateAndSend ClientHello.id (P.clientHello.serialize msg)
    (.ok (), { c with connectionUuid := connectionUuid, timestamp := timestamp })

/-- `m_checksum_seedx`: the seed of a direction from the hello on. -/
def normalDataSeed (c : InterserverConnection Φ) : Sha256 :=
  P.calculateChecksum c.applicationKey saltNormalData c.connectionUuid c.timestamp

/-! ### `inflate_and_dispatch` -/

/-- What is left when a frame was handled, or an exception was thrown on the way. -/
structure Outcome (σ Φ : Type) where
  result : Except Exception Unit
  connection : InterserverConnection Φ
  surroundings : σ
  effects : List Effect

/-- A `Client_hello` frame. -/
def receiveClientHello (encodedPayload : Bytes) (c : InterserverConnection Φ) (s : σ) :
    Outcome σ Φ :=
  match P.clientHello.deserialize encodedPayload with
  | .error e => ⟨.error e, c, s, []⟩
  | .ok (msg, _) =>
    let effects := [Effect.received ClientHello.id encodedPayload encodedPayload]
    let checksumReq :=
      P.calculateChecksum c.applicationKey saltClientHello msg.connectionUuid msg.timestamp
    if msg.checksumReq = checksumReq then
      let optionsReq := msg.optionsReq.map fun o => (o.key, o.value)
      let (accepted, c, s) :=
        serverAcceptHello P post msg.connectionUuid msg.timestamp optionsReq c s
      match accepted with
      | .error e => ⟨.error e, c, s, effects⟩
      | .ok () =>
        if c.isConnectionUuidSet then
          let filter := P.filter.reseedDecoderPrng (c.requireMessageFilter P) (c.normalDataSeed P)
          ⟨.ok (), { c with messageFilter := some filter, authenticated := true }, s, effects⟩
        else ⟨.error (.assertion "is_connection_uuid_set()"), c, s, effects⟩
    else
      ⟨.error (.protocol Protocol.errorAuthorizationFailure "Request checksum failed verification"),
        c, s, effects⟩

/-- A `Server_hello` frame. -/
def receiveServerHello (encodedPayload : Bytes) (c : InterserverConnection Φ) (s : σ) :
    Outcome σ Φ :=
  if c.isConnectionUuidSet then
    match P.serverHello.deserialize encodedPayload with
    | .error e => ⟨.error e, c, s, []⟩
    | .ok (msg, _) =>
      let effects := [Effect.received ServerHello.id encodedPayload encodedPayload]
      let checksumResp :=
        P.calculateChecksum c.applicationKey saltServerHello c.connectionUuid c.timestamp
      if msg.checksumResp = checksumResp then
        let optionsResp := msg.optionsResp.map fun o => (o.key, o.value)
        let (accepted, c, s) := clientAcceptHello post optionsResp c s
        match accepted with
        | .error e => ⟨.error e, c, s, effects⟩
        | .ok () => ⟨.ok (), { c with authenticated := true }, s, effects⟩
      else
        ⟨.error (.protocol Protocol.errorAuthorizationFailure
          "Response checksum failed verification"), c, s, effects⟩
  else ⟨.error (.assertion "is_connection_uuid_set()"), c, s, []⟩

/-- What is done with the payload of a user-defined response, request or notification. -/
def dispatch (magicNumber : UInt16) (magicPayload : Bytes) (c : InterserverConnection Φ) :
    Except Exception Unit × InterserverConnection Φ × List Effect :=
  let messageId := magicNumber &&& messageIdMax.toUInt16
  if hasAnyFlagsOf magicNumber magicFlagIsResponse then
    match P.userResponseHeader.deserialize magicPayload with
    | .error e => (.error e, c, [])
    | .ok (hdr, payload) =>
      let (promise, promises) := c.promises.take hdr.serial
      let resp : InterserverResponse := ⟨hdr.errCode, hdr.errMsg, messageId.toUInt64, payload⟩
      (.ok (), { c with promises := promises },
        promise.toList.map fun promise => .settled promise (.ok resp))
  else if hasAnyFlagsOf magicNumber magicFlagWantsResponse then
    match P.userRequestHeader.deserialize magicPayload with
    | .error e => (.error e, c, [])
    | .ok (hdr, payload) =>
      let job : RequestMessageJob := ⟨messageId, true, hdr.serial, payload⟩
      (.ok (), { c with jobs := c.jobs ++ [job] }, [.enqueued job])
  else
    let job : RequestMessageJob := ⟨messageId, false, 0xDEADBEEF, magicPayload⟩
    (.ok (), { c with jobs := c.jobs ++ [job] }, [.enqueued job])

/-- A user-defined frame. -/
def receiveUserFrame (magicNumber : UInt16) (encodedPayload : Bytes) (c : InterserverConnection Φ)
    (s : σ) : Outcome σ Φ :=
  if hasNoneFlagsOf magicNumber (magicFlagPredefined ||| magicFlagReserved) then
    let (decoded, filter) := P.filter.decode (c.requireMessageFilter P) encodedPayload
    let c := { c with messageFilter := some filter }
    match decoded with
    | .error e => ⟨.error e, c, s, []⟩
    | .ok magicPayload =>
      let (result, c, effects) := dispatch P magicNumber magicPayload c
      ⟨result, c, s, .received magicNumber encodedPayload magicPayload :: effects⟩
  else ⟨.error (.protocol Protocol.errorInvalidArgument "Reserved bits set"), c, s, []⟩

theorem receiveUserFrame_of_flags {magicNumber : UInt16}
    (hflags : hasNoneFlagsOf magicNumber (magicFlagPredefined ||| magicFlagReserved) = false)
    (encodedPayload : Bytes) (c : InterserverConnection Φ) (s : σ) :
    c.receiveUserFrame P magicNumber encodedPayload s
      = ⟨.error (.protocol Protocol.errorInvalidArgument "Reserved bits set"), c, s, []⟩ := by
  rw [receiveUserFrame, if_neg (by simp [hflags])]

theorem receiveUserFrame_of_error {magicNumber : UInt16} {encodedPayload : Bytes}
    {c : InterserverConnection Φ} {e : Exception} {filter : Φ}
    (hflags : hasNoneFlagsOf magicNumber (magicFlagPredefined ||| magicFlagReserved) = true)
    (hdecode : P.filter.decode (c.requireMessageFilter P) encodedPayload = (.error e, filter))
    (s : σ) :
    c.receiveUserFrame P magicNumber encodedPayload s
      = ⟨.error e, { c with messageFilter := some filter }, s, []⟩ := by
  rw [receiveUserFrame, if_pos hflags, hdecode]

theorem receiveUserFrame_of_ok {magicNumber : UInt16} {encodedPayload magicPayload : Bytes}
    {c : InterserverConnection Φ} {filter : Φ}
    (hflags : hasNoneFlagsOf magicNumber (magicFlagPredefined ||| magicFlagReserved) = true)
    (hdecode : P.filter.decode (c.requireMessageFilter P) encodedPayload
      = (.ok magicPayload, filter)) (s : σ) :
    c.receiveUserFrame P magicNumber encodedPayload s
      = ⟨(dispatch P magicNumber magicPayload { c with messageFilter := some filter }).1,
          (dispatch P magicNumber magicPayload { c with messageFilter := some filter }).2.1, s,
          .received magicNumber encodedPayload magicPayload ::
            (dispatch P magicNumber magicPayload { c with messageFilter := some filter }).2.2⟩ := by
  rw [receiveUserFrame, if_pos hflags, hdecode]

/-- The `try` block of `inflate_and_dispatch`. -/
def tryInflateAndDispatch (magicNumber : UInt16) (encodedPayload : Bytes)
    (c : InterserverConnection Φ) (s : σ) : Outcome σ Φ :=
  if magicNumber = ClientHello.id then receiveClientHello P post encodedPayload c s
  else if magicNumber = ServerHello.id then receiveServerHello P post encodedPayload c s
  else receiveUserFrame P magicNumber encodedPayload c s

def inflateAndDispatch (magicNumber : UInt16) (encodedPayload : Bytes)
    (c : InterserverConnection Φ) (s : σ) : List Effect × InterserverConnection Φ × σ :=
  if c.hasBeenShutdown then ([], c, s)
  else
    let o := tryInflateAndDispatch P post magicNumber encodedPayload c s
    (o.effects, shutdownIfThrown o.result o.connection, o.surroundings)

/-! ### `deflate_and_send` -/

/-- The `try` block of `deflate_and_send`. -/
def tryDeflateAndSend (magicNumber : UInt16) (magicPayload : Bytes) (c : InterserverConnection Φ) :
    Except Exception Unit × InterserverConnection Φ × List Effect :=
  if magicNumber = ClientHello.id then
    if c.isConnectionUuidSet then
      let filter := P.filter.reseedEncoderPrng (c.requireMessageFilter P) (c.normalDataSeed P)
      (.ok (), { c with messageFilter := some filter },
        [.sent magicNumber magicPayload magicPayload])
    else (.error (.assertion "is_connection_uuid_set()"), c, [])
  else if magicNumber = ServerHello.id then
    if c.isConnectionUuidSet then (.ok (), c, [.sent magicNumber magicPayload magicPayload])
    else (.error (.assertion "is_connection_uuid_set()"), c, [])
  else if hasNoneFlagsOf magicNumber (magicFlagPredefined ||| magicFlagReserved) then
    let (encoded, filter) := P.filter.encode (c.requireMessageFilter P) magicPayload
    let c := { c with messageFilter := some filter }
    match encoded with
    | .error e => (.error e, c, [])
    | .ok encodedPayload => (.ok (), c, [.sent magicNumber magicPayload encodedPayload])
  else (.error (.protocol Protocol.errorInvalidArgument "Reserved bits set"), c, [])

theorem tryDeflateAndSend_of_error {magicNumber : UInt16} {magicPayload : Bytes}
    {c : InterserverConnection Φ} {e : Exception} {filter : Φ}
    (hclient : magicNumber ≠ ClientHello.id) (hserver : magicNumber ≠ ServerHello.id)
    (hflags : hasNoneFlagsOf magicNumber (magicFlagPredefined ||| magicFlagReserved) = true)
    (hencode : P.filter.encode (c.requireMessageFilter P) magicPayload = (.error e, filter)) :
    c.tryDeflateAndSend P magicNumber magicPayload
      = (.error e, { c with messageFilter := some filter }, []) := by
  rw [tryDeflateAndSend, if_neg hclient, if_neg hserver, if_pos hflags, hencode]

theorem tryDeflateAndSend_of_ok {magicNumber : UInt16} {magicPayload encodedPayload : Bytes}
    {c : InterserverConnection Φ} {filter : Φ}
    (hclient : magicNumber ≠ ClientHello.id) (hserver : magicNumber ≠ ServerHello.id)
    (hflags : hasNoneFlagsOf magicNumber (magicFlagPredefined ||| magicFlagReserved) = true)
    (hencode : P.filter.encode (c.requireMessageFilter P) magicPayload
      = (.ok encodedPayload, filter)) :
    c.tryDeflateAndSend P magicNumber magicPayload
      = (.ok (), { c with messageFilter := some filter },
        [.sent magicNumber magicPayload encodedPayload]) := by
  rw [tryDeflateAndSend, if_neg hclient, if_neg hserver, if_pos hflags, hencode]

def deflateAndSend (magicNumber : UInt16) (magicPayload : Bytes) (c : InterserverConnection Φ) :
    List Effect × InterserverConnection Φ :=
  if c.hasBeenShutdown then ([], c)
  else
    let (result, c, effects) := tryDeflateAndSend P magicNumber magicPayload c
    (effects, shutdownIfThrown result c)

/-! ### Requests, notifications and responses -/

/-- `send_request`; `thrown` is what `launch_deflate_and_send` throws, if it does. -/
def sendRequest (msg : Message) (thrown : Option Exception) (c : InterserverConnection Φ) :
    Except Exception Unit × InterserverConnection Φ × List Effect :=
  if isMessageIdValid msg.id = false then (.error (.exception "message_id out of range"), c, [])
  else if c.hasBeenShutdown then (.error (.exception "Interserver_connection was lost"), c, [])
  else
    let serial := c.promises.serial
    let promise := c.promises.made
    let c := { c with promises := c.promises.emplace }
    match thrown with
    | some e => (.error e, { c with promises := c.promises.cancel serial promise }, [])
    | none =>
      let magicNumber := msg.id.toUInt16 ||| magicFlagWantsResponse
      let magicPayload := P.userRequestHeader.serialize ⟨serial⟩ ++ msg.payload
      (.ok (), c.launchDeflateAndSend magicNumber magicPayload, [.requested serial promise msg])

/-- `send_notification`. -/
def sendNotification (msg : Message) (thrown : Option Exception) (c : InterserverConnection Φ) :
    Except Exception Unit × InterserverConnection Φ × List Effect :=
  if isMessageIdValid msg.id = false then (.error (.exception "message_id out of range"), c, [])
  else if c.hasBeenShutdown then (.error (.exception "Interserver_connection was lost"), c, [])
  else
    match thrown with
    | some e => (.error e, c, [])
    | none => (.ok (), c.launchDeflateAndSend msg.id.toUInt16 msg.payload, [.notified msg])

def sendResponse (serial : UInt64) (resp : InterserverResponse) (c : InterserverConnection Φ) :
    Except Exception Unit × InterserverConnection Φ :=
  if resp.messageId = 0 || isMessageIdValid resp.messageId then
    let magicNumber := resp.messageId.toUInt16 ||| magicFlagIsResponse
    let hdr := P.userResponseHeader.serialize ⟨serial, resp.errCode, resp.errMsg⟩
    let magicPayload := if resp.messageId = 0 then hdr else hdr ++ resp.payload
    (.ok (), c.launchDeflateAndSend magicNumber magicPayload)
  else (.error (.exception "message_id out of range"), c)

/-- `Request_message_job::perform`, where `layer7_on_sync_message` returned or threw `handled`. -/
def performJob (job : RequestMessageJob) (handled : Except Exception InterserverResponse)
    (c : InterserverConnection Φ) : List Effect × InterserverConnection Φ :=
  let resp := InterserverResponse.ofHandled handled
  let statusCode := resp.errCode
  let (responded, c) := if job.sendResponse then c.sendResponse P job.serial resp else (.ok (), c)
  let c :=
    match responded with
    | .error e => c.shutdown Protocol.errorInternalError e.what
    | .ok () =>
      if statusCode < 0 then
        c.shutdown Protocol.errorInternalError ("Fatal error " ++ toString statusCode)
      else c
  ([.ran job resp], c)

/-! ### The close -/

def connectionLost : Exception :=
  .exception "Connection was lost before a response could be received"

/-- `layer4_on_close`: every promise still in the table and held is given up. -/
def layer4OnClose (c : InterserverConnection Φ) : List Effect × InterserverConnection Φ :=
  if c.hasBeenShutdown then
    ((c.promises.weakPromises.entries.filterMap fun e => c.promises.lock e.2).map fun promise =>
        .settled promise (.error connectionLost),
      { c with promises := { c.promises with weakPromises := .empty } })
  else ([], c)

end InterserverConnection

/-! ## The connection as a machine -/

/-- The two ends of a connection. -/
inductive Side
  | client
  | server
deriving DecidableEq

def Side.peer : Side → Side
  | .client => .server
  | .server => .client

/-- What can happen to a connection. -/
inductive Event
  | receiveData (magicNumber : UInt16) (encodedPayload : Bytes)
  | receiveControl (statusCode : Int64) (param : Bytes)
  | work
  | sendRequest (msg : Message) (thrown : Option Exception)
  | sendNotification (msg : Message) (thrown : Option Exception)
  | perform (job : RequestMessageJob) (handled : Except Exception InterserverResponse)
  | drop (promise : PromiseId)
  | shutdown (errCode : Int64) (errMsg : String)
  | close

namespace InterserverConnection

variable {Φ σ : Type}

/-- The workhorse thread has something to do; a job is there to be performed; the socket is closed
after a shutdown only. -/
def Enabled (c : InterserverConnection Φ) : Event → Prop
  | .work => c.workhorse ≠ []
  | .perform job _ => job ∈ c.jobs
  | .close => c.hasBeenShutdown = true
  | _ => True

instance (c : InterserverConnection Φ) : DecidablePred c.Enabled
  | .work => inferInstanceAs (Decidable (_ ≠ _))
  | .perform .. => inferInstanceAs (Decidable (_ ∈ _))
  | .close => inferInstanceAs (Decidable (_ = _))
  | .receiveData .. | .receiveControl .. | .sendRequest .. | .sendNotification .. | .drop ..
  | .shutdown .. => inferInstanceAs (Decidable True)

variable (P : Platform Φ) (post : Uuid → σ → Except Exception Unit × σ)

/-- The next job of the workhorse thread. -/
def work (c : InterserverConnection Φ) (s : σ) : List Effect × InterserverConnection Φ × σ :=
  match c.workhorse with
  | [] => ([], c, s)
  | .inflateAndDispatch magicNumber encodedPayload :: rest =>
    inflateAndDispatch P post magicNumber encodedPayload { c with workhorse := rest } s
  | .deflateAndSend magicNumber magicPayload :: rest =>
    let (effects, c) := deflateAndSend P magicNumber magicPayload { c with workhorse := rest }
    (effects, c, s)

/-- One event: its effects, and the connection and its surroundings afterwards. -/
def handle (event : Event) (c : InterserverConnection Φ) (s : σ) :
    List Effect × InterserverConnection Φ × σ :=
  match event with
  | .receiveData magicNumber encodedPayload =>
    ([], c.layer5OnReceiveData magicNumber encodedPayload, s)
  | .receiveControl statusCode param =>
    let (_, c, effects) := c.layer5OnReceiveControl P statusCode param
    (effects, c, s)
  | .work => c.work P post s
  | .sendRequest msg thrown =>
    let (_, c, effects) := c.sendRequest P msg thrown
    (effects, c, s)
  | .sendNotification msg thrown =>
    let (_, c, effects) := c.sendNotification msg thrown
    (effects, c, s)
  | .perform job handled =>
    let (effects, c) := performJob P job handled { c with jobs := c.jobs.erase job }
    (effects, c, s)
  | .drop promise => ([], { c with promises := c.promises.drop promise }, s)
  | .shutdown errCode errMsg => ([], c.shutdown errCode errMsg, s)
  | .close => let (effects, c) := c.layer4OnClose; (effects, c, s)

end InterserverConnection

end Circe.Common
