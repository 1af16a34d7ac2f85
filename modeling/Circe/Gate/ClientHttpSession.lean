import Circe.Common.Platform
import Circe.Foundations.Multimap

/-!
# Gate/ClientHttpSession — what a request of a client becomes on its way

An HTTP request of a client goes from the gate to a foyer server, and from there to a box, whose
`handle_http_request` answers it; the response goes back the same way.  Each server copies the
parameters and headers from an `Option_map` to a list or from a list to an `Option_map`, in a loop
of its own.  The parts of Poseidon this rests on are those of `HttpLibrary`.
-/

namespace Circe

/-! ## HTTP -/

/-- `Poseidon::Http::Verb`. -/
inductive Verb
  | options
  | get
  | put
  | delete
  | head
  | post
  | other (verb : ℕ)
deriving DecidableEq

def statusOk : ℕ := 200
def statusSwitchingProtocols : ℕ := 101
def statusBadRequest : ℕ := 400
def statusNotAcceptable : ℕ := 406
def statusInternalServerError : ℕ := 500
def statusNotImplemented : ℕ := 501
def statusBadGateway : ℕ := 502
def statusServiceUnavailable : ℕ := 503

inductive ContentEncoding
  | identity
  | gzip
  | deflate
  | notAcceptable
deriving DecidableEq

/-- `Poseidon::Http::Request_headers`, with the `Option_map` of `M`. -/
structure RequestHeaders (M : MultimapInterface Bytes Bytes) where
  verb : Verb
  uri : Bytes
  version : ℕ
  getParams : M.Map
  headers : M.Map

structure ResponseHeaders (M : MultimapInterface Bytes Bytes) where
  version : ℕ
  statusCode : ℕ
  reason : Bytes
  headers : M.Map

/-- What is thrown while a request is handled. -/
inductive HttpException (M : MultimapInterface Bytes Bytes)
  | http (statusCode : ℕ) (headers : M.Map)
  | std (what : String)

/-- What the gate uses of Poseidon.  `movedFrom` is a map whose values were moved out. -/
structure HttpLibrary (M : MultimapInterface Bytes Bytes) where
  urlDecode : Bytes → Option Bytes
  isKeepAliveEnabled : RequestHeaders M → Bool
  pickContentEncoding : RequestHeaders M → ContentEncoding
  statusCodeOf : Int64 → Except String ℕ
  statusCodeDesc : ℕ → Bytes
  guessMimeType : Bytes → Bytes
  deflate : (gzip : Bool) → Bytes → Bytes
  makeDefaultResponse : ℕ → M.Map → ResponseHeaders M × Bytes
  movedFrom : M.Map → M.Map

open Common (CommonKeyValue)

variable {M : MultimapInterface Bytes Bytes}

/-- The list made in a loop over a map. -/
def keyValuesOf (m : M.Map) : List CommonKeyValue := (M.entries m).map fun e => ⟨e.1, e.2⟩

/-- The map made in a loop over a list that appends. -/
def mapOfKeyValues (options : List CommonKeyValue) : M.Map :=
  M.appendAll (options.map fun o => (o.key, o.value)) M.empty

/-! ## The messages -/

namespace Protocol

/-- `Foyer::Http_request_to_box`. -/
structure HttpRequestToBox where
  clientUuid : Uuid
  clientIp : Bytes
  authToken : Bytes
  verb : Verb
  decodedUri : Bytes
  params : List CommonKeyValue
  headers : List CommonKeyValue
  entity : Bytes
deriving DecidableEq

/-- `Box::Http_request`. -/
structure HttpRequest extends HttpRequestToBox where
  gateUuid : Uuid
deriving DecidableEq

/-- `Box::Http_response`. -/
structure HttpResponse where
  statusCode : Int64
  headers : List CommonKeyValue
  entity : Bytes
deriving DecidableEq

/-- `Foyer::Http_response_from_box`. -/
structure HttpResponseFromBox extends HttpResponse where
  boxUuid : Uuid
deriving DecidableEq

end Protocol

open Protocol

/-! ## The servlet of the box -/

namespace Box

/-- The arguments `handle_http_request` is called with. -/
structure HttpCall (M : MultimapInterface Bytes Bytes) where
  clientUuid : Uuid
  clientIp : Bytes
  authToken : Bytes
  verb : Verb
  decodedUri : Bytes
  params : M.Map
  headers : M.Map
  entity : Bytes

/-- What `handle_http_request` leaves in its two output arguments, and how it ends. -/
structure HttpHandled (M : MultimapInterface Bytes Bytes) where
  respHeaders : M.Map
  respEntity : Bytes
  outcome : Except (HttpException M) ℕ

def httpCall (req : HttpRequest) : HttpCall M where
  clientUuid := req.clientUuid
  clientIp := req.clientIp
  authToken := req.authToken
  verb := req.verb
  decodedUri := req.decodedUri
  params := mapOfKeyValues req.params
  headers := mapOfKeyValues req.headers
  entity := req.entity

/-- The headers after the `catch` clauses. -/
def HttpHandled.headers (handled : HttpHandled M) : M.Map :=
  match handled.outcome with
  | .ok _ => handled.respHeaders
  | .error _ => M.set handled.respHeaders (asciiBytes "Connection") (asciiBytes "Close")

def HttpHandled.statusCode (handled : HttpHandled M) : ℕ :=
  match handled.outcome with
  | .ok statusCode => statusCode
  | .error (.http statusCode _) => statusCode
  | .error (.std _) => statusInternalServerError

/-- The servlet of `Http_request`. -/
def httpRequest (handleHttpRequest : HttpCall M → HttpHandled M) (req : HttpRequest) :
    HttpResponse :=
  let handled := handleHttpRequest (httpCall req)
  { statusCode := Int64.ofNat handled.statusCode
    headers := keyValuesOf handled.headers
    entity := handled.respEntity }

end Box

/-! ## The servlet of the foyer server -/

namespace Foyer

/-- The request for the box. -/
def httpRequest (connectionUuid : Uuid) (req : HttpRequestToBox) : HttpRequest :=
  { req with gateUuid := connectionUuid }

/-- The servlet of `Http_request_to_box`; `boxConn` is the connection it picks, and
`waitForResponse` what comes of a request on it. -/
def httpRequestToBox (boxConn : Option Uuid)
    (waitForResponse : HttpRequest → Except Common.Exception HttpResponse) (connectionUuid : Uuid)
    (req : HttpRequestToBox) : Except Common.Exception HttpResponseFromBox :=
  match boxConn with
  | none => .error (.protocol errorBoxConnectionLost "Connection to box server was lost")
  | some boxUuid => do
    let boxResp ← waitForResponse (httpRequest connectionUuid req)
    return { boxResp with boxUuid := boxUuid }

end Foyer

/-! ## The gate -/

namespace Gate

/-- What a request for the box is made from, besides the request of the client. -/
structure Authenticated where
  clientUuid : Uuid
  clientIp : Bytes
  authToken : Bytes
  decodedUri : Bytes
deriving DecidableEq

/-- The request for the foyer server. -/
def httpRequestToBox (session : Authenticated) (reqHeaders : RequestHeaders M) (reqEntity : Bytes) :
    HttpRequestToBox where
  clientUuid := session.clientUuid
  clientIp := session.clientIp
  authToken := session.authToken
  verb := reqHeaders.verb
  decodedUri := session.decodedUri
  params := keyValuesOf reqHeaders.getParams
  headers := keyValuesOf reqHeaders.headers
  entity := if reqHeaders.verb = .put ∨ reqHeaders.verb = .post then reqEntity else []

variable (P : HttpLibrary M)

/-- The headers the gate sets in every response. -/
def setCommonHeaders (keepAlive : Bool) (headers : M.Map) : M.Map :=
  let headers := M.set headers (asciiBytes "Connection")
    (if keepAlive then asciiBytes "Keep-Alive" else asciiBytes "Close")
  let headers := M.set headers (asciiBytes "Access-Control-Allow-Origin") (asciiBytes "*")
  M.set headers (asciiBytes "Access-Control-Allow-Headers")
    (asciiBytes "Authorization, Content-Type")

/-- The type of the contents is guessed if there are any and no type is given. -/
def setContentType (entity : Bytes) (headers : M.Map) : M.Map :=
  if entity ≠ [] ∧ M.has headers (asciiBytes "Content-Type") = false then
    M.set headers (asciiBytes "Content-Type") (P.guessMimeType entity)
  else headers

/-- The contents are compressed if there are any and no encoding is given. -/
def compress (encodingPreferred : ContentEncoding) (headers : M.Map) (entity : Bytes) :
    M.Map × Bytes :=
  if entity = [] ∨ M.has headers (asciiBytes "Content-Encoding") = true then (headers, entity)
  else match encodingPreferred with
    | .gzip =>
      (M.set headers (asciiBytes "Content-Encoding") (asciiBytes "gzip"), P.deflate true entity)
    | .deflate =>
      (M.set headers (asciiBytes "Content-Encoding") (asciiBytes "deflate"), P.deflate false entity)
    | .identity | .notAcceptable => (headers, entity)

/-- The headers and the entity before a default response is considered. -/
def fillIn (keepAlive : Bool) (encodingPreferred : ContentEncoding) (headers : M.Map)
    (entity : Bytes) : M.Map × Bytes :=
  compress P encodingPreferred (setContentType P entity (setCommonHeaders keepAlive headers)) entity

/-- A 4xx or 5xx response without an entity gets a default one. -/
def orDefault (statusCode : ℕ) (filled : M.Map × Bytes) : ResponseHeaders M × Bytes :=
  if 4 ≤ statusCode / 100 ∧ filled.2 = [] then P.makeDefaultResponse statusCode filled.1
  else (⟨10001, statusCode, P.statusCodeDesc statusCode, filled.1⟩, filled.2)

/-- What is left of a request once its parameters and headers were moved to the foyer request. -/
def RequestHeaders.moved (reqHeaders : RequestHeaders M) : RequestHeaders M :=
  { reqHeaders with
    getParams := P.movedFrom reqHeaders.getParams
    headers := P.movedFrom reqHeaders.headers }

/-- The response before a default one is considered, from the response of the foyer server. -/
def prepare (encodingPreferred : ContentEncoding) (reqHeaders : RequestHeaders M)
    (foyerResp : HttpResponseFromBox) (statusCode : ℕ) : M.Map × Bytes :=
  let headers := M.setAll (foyerResp.headers.map fun o => (o.key, o.value)) M.empty
  let entity := if reqHeaders.verb = .head then [] else foyerResp.entity
  let keepAlive := P.isKeepAliveEnabled (RequestHeaders.moved P reqHeaders) && statusCode / 100 ≤ 3
  fillIn P keepAlive encodingPreferred headers entity

/-- `on_sync_request`, from the response of the foyer server to the call of `send`. -/
def respond (encodingPreferred : ContentEncoding) (reqHeaders : RequestHeaders M)
    (foyerResp : HttpResponseFromBox) : Except (HttpException M) (ResponseHeaders M × Bytes) :=
  match P.statusCodeOf foyerResp.statusCode with
  | .error what => .error (.std what)
  | .ok statusCode =>
    .ok (orDefault P statusCode (prepare P encodingPreferred reqHeaders foyerResp statusCode))

end Gate

end Circe
