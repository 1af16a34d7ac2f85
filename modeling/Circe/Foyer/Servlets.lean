import Circe.Foyer.Relay
import Circe.Foyer.Broadcast
import Circe.Websocket.Lifecycle

/-!
# Foyer/Servlets — the servlets that pass requests on

The messages of the four servlets of a foyer server that pass requests on, and the servlets.  Two
pick any box, the others the box or the gate that the request names.
-/

namespace Circe

open Common

/-! ## The messages -/

namespace Protocol

/-- `Foyer::Websocket_packed_message_request_to_box`. -/
structure WebsocketPackedMessageRequestToBox where
  boxUuid : Uuid
  clientUuid : Uuid
  messages : List CommonWebsocketFrame
deriving DecidableEq

/-- `Foyer::Websocket_packed_message_request_to_gate`. -/
structure WebsocketPackedMessageRequestToGate where
  gateUuid : Uuid
  clientUuid : Uuid
  messages : List CommonWebsocketFrame
deriving DecidableEq

/-- `Box::Websocket_packed_message_request`. -/
structure BoxWebsocketPackedMessageRequest where
  gateUuid : Uuid
  clientUuid : Uuid
  messages : List CommonWebsocketFrame
deriving DecidableEq

/-- `Gate::Websocket_packed_message_request`. -/
structure GateWebsocketPackedMessageRequest where
  clientUuid : Uuid
  messages : List CommonWebsocketFrame
deriving DecidableEq

end Protocol

open Protocol

namespace Foyer

/-- The formats of the messages, each generated from the `MESSAGE_FIELDS` of its own. -/
structure Fields where
  ofHttpRequestToBox : MessageFormat HttpRequestToBox
  ofHttpResponseFromBox : MessageFormat HttpResponseFromBox
  ofWebsocketEstablishmentRequestToBox : MessageFormat WebsocketEstablishmentRequestToBox
  ofWebsocketEstablishmentResponseFromBox : MessageFormat Uuid
  ofWebsocketPackedMessageRequestToBox : MessageFormat WebsocketPackedMessageRequestToBox
  ofWebsocketPackedMessageResponseFromBox : MessageFormat Unit
  ofWebsocketPackedMessageRequestToGate : MessageFormat WebsocketPackedMessageRequestToGate
  ofWebsocketPackedMessageResponseFromGate : MessageFormat Unit
  ofBoxHttpRequest : MessageFormat HttpRequest
  ofBoxHttpResponse : MessageFormat HttpResponse
  ofBoxWebsocketEstablishmentRequest : MessageFormat WebsocketEstablishmentRequest
  ofBoxWebsocketEstablishmentResponse : MessageFormat Unit
  ofBoxWebsocketPackedMessageRequest : MessageFormat BoxWebsocketPackedMessageRequest
  ofBoxWebsocketPackedMessageResponse : MessageFormat Unit
  ofGateWebsocketPackedMessageRequest : MessageFormat GateWebsocketPackedMessageRequest
  ofGateWebsocketPackedMessageResponse : MessageFormat Unit

namespace Fields

variable (F : Fields)

def httpRequestToBox : MessageClass HttpRequestToBox := ⟨F.ofHttpRequestToBox, 1201, by decide⟩

def httpResponseFromBox : MessageClass HttpResponseFromBox :=
  ⟨F.ofHttpResponseFromBox, 1202, by decide⟩

def websocketEstablishmentRequestToBox : MessageClass WebsocketEstablishmentRequestToBox :=
  ⟨F.ofWebsocketEstablishmentRequestToBox, 1203, by decide⟩

def websocketEstablishmentResponseFromBox : MessageClass Uuid :=
  ⟨F.ofWebsocketEstablishmentResponseFromBox, 1204, by decide⟩

def websocketPackedMessageRequestToBox : MessageClass WebsocketPackedMessageRequestToBox :=
  ⟨F.ofWebsocketPackedMessageRequestToBox, 1208, by decide⟩

def websocketPackedMessageResponseFromBox : MessageClass Unit :=
  ⟨F.ofWebsocketPackedMessageResponseFromBox, 1209, by decide⟩

def websocketPackedMessageRequestToGate : MessageClass WebsocketPackedMessageRequestToGate :=
  ⟨F.ofWebsocketPackedMessageRequestToGate, 1210, by decide⟩

def websocketPackedMessageResponseFromGate : MessageClass Unit :=
  ⟨F.ofWebsocketPackedMessageResponseFromGate, 1211, by decide⟩

def boxHttpRequest : MessageClass HttpRequest := ⟨F.ofBoxHttpRequest, 1901, by decide⟩

def boxHttpResponse : MessageClass HttpResponse := ⟨F.ofBoxHttpResponse, 1902, by decide⟩

def boxWebsocketEstablishmentRequest : MessageClass WebsocketEstablishmentRequest :=
  ⟨F.ofBoxWebsocketEstablishmentRequest, 1903, by decide⟩

def boxWebsocketEstablishmentResponse : MessageClass Unit :=
  ⟨F.ofBoxWebsocketEstablishmentResponse, 1904, by decide⟩

def boxWebsocketPackedMessageRequest : MessageClass BoxWebsocketPackedMessageRequest :=
  ⟨F.ofBoxWebsocketPackedMessageRequest, 1906, by decide⟩

def boxWebsocketPackedMessageResponse : MessageClass Unit :=
  ⟨F.ofBoxWebsocketPackedMessageResponse, 1907, by decide⟩

def gateWebsocketPackedMessageRequest : MessageClass GateWebsocketPackedMessageRequest :=
  ⟨F.ofGateWebsocketPackedMessageRequest, 1103, by decide⟩

def gateWebsocketPackedMessageResponse : MessageClass Unit :=
  ⟨F.ofGateWebsocketPackedMessageResponse, 1104, by decide⟩

end Fields

/-! ## The servlets -/

def boxConnectionLost : Exception :=
  .protocol errorBoxConnectionLost "Connection to box server was lost"

def gateConnectionLost : Exception :=
  .protocol errorGateConnectionLost "The gate server specified was not found"

variable (F : Fields)

/-- `Http_request_to_box`. -/
def httpRequestToBoxServlet : RelayServlet where
  req := F.httpRequestToBox
  nextReq := F.boxHttpRequest
  nextResp := F.boxHttpResponse
  resp := F.httpResponseFromBox
  via := .client
  picks _ _ := true
  lost := boxConnectionLost
  request connectionUuid req := connectionUuid.map fun gateUuid => httpRequest gateUuid req
  response connectionUuid resp := connectionUuid.map fun boxUuid => { resp with boxUuid }

/-- `Websocket_establishment_request_to_box`. -/
def websocketEstablishmentRequestToBoxServlet : RelayServlet where
  req := F.websocketEstablishmentRequestToBox
  nextReq := F.boxWebsocketEstablishmentRequest
  nextResp := F.boxWebsocketEstablishmentResponse
  resp := F.websocketEstablishmentResponseFromBox
  via := .client
  picks _ _ := true
  lost := boxConnectionLost
  request connectionUuid req := connectionUuid.map fun gateUuid =>
    ⟨gateUuid, req.clientUuid, req.clientIp, req.authToken, req.decodedUri, req.params⟩
  response connectionUuid _ := connectionUuid

/-- `Websocket_packed_message_request_to_box`. -/
def websocketPackedMessageRequestToBoxServlet : RelayServlet where
  req := F.websocketPackedMessageRequestToBox
  nextReq := F.boxWebsocketPackedMessageRequest
  nextResp := F.boxWebsocketPackedMessageResponse
  resp := F.websocketPackedMessageResponseFromBox
  via := .client
  picks req connectionUuid := connectionUuid = req.boxUuid
  lost := boxConnectionLost
  request connectionUuid req := connectionUuid.map fun gateUuid =>
    ⟨gateUuid, req.clientUuid, req.messages⟩
  response _ _ := .ok ()

/-- `Websocket_packed_message_request_to_gate`. -/
def websocketPackedMessageRequestToGateServlet : RelayServlet where
  req := F.websocketPackedMessageRequestToGate
  nextReq := F.gateWebsocketPackedMessageRequest
  nextResp := F.gateWebsocketPackedMessageResponse
  resp := F.websocketPackedMessageResponseFromGate
  via := .server
  picks req connectionUuid := connectionUuid = req.gateUuid
  lost := gateConnectionLost
  request _ req := .ok ⟨req.clientUuid, req.messages⟩
  response _ _ := .ok ()

/-- The servlets that pass requests on, by `MESSAGE_ID`. -/
def relayServlets : UInt16 → Option RelayServlet
  | 1201 => some (httpRequestToBoxServlet F)
  | 1203 => some (websocketEstablishmentRequestToBoxServlet F)
  | 1208 => some (websocketPackedMessageRequestToBoxServlet F)
  | 1210 => some (websocketPackedMessageRequestToGateServlet F)
  | _ => none

end Foyer

end Circe
