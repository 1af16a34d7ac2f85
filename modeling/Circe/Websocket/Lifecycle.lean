import Circe.Box.Closure
import Circe.Foundations.Tally
import Circe.Gate.ClientSessions

/-!
# Websocket/Lifecycle — from the establishment of a WebSocket session to its closure

A client's session on a gate is established at a box, over a foyer server that picks the box; it
keeps the connection to the foyer server and the UUID of the box, and its destructor has the box
told about the closure over them.  What is on its way may be lost or overtaken, a box may be working
for any number of clients, and its sessions may be removed by anything else.

* `closureReasonOf_frame` — a closure frame says what was put into it;
* `ownStep_handle` — what a box does by itself to the sessions of a client.
-/

namespace Circe

/-! ## Closure frames -/

namespace Gate

open Websocket

def statusNormalClosure : ℕ := 1000
def statusInacceptable : ℕ := 1003
def statusReservedAbnormal : ℕ := 1006

def opcodeClose : ℕ := 8

/-- The part of `on_sync_control_message` that reads a closure frame: 125 bytes of it at most. -/
def closureReasonOf (payload : Bytes) : ℕ × Bytes :=
  match payload.take 125 with
  | [] => (statusNormalClosure, [])
  | [_] => (statusInacceptable, asciiBytes "No enough bytes in WebSocket closure frame")
  | high :: low :: reason => (high.toNat * 256 + low.toNat, reason)

/-- **A closure frame says what was put into it.** -/
theorem closureReasonOf_frame (statusCode : ℕ) (hcode : statusCode < 65536) (reason : Bytes)
    (hreason : reason.length ≤ 123) :
    closureReasonOf (UInt8.ofNat (statusCode / 256) :: UInt8.ofNat (statusCode % 256) :: reason)
      = (statusCode, reason) := by
  have htake : (UInt8.ofNat (statusCode / 256) :: UInt8.ofNat (statusCode % 256) :: reason).take 125
      = UInt8.ofNat (statusCode / 256) :: UInt8.ofNat (statusCode % 256) :: reason :=
    List.take_of_length_le (by simp only [List.length_cons]; omega)
  rw [closureReasonOf, htake]
  have hhigh : statusCode / 256 % 2 ^ 8 = statusCode / 256 := Nat.mod_eq_of_lt (by omega)
  have hlow : statusCode % 256 % 2 ^ 8 = statusCode % 256 := Nat.mod_eq_of_lt (by omega)
  simp only [UInt8.toNat_ofNat', hhigh, hlow, Nat.div_add_mod']

end Gate

/-! ## The messages and the foyer server -/

namespace Protocol

/-- `Box::Websocket_establishment_request`. -/
structure WebsocketEstablishmentRequest where
  gateUuid : Uuid
  clientUuid : Uuid
  clientIp : Bytes
  authToken : Bytes
  decodedUri : Bytes
  params : List Common.CommonKeyValue
deriving DecidableEq

/-- `Foyer::Websocket_closure_notification_to_box`. -/
structure WebsocketClosureNotificationToBox where
  boxUuid : Uuid
  clientUuid : Uuid
  statusCode : ℕ
  reason : Bytes
deriving DecidableEq

/-- `Box::Websocket_closure_notification`. -/
structure WebsocketClosureNotification where
  gateUuid : Uuid
  clientUuid : Uuid
  statusCode : ℕ
  reason : Bytes
deriving DecidableEq

end Protocol

namespace Foyer

open Protocol

/-- What the servlet of `Websocket_establishment_request_to_box` sends the box it has picked. -/
def websocketEstablishmentRequest (connectionUuid : Uuid)
    (req : WebsocketEstablishmentRequestToBox) : WebsocketEstablishmentRequest where
  gateUuid := connectionUuid
  clientUuid := req.clientUuid
  clientIp := req.clientIp
  authToken := req.authToken
  decodedUri := req.decodedUri
  params := req.params

/-- What that of `Websocket_closure_notification_to_box` sends the box. -/
def websocketClosureNotification (connectionUuid : Uuid)
    (ntfy : WebsocketClosureNotificationToBox) : WebsocketClosureNotification where
  gateUuid := connectionUuid
  clientUuid := ntfy.clientUuid
  statusCode := ntfy.statusCode
  reason := ntfy.reason

end Foyer

/-- What a box does by itself, or is told by others. -/
def Box.ShadowEvent.isOwn : Box.ShadowEvent → Bool
  | .websocketEstablishmentRequest .. | .websocketClosureNotification .. => false
  | _ => true

namespace Websocket

open Protocol Gate Box

/-- A message on its way, on a connection with this UUID. -/
inductive Packet
  | establishmentRequestToBox (gateUuid : Uuid) (req : WebsocketEstablishmentRequestToBox)
  | establishmentRequest (boxUuid : Uuid) (req : WebsocketEstablishmentRequest)
  /-- A response says which request it is one to; here, by its client. -/
  | establishmentResponse (boxUuid clientUuid : Uuid)
  | establishmentResponseFromBox (clientUuid boxUuid : Uuid)
  | closureNotificationToBox (gateUuid : Uuid) (ntfy : WebsocketClosureNotificationToBox)
  | closureNotification (boxUuid : Uuid) (ntfy : WebsocketClosureNotification)
deriving DecidableEq

/-- What the foyer server makes of a message; `boxUuid` is the box it picks, and `boxConn` says that
a connection to the box is there. -/
def Packet.throughFoyer (boxUuid : Uuid) (boxConn : Bool) : Packet → Option Packet
  | establishmentRequestToBox gateUuid req =>
    if boxConn then
      some (.establishmentRequest boxUuid (Foyer.websocketEstablishmentRequest gateUuid req))
    else none
  | establishmentResponse boxUuid clientUuid =>
    some (.establishmentResponseFromBox clientUuid boxUuid)
  | closureNotificationToBox gateUuid ntfy =>
    if boxConn then
      some (.closureNotification ntfy.boxUuid (Foyer.websocketClosureNotification gateUuid ntfy))
    else none
  | _ => none

def Packet.isForFoyer : Packet → Bool
  | establishmentRequestToBox .. | establishmentResponse .. | closureNotificationToBox .. => true
  | _ => false

/-! ## The sessions of a gate -/

/-- How far `sync_authenticate` got with the foyer server. -/
inductive Establishment
  | authenticating
  | establishing (gateUuid : Uuid)
  /-- `m_weak_foyer_conn` and `m_box_uuid` are set. -/
  | established (gateUuid boxUuid : Uuid)
  | failed
deriving DecidableEq

namespace Establishment

/-- The response is being waited for. -/
def waits : Establishment → Bool
  | establishing _ => true
  | _ => false

/-- `sync_authenticate` has not returned. -/
def isGoing : Establishment → Bool
  | authenticating | establishing _ => true
  | _ => false

end Establishment

/-- `Client_websocket_session`. -/
structure WebsocketClient where
  clientUuid : Uuid
  clientIp : Bytes
  establishment : Establishment
  closureReason : Option (ℕ × Bytes)
  destroyed : Bool
deriving DecidableEq

namespace WebsocketClient

def new (clientUuid : Uuid) (clientIp : Bytes) : WebsocketClient :=
  ⟨clientUuid, clientIp, .authenticating, none, false⟩

def onSyncControlMessage (client : WebsocketClient) (opcode : ℕ) (payload : Bytes) :
    WebsocketClient :=
  if opcode = opcodeClose then { client with closureReason := some (closureReasonOf payload) }
  else client

/-- What the foyer server is told in the end. -/
def closure (client : WebsocketClient) : ℕ × Bytes :=
  client.closureReason.getD (statusReservedAbnormal, asciiBytes "No closure frame received")

/-- `notify_foyer_about_closure`; `foyerConn` says that the connection is there and takes the
notification. -/
def notifyFoyerAboutClosure (client : WebsocketClient) (foyerConn : Bool) : Option Packet :=
  match client.establishment with
  | .established gateUuid boxUuid =>
    if foyerConn then
      some (.closureNotificationToBox gateUuid
        ⟨boxUuid, client.clientUuid, client.closure.1, client.closure.2⟩)
    else none
  | _ => none

/-- The response to the establishment request is there. -/
def onEstablished (client : WebsocketClient) (boxUuid : Uuid) : WebsocketClient :=
  match client.establishment with
  | .establishing gateUuid => { client with establishment := .established gateUuid boxUuid }
  | _ => client

end WebsocketClient

/-! ## The system -/

/-- The sessions of the gates, the boxes, and what is on its way. -/
structure Lifecycle where
  clients : List WebsocketClient
  packets : List Packet
  boxes : List Supervisor
deriving DecidableEq

inductive LifecycleEvent
  | accept (clientUuid : Uuid) (clientIp : Bytes)
  /-- An auth server gave a token: a foyer server is asked for a box. -/
  | authenticated (client : ℕ) (gateUuid : Uuid) (authToken decodedUri : Bytes)
    (params : List Common.CommonKeyValue)
  /-- `sync_authenticate` throws. -/
  | fail (client : ℕ)
  | controlMessage (client : ℕ) (opcode : ℕ) (payload : Bytes)
  | destroy (client : ℕ) (foyerConn : Bool)
  | lose (packet : ℕ)
  | foyer (packet : ℕ) (boxUuid : Uuid) (boxConn : Bool)
  /-- A message comes up at its box or its gate. -/
  | receive (packet : ℕ)
  /-- Anything else that a box does. -/
  | box (box : ℕ) (event : ShadowEvent)
deriving DecidableEq

/-- A message for a box makes an event there. -/
def Packet.event? : Packet → Option (Uuid × ShadowEvent)
  | establishmentRequest boxUuid req =>
    some (boxUuid, .websocketEstablishmentRequest boxUuid req.gateUuid req.clientUuid req.clientIp
      req.authToken)
  | closureNotification boxUuid ntfy =>
    some (boxUuid, .websocketClosureNotification ntfy.clientUuid ntfy.statusCode ntfy.reason)
  | _ => none

/-- The response a box sends when a servlet of `Websocket_establishment_request` ends. -/
def responseTo (x : Supervisor) : ShadowEvent → List Packet
  | .attachSession job _ =>
    match x.jobs[job]? with
    | some (.establishing session) => [.establishmentResponse session.foyerUuid session.clientUuid]
    | _ => []
  | _ => []

namespace Lifecycle

/-- Nobody is connected. -/
def start (boxes : ℕ) : Lifecycle := ⟨[], [], List.replicate boxes .start⟩

def setClient (x : Lifecycle) (i : ℕ) (client : WebsocketClient) : Lifecycle :=
  { x with clients := x.clients.set i client }

def send (x : Lifecycle) (packets : List Packet) : Lifecycle :=
  { x with packets := x.packets ++ packets }

def take (x : Lifecycle) (packet : ℕ) : Lifecycle :=
  { x with packets := x.packets.eraseIdx packet }

/-- A box does something; it may send a response. -/
def stepBox (x : Lifecycle) (k : ℕ) (event : ShadowEvent) : List ShadowEffect × Lifecycle :=
  match x.boxes[k]? with
  | none => ([], x)
  | some box =>
    let (effects, box') := box.handle event
    (effects, { x with
      packets := x.packets ++ responseTo box event
      boxes := x.boxes.set k box' })

/-- The gate whose client asked gets the response. -/
def respond (x : Lifecycle) (clientUuid boxUuid : Uuid) : Lifecycle :=
  { x with
    clients := x.clients.map fun client =>
      if client.clientUuid = clientUuid then client.onEstablished boxUuid else client }

variable (boxOf : Uuid → ℕ)

/-- The UUID of a client is a new one.  While `sync_authenticate` waits, the session is held. -/
def Enabled (x : Lifecycle) : LifecycleEvent → Prop
  | .accept clientUuid _ => clientUuid ∉ x.clients.map WebsocketClient.clientUuid
  | .authenticated i .. =>
    x.clients[i]?.any fun client =>
      client.establishment = .authenticating && !client.destroyed
  | .fail i => x.clients[i]?.any fun client => client.establishment.isGoing
  | .controlMessage i _ _ => x.clients[i]?.any fun client => !client.destroyed
  | .destroy i _ =>
    x.clients[i]?.any fun client => !client.destroyed && !client.establishment.waits
  | .lose p => p < x.packets.length
  | .foyer p _ _ => x.packets[p]?.any Packet.isForFoyer
  | .receive p => x.packets[p]?.any fun packet => !packet.isForFoyer
  | .box k event => k < x.boxes.length ∧ event.isOwn = true

/-- One event: what it did in a box, and the system afterwards. -/
def handle (x : Lifecycle) : LifecycleEvent → List ShadowEffect × Lifecycle
  | .accept clientUuid clientIp =>
    ([], { x with clients := x.clients ++ [.new clientUuid clientIp] })
  | .authenticated i gateUuid authToken decodedUri params =>
    match x.clients[i]? with
    | none => ([], x)
    | some client =>
      let req : WebsocketEstablishmentRequestToBox :=
        { clientUuid := client.clientUuid
          clientIp := client.clientIp
          authToken := authToken
          decodedUri := decodedUri
          params := params }
      ([], (x.setClient i { client with establishment := .establishing gateUuid }).send
        [.establishmentRequestToBox gateUuid req])
  | .fail i =>
    match x.clients[i]? with
    | none => ([], x)
    | some client => ([], x.setClient i { client with establishment := .failed })
  | .controlMessage i opcode payload =>
    match x.clients[i]? with
    | none => ([], x)
    | some client => ([], x.setClient i (client.onSyncControlMessage opcode payload))
  | .destroy i foyerConn =>
    match x.clients[i]? with
    | none => ([], x)
    | some client =>
      ([], (x.setClient i { client with destroyed := true }).send
        (client.notifyFoyerAboutClosure foyerConn).toList)
  | .lose p => ([], x.take p)
  | .foyer p boxUuid boxConn =>
    match x.packets[p]? with
    | none => ([], x)
    | some packet => ([], (x.take p).send (packet.throughFoyer boxUuid boxConn).toList)
  | .receive p =>
    match x.packets[p]? with
    | some (.establishmentResponseFromBox clientUuid boxUuid) =>
      ([], (x.take p).respond clientUuid boxUuid)
    | some packet =>
      match packet.event? with
      | none => ([], x)
      | some (boxUuid, event) => (x.take p).stepBox (boxOf boxUuid) event
    | none => ([], x)
  | .box k event => x.stepBox k event

instance (x : Lifecycle) : DecidablePred x.Enabled
  | .accept .. => inferInstanceAs (Decidable (_ ∉ _))
  | .authenticated .. | .fail _ | .controlMessage .. | .destroy .. | .foyer .. | .receive _ =>
    inferInstanceAs (Decidable (_ = true))
  | .lose _ => inferInstanceAs (Decidable (_ < _))
  | .box .. => inferInstanceAs (Decidable (_ ∧ _))

end Lifecycle

/-- An event and what it did in a box. -/
structure LifecycleLabel where
  event : LifecycleEvent
  effects : List ShadowEffect
deriving DecidableEq

namespace Lifecycle

def next (boxOf : Uuid → ℕ) (x : Lifecycle) (event : LifecycleEvent) :
    LifecycleLabel × Lifecycle :=
  let (effects, y) := x.handle boxOf event
  (⟨event, effects⟩, y)

/-- `boxOf` is the box at the other end of a connection. -/
def Step (boxOf : Uuid → ℕ) (x : Lifecycle) (l : LifecycleLabel) (y : Lifecycle) : Prop :=
  x.Enabled l.event ∧ x.handle boxOf l.event = (l.effects, y)

end Lifecycle

/-! ## What a box does to the sessions of a client -/

/-- A session of this client. -/
def isOf (clientUuid : Uuid) (s : ShadowSession) : Bool := s.clientUuid = clientUuid

/-- The establishment request of this client. -/
def Packet.requests (c : Uuid) : Packet → Bool
  | establishmentRequestToBox _ req => req.clientUuid = c
  | establishmentRequest _ req => req.clientUuid = c
  | _ => false

/-- The response to it. -/
def Packet.responds (c : Uuid) : Packet → Bool
  | establishmentResponse _ clientUuid => clientUuid = c
  | establishmentResponseFromBox clientUuid _ => clientUuid = c
  | _ => false

/-- What a response says: a client, and the box where its session is established. -/
def Packet.told? : Packet → Option (Uuid × Uuid)
  | establishmentResponse boxUuid clientUuid => some (clientUuid, boxUuid)
  | establishmentResponseFromBox clientUuid boxUuid => some (clientUuid, boxUuid)
  | _ => none

theorem Packet.responds_of_told {packet : Packet} {c boxUuid : Uuid}
    (h : packet.told? = some (c, boxUuid)) : packet.responds c = true := by
  cases packet <;> simp_all [told?, responds]

/-- What a closure notification on its way says, and to whom. -/
def Packet.closure? : Packet → Option (Uuid × Uuid × ℕ × Bytes)
  | closureNotificationToBox _ ntfy =>
    some (ntfy.boxUuid, ntfy.clientUuid, ntfy.statusCode, ntfy.reason)
  | closureNotification boxUuid ntfy =>
    some (boxUuid, ntfy.clientUuid, ntfy.statusCode, ntfy.reason)
  | _ => none

/-- Two packets that are the same to a client. -/
structure Packet.Like (packet packet' : Packet) : Prop where
  requests : ∀ c, packet'.requests c = packet.requests c
  responds : ∀ c, packet'.responds c = packet.responds c
  told? : packet'.told? = packet.told?
  closure? : packet'.closure? = packet.closure?

/-- What a job of `Websocket_closure_notification` reports. -/
def closing? : Job → Option (Uuid × ℕ × Bytes)
  | .closing session _ statusCode reason => some (session.clientUuid, statusCode, reason)
  | _ => none

section Boxes

variable {x y : Supervisor} {effects : List ShadowEffect} {event : ShadowEvent} {c : Uuid}

/-- **What a box does by itself** to the sessions that are to be attached, are attached, or are
being closed. -/
structure OwnStep (x : Supervisor) (event : ShadowEvent) (y : Supervisor) : Prop where
  pending : ∀ c, y.pending.countP (isOf c) + (responseTo x event).countP (Packet.responds c)
    ≤ x.pending.countP (isOf c)
  sessions : ∀ c, y.pending.countP (isOf c) + y.container.sessions.countP (isOf c)
    ≤ x.pending.countP (isOf c) + x.container.sessions.countP (isOf c)
  subset : y.pending ⊆ x.pending
  attached : ∀ s ∈ y.container.sessions, s ∈ x.container.sessions ∨
    s ∈ x.pending ∧ responseTo x event = [.establishmentResponse s.foyerUuid s.clientUuid]
  closing : ∀ job ∈ y.jobs, ∀ report ∈ closing? job, ∃ job' ∈ x.jobs, report ∈ closing? job'

/-- A servlet of `Websocket_establishment_request` ends. -/
theorem pending_setJob_done {i : ℕ} {session : ShadowSession}
    (hjob : x.jobs[i]? = some (.establishing session)) (c : Uuid) :
    ((x.setJob i .done).jobs.flatMap Job.establishing?).countP (isOf c) + [session].countP (isOf c)
      ≤ x.pending.countP (isOf c) := by
  have hcount (s : ShadowSession) :=
    Supervisor.count_flatMap_setJob Job.establishing? hjob .done s
  rw [← List.countP_append]
  refine Tally.countP_le_of_count_le _ fun s => ?_
  rw [List.count_append]
  exact (hcount s).le

theorem closing?_setJob {i : ℕ} {job' : Job}
    (hjob' : ∀ report ∈ closing? job', ∃ job ∈ x.jobs, report ∈ closing? job) :
    ∀ job ∈ (x.setJob i job').jobs, ∀ report ∈ closing? job,
      ∃ job' ∈ x.jobs, report ∈ closing? job' := by
  intro job hjob report hreport
  rcases Supervisor.mem_jobs_setJob hjob with hold | rfl
  · exact ⟨job, hold, hreport⟩
  · exact hjob' report hreport

/-- The closing jobs after a box did something by itself are those before. -/
theorem closing?_of_did (hdid : Supervisor.Did x event effects y) (hown : event.isOwn = true) :
    ∀ job ∈ y.jobs, ∀ report ∈ closing? job, ∃ job' ∈ x.jobs, report ∈ closing? job' := by
  have hsame : ∀ job ∈ x.jobs, ∀ report ∈ closing? job, ∃ job' ∈ x.jobs, report ∈ closing? job' :=
    fun job hjob report hreport => ⟨job, hjob, hreport⟩
  have hcheck (expired unchecked : List FoyerGate) :
      closing? (.check expired unchecked) = none := by
    rcases Job.check_cases expired unchecked with h | h | h <;> rw [h] <;> rfl
  have hsweep (expired left : List FoyerGate) (sessions : List ShadowSession) :
      closing? (.sweep expired left sessions) = none := by
    rw [Job.sweep]
    split <;> rfl
  cases hdid with
  | made | detached | unknown => cases hown
  | attached hjob | refused hjob => exact closing?_setJob (by simp [closing?])
  | collected =>
    intro job hjob report hreport
    rcases List.mem_append.mp hjob with hold | hnew
    · exact hsame job hold report hreport
    · rw [List.mem_singleton.mp hnew, hcheck] at hreport
      cases hreport
  | checked hjob => exact closing?_setJob (by simp [hcheck])
  | erased hjob | closedSweeping hjob => exact closing?_setJob (by simp [hsweep])
  | markedClosing hjob =>
    refine closing?_setJob fun report hreport => ?_
    exact ⟨_, List.mem_of_getElem? hjob, hreport⟩
  | markedSweeping hjob | closed hjob => exact closing?_setJob (by simp [closing?])
  | cleared | found | shut | misfit => exact hsame

/-- `attach_session` was called, or an exception was thrown before it. -/
theorem jobs_attachSession {i : ℕ} {session : ShadowSession}
    (hjob : x.jobs[i]? = some (.establishing session)) (thrown : Option SessionException) :
    (x.handle (.attachSession i thrown)).2.jobs = (x.setJob i .done).jobs := by
  have hshutdown (statusCode : ℕ) (reason : String) :
      ((x.setJob i .done).shutdown session statusCode reason).2.jobs = (x.setJob i .done).jobs := by
    obtain ⟨effects, shutdowns, heq, -⟩ := (x.setJob i .done).shutdown_eq session statusCode reason
    rw [heq]
  simp only [Supervisor.handle, hjob]
  cases thrown with
  | some e => exact hshutdown _ _
  | none =>
    dsimp only
    split
    · rfl
    · exact hshutdown _ _

/-- **A response is sent by the servlet that had the session.** -/
theorem pending_handle
    (hless : (x.handle event).2.pending.countP (isOf c) ≤ x.pending.countP (isOf c)) :
    (x.handle event).2.pending.countP (isOf c) + (responseTo x event).countP (Packet.responds c)
      ≤ x.pending.countP (isOf c) := by
  cases event with
  | attachSession i thrown =>
    simp only [responseTo]
    split
    case h_1 session hjob =>
      have hdone := pending_setJob_done hjob c
      rw [Supervisor.pending, jobs_attachSession hjob]
      simpa [Packet.responds, isOf, List.countP_cons] using hdone
    case h_2 => exact hless
  | _ => exact hless

/-- **Only `attach_session` attaches.** -/
theorem attached_handle {s : ShadowSession} (hs : s ∈ (x.handle event).2.container.sessions) :
    s ∈ x.container.sessions ∨
      s ∈ x.pending ∧ responseTo x event = [.establishmentResponse s.foyerUuid s.clientUuid] := by
  have hdid := x.did_handle event
  generalize (x.handle event).1 = effects at hdid
  generalize (x.handle event).2 = y at hdid hs
  cases hdid with
  | @attached i thrown session container hjob hinsert =>
    rcases List.mem_cons.mp ((SessionContainer.insert_perm hinsert).mem_iff.mp hs) with rfl | hold
    · have hpending : s ∈ x.pending :=
        List.mem_flatMap.mpr ⟨_, List.mem_of_getElem? hjob, List.mem_singleton_self _⟩
      exact .inr ⟨hpending, by simp only [responseTo, hjob]⟩
    · exact .inl hold
  | detached hfind =>
    have herase := SessionContainer.erase_perm (SessionContainer.mem_sessions_of_find hfind)
    exact .inl (herase.mem_iff.mpr (List.mem_cons_of_mem _ hs))
  | @erased i expired left it pair marked hjob hlast =>
    have herase := x.container.erasePair_perm pair
    exact .inl (herase.mem_iff.mpr (List.mem_append_right _ hs))
  | cleared hshuts => cases hs
  | _ => exact .inl hs

theorem ownStep_handle (hown : event.isOwn = true)
    (hmarked : ∀ job ∈ x.jobs, ∀ s ∈ job.marked, s ∈ x.shutdowns) :
    OwnStep x event (x.handle event).2 := by
  have hdid := x.did_handle event
  have hobjects : (x.handle event).2.objects = x.objects := by
    generalize (x.handle event).1 = effects at hdid
    generalize (x.handle event).2 = y at hdid
    cases hdid with
    | made => cases hown
    | _ => rfl
  have hmoved := hdid.moved hmarked hobjects
  have hpending : ∀ s, (x.handle event).2.pending.count s ≤ x.pending.count s := fun s =>
    (Nat.le_add_right _ _).trans (hmoved.pending s)
  refine ⟨fun c => pending_handle (Tally.countP_le_of_count_le _ hpending), fun c => ?_,
    fun s => Tally.mem_of_count_le (hpending s), fun s hs => attached_handle hs,
    closing?_of_did hdid hown⟩
  rw [← List.countP_append, ← List.countP_append]
  refine Tally.countP_le_of_count_le _ fun s => ?_
  have hpending := hmoved.pending s
  have hcontainer := hmoved.container s
  simp only [List.count_append]
  omega

end Boxes

end Websocket

end Circe
