import Circe.Common.Standing
import Circe.Common.MagicNumber
import Circe.Foundations.Lockstep

/-!
# Common/Transport — a connection as an encoder and a decoder of frames

What `deflate_and_send` sends and `inflate_and_dispatch` takes in, as one encoder and one decoder
(`Platform.encodeFrame`, `Platform.decodeFrame`): a user-defined frame goes through the filter, a
`Client_hello` goes as it is and reseeds the direction, a `Server_hello` goes as it is.  With a
filter that keeps in step they are a `Lockstep`.  `carried_handle` says what any event does to the
frames of a connection.
-/

namespace Circe.Common

/-- A magic number with a payload: magic on its way to be sent, encoded once it is sent. -/
abbrev Frame := UInt16 × Bytes

namespace Platform

variable {Φ : Type} (P : Platform Φ)

/-- The seed that the payload of a `Client_hello` agrees on. -/
def helloSeed (applicationKey encodedPayload : Bytes) : Sha256 :=
  match P.clientHello.deserialize encodedPayload with
  | .ok (msg, _) =>
    P.calculateChecksum applicationKey saltNormalData msg.connectionUuid msg.timestamp
  | .error _ => P.calculateChecksum applicationKey saltNormalData 0 0

def encodeFrame (applicationKey : Bytes) (filter : Φ) (message : Frame) : Option (Frame × Φ) :=
  if message.1 = ClientHello.id then
    some (message, P.filter.reseedEncoderPrng filter (P.helloSeed applicationKey message.2))
  else if message.1 = ServerHello.id then some (message, filter)
  else
    match P.filter.encode filter message.2 with
    | (.ok encodedPayload, filter) => some ((message.1, encodedPayload), filter)
    | (.error _, _) => none

def decodeFrame (applicationKey : Bytes) (filter : Φ) (frame : Frame) : Option (Frame × Φ) :=
  if frame.1 = ClientHello.id then
    some (frame, P.filter.reseedDecoderPrng filter (P.helloSeed applicationKey frame.2))
  else if frame.1 = ServerHello.id then some (frame, filter)
  else
    match P.filter.decode filter frame.2 with
    | (.ok magicPayload, filter) => some ((frame.1, magicPayload), filter)
    | (.error _, _) => none

/-- **Frames in lockstep**, for a filter that keeps in step. -/
def lockstep (applicationKey : Bytes) {InStep : Φ → Φ → Prop} (h : P.filter.KeepsInStep InStep) :
    Lockstep Φ Φ Frame Frame where
  encode := P.encodeFrame applicationKey
  decode := P.decodeFrame applicationKey
  InStep := InStep
  Idle s s' := (∃ encodedPayload, s' = (P.filter.decode s encodedPayload).2) ∨
    ∃ seed, s' = P.filter.reseedDecoderPrng s seed
  IdleReceiver r r' := (∃ magicPayload, r' = (P.filter.encode r magicPayload).2) ∨
    ∃ seed, r' = P.filter.reseedEncoderPrng r seed
  decode_of_encode := by
    intro s s' r message frame hstep hencode
    rw [encodeFrame] at hencode
    split at hencode
    case isTrue hclient =>
      cases hencode
      exact ⟨_, by rw [decodeFrame, if_pos hclient], h.reseed _ hstep⟩
    case isFalse hclient =>
      split at hencode
      case isTrue hserver =>
        cases hencode
        exact ⟨_, by rw [decodeFrame, if_neg hclient, if_pos hserver], hstep⟩
      case isFalse hserver =>
        split at hencode
        case h_2 => cases hencode
        case h_1 encodedPayload filter hfilter =>
          cases hencode
          obtain ⟨r', hdecode, hstep'⟩ := h.decode_of_encode hstep hfilter
          refine ⟨r', ?_, hstep'⟩
          simp only [decodeFrame, if_neg hclient, if_neg hserver, hdecode]
  inStep_idle := by
    rintro s s' r hstep (⟨encodedPayload, rfl⟩ | ⟨seed, rfl⟩)
    · exact h.sender_decode encodedPayload hstep
    · exact h.sender_reseed seed hstep
  inStep_idleReceiver := by
    rintro s r r' hstep (⟨magicPayload, rfl⟩ | ⟨seed, rfl⟩)
    · exact h.receiver_encode magicPayload hstep
    · exact h.receiver_reseed seed hstep

variable {P} {applicationKey : Bytes} {InStep : Φ → Φ → Prop} {h : P.filter.KeepsInStep InStep}

/-- Taking a frame in is idling for the direction out. -/
theorem idle_of_decodeFrame {filter filter' : Φ} {frame message : Frame}
    (hdecode : P.decodeFrame applicationKey filter frame = some (message, filter')) :
    filter' = filter ∨ (P.lockstep applicationKey h).Idle filter filter' := by
  rw [decodeFrame] at hdecode
  split at hdecode
  case isTrue =>
    cases hdecode
    exact .inr (.inr ⟨_, rfl⟩)
  case isFalse =>
    split at hdecode
    case isTrue =>
      cases hdecode
      exact .inl rfl
    case isFalse =>
      split at hdecode
      case h_2 => cases hdecode
      case h_1 magicPayload filter hfilter =>
        cases hdecode
        exact .inr (.inl ⟨frame.2, by rw [hfilter]⟩)

/-- Sending a frame is idling for the direction in. -/
theorem idleReceiver_of_encodeFrame {filter filter' : Φ} {frame message : Frame}
    (hencode : P.encodeFrame applicationKey filter message = some (frame, filter')) :
    filter' = filter ∨ (P.lockstep applicationKey h).IdleReceiver filter filter' := by
  rw [encodeFrame] at hencode
  split at hencode
  case isTrue =>
    cases hencode
    exact .inr (.inr ⟨_, rfl⟩)
  case isFalse =>
    split at hencode
    case isTrue =>
      cases hencode
      exact .inl rfl
    case isFalse =>
      split at hencode
      case h_2 => cases hencode
      case h_1 encodedPayload filter hfilter =>
        cases hencode
        exact .inr (.inl ⟨message.2, by rw [hfilter]⟩)

end Platform

/-! ## The frames of a connection -/

/-- What was sent: each message with the frame it became. -/
def sends (effects : List Effect) : List (Frame × Frame) :=
  effects.filterMap fun
    | .sent magicNumber magicPayload encodedPayload =>
      some ((magicNumber, magicPayload), (magicNumber, encodedPayload))
    | _ => none

/-- The messages read from frames. -/
def receives (effects : List Effect) : List Frame :=
  effects.filterMap fun
    | .received magicNumber _ magicPayload => some (magicNumber, magicPayload)
    | _ => none

section Launches

variable {Φ : Type} (P : Platform Φ)

/-- The response that a job launches. -/
def responseOf (job : RequestMessageJob) (resp : InterserverResponse) : Option Frame :=
  if job.sendResponse && (resp.messageId = 0 || isMessageIdValid resp.messageId) then
    let hdr := P.userResponseHeader.serialize ⟨job.serial, resp.errCode, resp.errMsg⟩
    some (resp.messageId.toUInt16 ||| magicFlagIsResponse,
      if resp.messageId = 0 then hdr else hdr ++ resp.payload)
  else none

/-- The request that a message becomes. -/
def requestOf (serial : UInt64) (msg : Message) : Frame :=
  (msg.id.toUInt16 ||| magicFlagWantsResponse,
    P.userRequestHeader.serialize ⟨serial⟩ ++ msg.payload)

/-- The user-defined messages that effects launch. -/
def launches (effects : List Effect) : List Frame :=
  effects.flatMap fun
    | .requested serial _ msg => [requestOf P serial msg]
    | .notified msg => [(msg.id.toUInt16, msg.payload)]
    | .ran job resp => (responseOf P job resp).toList
    | _ => []

end Launches

/-- A request or notification that goes out has a valid id. -/
def Effect.Valid : Effect → Prop
  | .requested _ _ msg | .notified msg => isMessageIdValid msg.id = true
  | _ => True

namespace InterserverConnection

variable {Φ σ : Type}

/-- The frames that the workhorse thread still has to take in. -/
def incoming (c : InterserverConnection Φ) : List Frame :=
  c.workhorse.filterMap fun
    | .inflateAndDispatch magicNumber encodedPayload => some (magicNumber, encodedPayload)
    | .deflateAndSend .. => none

@[simp] theorem incoming_launchDeflateAndSend (c : InterserverConnection Φ) (magicNumber : UInt16)
    (magicPayload : Bytes) :
    (c.launchDeflateAndSend magicNumber magicPayload).incoming = c.incoming := by
  simp [incoming, launchDeflateAndSend]

@[simp] theorem incoming_keepHello (P : Platform Φ) (connectionUuid : Uuid) (timestamp : UInt64)
    (optionsResp : OptionMap) (c : InterserverConnection Φ) :
    (c.keepHello P connectionUuid timestamp optionsResp).incoming = c.incoming :=
  incoming_launchDeflateAndSend c _ _

@[simp] theorem incoming_shutdownIfThrown (result : Except Exception Unit)
    (c : InterserverConnection Φ) : (shutdownIfThrown result c).incoming = c.incoming := by
  cases result <;> rfl

variable (P : Platform Φ) (post : Uuid → σ → Except Exception Unit × σ)

@[simp] theorem requireMessageFilter_shutdownIfThrown (result : Except Exception Unit)
    (c : InterserverConnection Φ) :
    (shutdownIfThrown result c).requireMessageFilter P = c.requireMessageFilter P := by
  cases result <;> rfl

@[simp] theorem incoming_dispatch (magicNumber : UInt16) (magicPayload : Bytes)
    (c : InterserverConnection Φ) :
    (c.dispatch P magicNumber magicPayload).2.1.incoming = c.incoming := by
  rw [dispatch]
  repeat' split
  all_goals rfl

@[simp] theorem requireMessageFilter_dispatch (magicNumber : UInt16) (magicPayload : Bytes)
    (c : InterserverConnection Φ) :
    (c.dispatch P magicNumber magicPayload).2.1.requireMessageFilter P
      = c.requireMessageFilter P := by
  rw [dispatch]
  repeat' split
  all_goals rfl

theorem sends_dispatch (magicNumber : UInt16) (magicPayload : Bytes)
    (c : InterserverConnection Φ) :
    sends (c.dispatch P magicNumber magicPayload).2.2 = [] ∧
      receives (c.dispatch P magicNumber magicPayload).2.2 = [] := by
  simp only [dispatch]
  repeat' split
  all_goals first | exact ⟨rfl, rfl⟩ | skip
  rename_i hdr payload hread
  cases (c.promises.take hdr.serial).1 <;> exact ⟨rfl, rfl⟩

/-- The messages that the workhorse thread still has to send. -/
def outgoing (c : InterserverConnection Φ) : List Frame :=
  c.workhorse.filterMap fun
    | .deflateAndSend magicNumber magicPayload => some (magicNumber, magicPayload)
    | .inflateAndDispatch .. => none

/-- A `Client_hello` waiting to be sent is the one whose seed the connection holds. -/
def HelloReady (c : InterserverConnection Φ) : Prop :=
  ∀ message ∈ c.outgoing, message.1 = ClientHello.id → c.isConnectionUuidSet = true ∧
    P.helloSeed c.applicationKey message.2 = c.normalDataSeed P

/-- **What an event does to the frames of a connection.** -/
inductive Carried (c : InterserverConnection Φ) (effects : List Effect)
    (c' : InterserverConnection Φ) : Prop
  /-- No frame came in or went out. -/
  | quiet (hsends : sends effects = []) (hreceives : receives effects = [])
      (hincoming : c'.incoming = c.incoming)
      (hfilter : c'.hasBeenShutdown = false →
        c'.requireMessageFilter P = c.requireMessageFilter P)
  /-- A frame was left aside, by a connection that is shut down now. -/
  | dropped (frame : Frame) (hsends : sends effects = []) (hreceives : receives effects = [])
      (hincoming : c.incoming = frame :: c'.incoming) (hdown : c'.hasBeenShutdown = true)
      (hunread : c.hasBeenShutdown = false → isUser frame.1 = true →
        P.decodeFrame c.applicationKey (c.requireMessageFilter P) frame = none)
  /-- A frame was read. -/
  | received (frame message : Frame) (filter : Φ) (hsends : sends effects = [])
      (hreceives : receives effects = [message]) (hincoming : c.incoming = frame :: c'.incoming)
      (hup : c.hasBeenShutdown = false)
      (hdecode : P.decodeFrame c.applicationKey (c.requireMessageFilter P) frame
        = some (message, filter))
      (hfilter : c'.hasBeenShutdown = false → c'.requireMessageFilter P = filter)
  /-- A message was sent. -/
  | sent (message frame : Frame) (hsends : sends effects = [(message, frame)])
      (hreceives : receives effects = []) (hincoming : c'.incoming = c.incoming)
      (hup : c.hasBeenShutdown = false)
      (hencode : P.encodeFrame c.applicationKey (c.requireMessageFilter P) message
        = some (frame, c'.requireMessageFilter P))

variable {P post}

/-- Sending, `c` being the connection without the job it does. -/
theorem carried_deflateAndSend {c : InterserverConnection Φ} {magicNumber : UInt16}
    {magicPayload : Bytes}
    (hready : magicNumber = ClientHello.id →
      P.helloSeed c.applicationKey magicPayload = c.normalDataSeed P) :
    Carried P c (c.deflateAndSend P magicNumber magicPayload).1
      (c.deflateAndSend P magicNumber magicPayload).2 := by
  rw [deflateAndSend]
  split
  case isTrue hdown => exact .quiet rfl rfl rfl fun _ => rfl
  case isFalse hdown =>
    have hup : c.hasBeenShutdown = false := by simpa using hdown
    have hhalted (e : Exception) (c' : InterserverConnection Φ) (hc' : c'.incoming = c.incoming) :
        Carried P c [] (shutdownIfThrown (.error e) c') :=
      .quiet rfl rfl hc' fun h => absurd (h.symm.trans (hasBeenShutdown_of_error e c')) (by decide)
    by_cases hclient : magicNumber = ClientHello.id
    · rw [tryDeflateAndSend, if_pos hclient]
      cases c.isConnectionUuidSet with
      | false => exact hhalted _ c rfl
      | true =>
        refine .sent (magicNumber, magicPayload) (magicNumber, magicPayload) rfl rfl rfl hup ?_
        rw [Platform.encodeFrame, if_pos hclient, hready hclient]
        rfl
    by_cases hserver : magicNumber = ServerHello.id
    · rw [tryDeflateAndSend, if_neg hclient, if_pos hserver]
      cases c.isConnectionUuidSet with
      | false => exact hhalted _ c rfl
      | true =>
        refine .sent (magicNumber, magicPayload) (magicNumber, magicPayload) rfl rfl rfl hup ?_
        rw [Platform.encodeFrame, if_neg hclient, if_pos hserver]
        rfl
    cases hflags : hasNoneFlagsOf magicNumber (magicFlagPredefined ||| magicFlagReserved) with
    | false =>
      rw [tryDeflateAndSend, if_neg hclient, if_neg hserver, if_neg (by simp [hflags])]
      exact hhalted _ c rfl
    | true =>
      cases hencode : P.filter.encode (c.requireMessageFilter P) magicPayload with
      | mk encoded filter =>
        cases encoded with
        | error e =>
          rw [tryDeflateAndSend_of_error P hclient hserver hflags hencode]
          exact hhalted e { c with messageFilter := some filter } rfl
        | ok encodedPayload =>
          rw [tryDeflateAndSend_of_ok P hclient hserver hflags hencode]
          refine .sent (magicNumber, magicPayload) (magicNumber, encodedPayload) rfl rfl rfl hup ?_
          rw [Platform.encodeFrame, if_neg hclient, if_neg hserver, hencode]
          rfl

/-- A hello frame that was read or not, by a connection that is shut down now. -/
theorem carried_of_hello {c c' : InterserverConnection Φ} (frame : Frame) {effects : List Effect}
    (hhello : isUser frame.1 = false)
    (hdecode : ∃ filter, P.decodeFrame c.applicationKey (c.requireMessageFilter P) frame
      = some (frame, filter))
    (heffects : effects.Sublist [.received frame.1 frame.2 frame.2])
    (hincoming : c.incoming = frame :: c'.incoming) (hup : c.hasBeenShutdown = false)
    (hdown : c'.hasBeenShutdown = true) : Carried P c effects c' := by
  obtain ⟨filter, hdecode⟩ := hdecode
  rcases List.sublist_singleton.mp heffects with rfl | rfl
  · exact .dropped frame rfl rfl hincoming hdown fun _ h => absurd (h.symm.trans hhello) (by decide)
  · exact .received frame frame filter rfl rfl hincoming hup hdecode
      fun h => absurd (h.symm.trans hdown) (by decide)

theorem carried_receiveClientHello {c : InterserverConnection Φ} {encodedPayload : Bytes}
    {rest : List Task} {s : σ} {o : Outcome σ Φ}
    (h : ClientHelloHandled P post encodedPayload { c with workhorse := rest } s o)
    (hincoming : c.incoming
      = (ClientHello.id, encodedPayload) :: ({ c with workhorse := rest }).incoming)
    (hup : c.hasBeenShutdown = false) :
    Carried P c o.effects (shutdownIfThrown o.result o.connection) := by
  have hdecode : P.decodeFrame c.applicationKey (c.requireMessageFilter P)
      (ClientHello.id, encodedPayload) = some ((ClientHello.id, encodedPayload),
        P.filter.reseedDecoderPrng (c.requireMessageFilter P)
          (P.helloSeed c.applicationKey encodedPayload)) := by
    rw [Platform.decodeFrame, if_pos rfl]
  cases h with
  | refused e effects heffects =>
    exact carried_of_hello (ClientHello.id, encodedPayload) not_isUser_clientHello
      ⟨_, hdecode⟩ heffects (by simpa using hincoming) hup (hasBeenShutdown_of_error e _)
  | halted msg hverifies hunset e =>
    exact carried_of_hello (ClientHello.id, encodedPayload) not_isUser_clientHello
      ⟨_, hdecode⟩ (List.Sublist.refl _) (by simpa using hincoming) hup
      (hasBeenShutdown_of_error e _)
  | accepted msg hverifies hunset hset hposted =>
    refine .received _ _ _ rfl rfl ?_ hup hdecode fun _ => ?_
    · exact hincoming.trans (congrArg _ (incoming_keepHello P _ _ _ _).symm)
    · obtain ⟨rest', hread⟩ := hverifies.reads
      rw [Platform.helloSeed, hread]
      rfl

theorem carried_receiveServerHello {c : InterserverConnection Φ} {encodedPayload : Bytes}
    {rest : List Task} {s : σ} {o : Outcome σ Φ}
    (h : ServerHelloHandled P post encodedPayload { c with workhorse := rest } s o)
    (hincoming : c.incoming
      = (ServerHello.id, encodedPayload) :: ({ c with workhorse := rest }).incoming)
    (hup : c.hasBeenShutdown = false) :
    Carried P c o.effects (shutdownIfThrown o.result o.connection) := by
  have hdecode : P.decodeFrame c.applicationKey (c.requireMessageFilter P)
      (ServerHello.id, encodedPayload)
        = some ((ServerHello.id, encodedPayload), c.requireMessageFilter P) := by
    rw [Platform.decodeFrame, if_neg (show ServerHello.id ≠ ClientHello.id by decide), if_pos rfl]
  cases h with
  | refused e effects heffects =>
    exact carried_of_hello (ServerHello.id, encodedPayload) not_isUser_serverHello
      ⟨_, hdecode⟩ heffects hincoming hup (hasBeenShutdown_of_error e _)
  | halted msg hverifies hset e =>
    exact carried_of_hello (ServerHello.id, encodedPayload) not_isUser_serverHello
      ⟨_, hdecode⟩ (List.Sublist.refl _) hincoming hup (hasBeenShutdown_of_error e _)
  | accepted msg hverifies hset hposted =>
    exact .received _ _ _ rfl rfl hincoming hup hdecode fun _ => rfl

theorem carried_receiveUserFrame {c : InterserverConnection Φ} {magicNumber : UInt16}
    {encodedPayload : Bytes} {rest : List Task} (s : σ) (hclient : magicNumber ≠ ClientHello.id)
    (hserver : magicNumber ≠ ServerHello.id)
    (hincoming : c.incoming
      = (magicNumber, encodedPayload) :: ({ c with workhorse := rest }).incoming)
    (hup : c.hasBeenShutdown = false) {o : Outcome σ Φ}
    (ho : o = ({ c with workhorse := rest }).receiveUserFrame P magicNumber encodedPayload s) :
    Carried P c o.effects (shutdownIfThrown o.result o.connection) := by
  subst ho
  cases hflags : isUser magicNumber with
  | false =>
    rw [receiveUserFrame_of_flags P hflags]
    exact .dropped _ rfl rfl hincoming (hasBeenShutdown_of_error _ _)
      fun _ h => absurd (h.symm.trans hflags) (by decide)
  | true =>
    have hfilter : ({ c with workhorse := rest }).requireMessageFilter P
        = c.requireMessageFilter P := rfl
    cases hdecode : P.filter.decode (c.requireMessageFilter P) encodedPayload with
    | mk decoded filter =>
      rw [← hfilter] at hdecode
      cases decoded with
      | error e =>
        rw [receiveUserFrame_of_error P hflags hdecode]
        rw [hfilter] at hdecode
        refine .dropped _ rfl rfl hincoming (hasBeenShutdown_of_error _ _) fun _ _ => ?_
        simp only [Platform.decodeFrame, if_neg hclient, if_neg hserver, hdecode]
      | ok magicPayload =>
        rw [receiveUserFrame_of_ok P hflags hdecode]
        rw [hfilter] at hdecode
        obtain ⟨hsends, hreceives⟩ := sends_dispatch P magicNumber magicPayload
          { c with workhorse := rest, messageFilter := some filter }
        refine .received (magicNumber, encodedPayload) (magicNumber, magicPayload) filter hsends
          (congrArg _ hreceives) ?_ hup ?_ fun _ => ?_
        · rw [incoming_shutdownIfThrown, incoming_dispatch]
          exact hincoming
        · simp only [Platform.decodeFrame, if_neg hclient, if_neg hserver, hdecode]
        · rw [requireMessageFilter_shutdownIfThrown, requireMessageFilter_dispatch]
          rfl

/-- Taking in the frame at the head of the queue. -/
theorem carried_inflateAndDispatch {c : InterserverConnection Φ} {magicNumber : UInt16}
    {encodedPayload : Bytes} {rest : List Task}
    (hhead : c.workhorse = .inflateAndDispatch magicNumber encodedPayload :: rest) (s : σ) :
    Carried P c
      (({ c with workhorse := rest }).inflateAndDispatch P post magicNumber encodedPayload s).1
      (({ c with workhorse := rest }).inflateAndDispatch P post magicNumber encodedPayload
        s).2.1 := by
  have hincoming : c.incoming
      = (magicNumber, encodedPayload) :: ({ c with workhorse := rest }).incoming := by
    simp [incoming, hhead]
  rw [inflateAndDispatch]
  split
  case isTrue hdown =>
    exact .dropped _ rfl rfl hincoming hdown fun h => absurd (h.symm.trans hdown) (by decide)
  case isFalse hdown =>
    have hup : c.hasBeenShutdown = false := by simpa [hasBeenShutdown] using hdown
    rw [tryInflateAndDispatch]
    split
    case isTrue hclient =>
      subst hclient
      exact carried_receiveClientHello (receiveClientHello_spec P post encodedPayload _ s)
        hincoming hup
    case isFalse hclient =>
      split
      case isTrue hserver =>
        subst hserver
        exact carried_receiveServerHello (receiveServerHello_spec P post encodedPayload _ s)
          hincoming hup
      case isFalse hserver => exact carried_receiveUserFrame s hclient hserver hincoming hup rfl

/-- A job off the queue that is no frame. -/
theorem Carried.of_dequeue {c c' : InterserverConnection Φ} {rest : List Task}
    {magicNumber : UInt16} {magicPayload : Bytes} {effects : List Effect}
    (hhead : c.workhorse = .deflateAndSend magicNumber magicPayload :: rest)
    (h : Carried P { c with workhorse := rest } effects c') : Carried P c effects c' := by
  have hincoming : ({ c with workhorse := rest }).incoming = c.incoming := by
    simp [incoming, hhead]
  cases h with
  | quiet hsends hreceives hin hfilter =>
    exact .quiet hsends hreceives (hin.trans hincoming) hfilter
  | dropped frame hsends hreceives hin hdown hunread =>
    exact .dropped frame hsends hreceives (hincoming.symm.trans hin) hdown hunread
  | received frame message filter hsends hreceives hin hup hdecode hfilter =>
    exact .received frame message filter hsends hreceives (hincoming.symm.trans hin) hup hdecode
      hfilter
  | sent message frame hsends hreceives hin hup hencode =>
    exact .sent message frame hsends hreceives (hin.trans hincoming) hup hencode

/-- The events that neither deliver a frame nor let the workhorse thread go on. -/
def isQuiet : Event → Bool
  | .receiveData .. | .work => false
  | _ => true

theorem carried_of_isQuiet (c : InterserverConnection Φ) {event : Event}
    (h : isQuiet event = true) (s : σ) :
    Carried P c (c.handle P post event s).1 (c.handle P post event s).2.1 := by
  cases event with
  | receiveData | work => cases h
  | receiveControl statusCode param =>
    simp only [handle, layer5OnReceiveControl]
    repeat' split
    all_goals exact .quiet rfl rfl rfl fun _ => rfl
  | sendRequest msg thrown =>
    simp only [handle, sendRequest]
    repeat' split
    all_goals first
      | exact .quiet rfl rfl rfl fun _ => rfl
      | exact .quiet rfl rfl (incoming_launchDeflateAndSend _ _ _) fun _ => rfl
  | sendNotification msg thrown =>
    simp only [handle, sendNotification]
    repeat' split
    all_goals first
      | exact .quiet rfl rfl rfl fun _ => rfl
      | exact .quiet rfl rfl (incoming_launchDeflateAndSend _ _ _) fun _ => rfl
  | perform job handled =>
    refine .quiet rfl rfl ?_ fun _ => ?_
    · simp only [handle, performJob, sendResponse]
      repeat' split
      all_goals first
        | exact incoming_launchDeflateAndSend _ _ _
        | rfl
    · simp only [handle, performJob, sendResponse]
      repeat' split
      all_goals rfl
  | drop | shutdown => exact .quiet rfl rfl rfl fun _ => rfl
  | close =>
    simp only [handle, layer4OnClose]
    split
    case isFalse => exact .quiet rfl rfl rfl fun _ => rfl
    case isTrue =>
      refine .quiet ?_ ?_ rfl fun _ => rfl <;> simp [sends, receives]

variable (post) in
/-- **Any event but the arrival of a frame.** -/
theorem carried_handle {c : InterserverConnection Φ} (hready : c.HelloReady P) {event : Event}
    (hevent : ∀ magicNumber encodedPayload, event ≠ .receiveData magicNumber encodedPayload)
    (s : σ) : Carried P c (c.handle P post event s).1 (c.handle P post event s).2.1 := by
  cases hquiet : isQuiet event with
  | true => exact carried_of_isQuiet c hquiet s
  | false =>
    cases event with
    | receiveData magicNumber encodedPayload => exact absurd rfl (hevent _ _)
    | work =>
      simp only [handle, work]
      split
      case h_1 => exact .quiet rfl rfl rfl fun _ => rfl
      case h_2 magicNumber encodedPayload rest hhead => exact carried_inflateAndDispatch hhead s
      case h_3 magicNumber magicPayload rest hhead =>
        refine .of_dequeue hhead (carried_deflateAndSend fun hclient => ?_)
        have hmem : (magicNumber, magicPayload) ∈ c.outgoing := by simp [outgoing, hhead]
        exact (hready _ hmem hclient).2
    | _ => cases hquiet

variable (P post) in
/-- A connection that was shut down sends nothing. -/
theorem sends_of_hasBeenShutdown {c : InterserverConnection Φ} (h : c.hasBeenShutdown = true)
    (event : Event) (s : σ) : sends (c.handle P post event s).1 = [] := by
  cases hquiet : isQuiet event with
  | true =>
    cases @carried_of_isQuiet Φ σ P post c event hquiet s with
    | quiet hsends | dropped frame hsends | received frame message filter hsends => exact hsends
    | sent message frame hsends hreceives hincoming hup =>
      exact absurd (h.symm.trans hup) (by decide)
  | false =>
    cases event with
    | receiveData => rfl
    | work =>
      simp only [handle, work]
      split
      case h_1 => rfl
      case h_2 => rw [inflateAndDispatch, if_pos (by exact h)]; rfl
      case h_3 => rw [deflateAndSend, if_pos (by exact h)]; rfl
    | _ => cases hquiet

/-! ### The frame at the front, the message at the front -/

variable (post) in
/-- A user-defined frame that decodes is read. -/
theorem receives_of_handledFrame {c : InterserverConnection Φ} {event : Event}
    {frame message : Frame} {filter : Φ} (hframe : c.handledFrame event = some frame)
    (huser : isUser frame.1 = true)
    (hdecode : P.decodeFrame c.applicationKey (c.requireMessageFilter P) frame
      = some (message, filter)) (s : σ) :
    receives (c.handle P post event s).1 = [message] := by
  obtain ⟨rest, -, -, -, hhandle⟩ := handle_of_handledFrame P post hframe s
  obtain ⟨hclient, hserver⟩ := ne_hello_of_isUser huser
  rw [hhandle _ rfl, tryInflateAndDispatch, if_neg hclient, if_neg hserver]
  rw [Platform.decodeFrame, if_neg hclient, if_neg hserver] at hdecode
  split at hdecode
  case h_2 => cases hdecode
  case h_1 magicPayload filter' hdecoded =>
    cases hdecode
    have hfilter : P.filter.decode (({ c with workhorse := rest }).requireMessageFilter P) frame.2
        = (.ok magicPayload, filter) := hdecoded
    rw [receiveUserFrame_of_ok P huser hfilter]
    exact congrArg _ (sends_dispatch P frame.1 magicPayload _).2

/-- The message that a step takes off the queue of a connection, which has not been shut down. -/
def takenMessage (c : InterserverConnection Φ) : Event → Option Frame
  | .work =>
    if c.hasBeenShutdown then none
    else
      match c.workhorse with
      | .deflateAndSend magicNumber magicPayload :: _ => some (magicNumber, magicPayload)
      | _ => none
  | _ => none

variable (post) in
/-- A user-defined message that encodes is sent. -/
theorem sends_of_takenMessage {c : InterserverConnection Φ} {event : Event} {message : Frame}
    {encodedPayload : Bytes} {filter : Φ} (hmessage : c.takenMessage event = some message)
    (huser : isUser message.1 = true)
    (hencode : P.filter.encode (c.requireMessageFilter P) message.2 = (.ok encodedPayload, filter))
    (s : σ) : sends (c.handle P post event s).1 = [(message, (message.1, encodedPayload))] := by
  cases event with
  | work =>
    rw [takenMessage] at hmessage
    split at hmessage
    case isTrue => cases hmessage
    case isFalse hdown =>
      split at hmessage
      case h_2 => cases hmessage
      case h_1 magicNumber magicPayload rest hhead =>
        cases hmessage
        obtain ⟨hclient, hserver⟩ := ne_hello_of_isUser huser
        have hfilter : P.filter.encode (({ c with workhorse := rest }).requireMessageFilter P)
            magicPayload = (.ok encodedPayload, filter) := hencode
        simp only [handle, work, hhead, deflateAndSend]
        rw [if_neg (by exact hdown), tryDeflateAndSend_of_ok P hclient hserver huser hfilter]
        rfl
  | _ => cases hmessage

/-! ## The messages launched -/

@[simp] theorem outgoing_launchDeflateAndSend (c : InterserverConnection Φ) (magicNumber : UInt16)
    (magicPayload : Bytes) :
    (c.launchDeflateAndSend magicNumber magicPayload).outgoing
      = c.outgoing ++ [(magicNumber, magicPayload)] := by
  simp [outgoing, launchDeflateAndSend]

@[simp] theorem outgoing_shutdownIfThrown (result : Except Exception Unit)
    (c : InterserverConnection Φ) : (shutdownIfThrown result c).outgoing = c.outgoing := by
  cases result <;> rfl

@[simp] theorem outgoing_dispatch (magicNumber : UInt16) (magicPayload : Bytes)
    (c : InterserverConnection Φ) :
    (c.dispatch P magicNumber magicPayload).2.1.outgoing = c.outgoing := by
  rw [dispatch]
  repeat' split
  all_goals rfl

variable (P) in
/-- **What an event does to the messages on their way out**: `taken` leaves the queue, and has been
sent unless the connection was shut down; the others stay, a `Server_hello` may follow, and what
was launched. -/
def Queued (c : InterserverConnection Φ) (effects : List Effect) (c' : InterserverConnection Φ) :
    Prop :=
  ∃ hello taken : List Frame, (∀ message ∈ hello, message.1 = ServerHello.id) ∧
    c.outgoing ++ hello ++ launches P effects = taken ++ c'.outgoing ∧
      (c'.hasBeenShutdown = false ∨ sends effects ≠ [] → taken = (sends effects).map Prod.fst)

theorem Queued.of_launches {c c' : InterserverConnection Φ} {effects : List Effect}
    (hsends : sends effects = []) (h : c'.outgoing = c.outgoing ++ launches P effects) :
    Queued P c effects c' :=
  ⟨[], [], by simp, by simp [h], by simp [hsends]⟩

theorem Queued.congr {c c' d : InterserverConnection Φ} {effects : List Effect}
    (h : c.outgoing = d.outgoing) (hd : Queued P d effects c') : Queued P c effects c' := by
  rw [Queued, h]
  exact hd

theorem outgoing_performJob (job : RequestMessageJob)
    (handled : Except Exception InterserverResponse) (c : InterserverConnection Φ) :
    (c.performJob P job handled).2.outgoing
      = c.outgoing ++ (responseOf P job (.ofHandled handled)).toList := by
  simp only [performJob, sendResponse, responseOf]
  cases hsend : job.sendResponse with
  | false =>
    simp only [Bool.false_and, Bool.false_eq_true, if_false]
    split <;> exact (List.append_nil _).symm
  | true =>
    simp only [Bool.true_and, if_true]
    generalize InterserverResponse.ofHandled handled = resp
    by_cases hvalid : (decide (resp.messageId = 0) || isMessageIdValid resp.messageId) = true
    · rw [if_pos hvalid, if_pos hvalid]
      dsimp only
      split <;> exact outgoing_launchDeflateAndSend _ _ _
    · rw [if_neg hvalid, if_neg hvalid]
      exact (List.append_nil _).symm

variable (P post) in
/-- A quiet event sends nothing, and queues what it launches. -/
theorem launched_of_isQuiet (c : InterserverConnection Φ) {event : Event}
    (h : isQuiet event = true) (s : σ) :
    sends (c.handle P post event s).1 = [] ∧ (c.handle P post event s).2.1.outgoing
      = c.outgoing ++ launches P (c.handle P post event s).1 := by
  cases event with
  | receiveData | work => cases h
  | receiveControl statusCode param =>
    simp only [handle, layer5OnReceiveControl]
    repeat' split
    all_goals exact ⟨rfl, (List.append_nil _).symm⟩
  | sendRequest msg thrown =>
    simp only [handle, sendRequest]
    repeat' split
    all_goals first
      | exact ⟨rfl, (List.append_nil _).symm⟩
      | exact ⟨rfl, outgoing_launchDeflateAndSend _ _ _⟩
  | sendNotification msg thrown =>
    simp only [handle, sendNotification]
    repeat' split
    all_goals first
      | exact ⟨rfl, (List.append_nil _).symm⟩
      | exact ⟨rfl, outgoing_launchDeflateAndSend _ _ _⟩
  | perform job handled =>
    refine ⟨rfl, ?_⟩
    rw [show launches P (c.handle P post (.perform job handled) s).1
      = (responseOf P job (.ofHandled handled)).toList from List.append_nil _]
    exact outgoing_performJob job handled { c with jobs := c.jobs.erase job }
  | drop | shutdown => exact ⟨rfl, (List.append_nil _).symm⟩
  | close =>
    simp only [handle, layer4OnClose]
    split
    case isFalse => exact ⟨rfl, (List.append_nil _).symm⟩
    case isTrue =>
      refine ⟨by simp [sends], ?_⟩
      simp only [launches, List.flatMap_map]
      simp [outgoing]

theorem queued_of_isQuiet (c : InterserverConnection Φ) {event : Event}
    (h : isQuiet event = true) (s : σ) :
    Queued P c (c.handle P post event s).1 (c.handle P post event s).2.1 := by
  obtain ⟨hsends, hlaunched⟩ := launched_of_isQuiet P post c h s
  exact .of_launches hsends hlaunched

/-- What is taken off the queue is sent, or the connection is shut down. -/
theorem deflateAndSend_cases (magicNumber : UInt16) (magicPayload : Bytes)
    (c : InterserverConnection Φ) :
    (c.deflateAndSend P magicNumber magicPayload).2.outgoing = c.outgoing ∧
      ((c.deflateAndSend P magicNumber magicPayload).1 = [] ∧
          (c.deflateAndSend P magicNumber magicPayload).2.hasBeenShutdown = true ∨
        ∃ encodedPayload, (c.deflateAndSend P magicNumber magicPayload).1
          = [.sent magicNumber magicPayload encodedPayload]) := by
  rw [deflateAndSend]
  split
  case isTrue hdown => exact ⟨rfl, .inl ⟨rfl, hdown⟩⟩
  case isFalse =>
    simp only [tryDeflateAndSend]
    repeat' split
    all_goals first
      | exact ⟨rfl, .inr ⟨_, rfl⟩⟩
      | exact ⟨rfl, .inl ⟨rfl, hasBeenShutdown_of_error _ _⟩⟩

variable (P post) in
/-- Without a frame nothing is read. -/
theorem receives_of_handledFrame_none {c : InterserverConnection Φ} {event : Event}
    (hframe : c.handledFrame event = none) (s : σ) : receives (c.handle P post event s).1 = [] := by
  cases event with
  | work =>
    simp only [handle, work]
    split
    case h_1 => rfl
    case h_2 magicNumber encodedPayload rest hhead =>
      have hdown : c.hasBeenShutdown = true := by
        simpa [handledFrame, hhead] using hframe
      rw [inflateAndDispatch, if_pos (by exact hdown)]
      rfl
    case h_3 magicNumber magicPayload rest hhead =>
      obtain ⟨-, ⟨heffects, -⟩ | ⟨encodedPayload, heffects⟩⟩ :=
        deflateAndSend_cases (P := P) magicNumber magicPayload
          { c with workhorse := rest }
      · exact congrArg receives heffects
      · exact congrArg receives heffects
  | receiveControl statusCode param =>
    simp only [handle, layer5OnReceiveControl]
    repeat' split
    all_goals rfl
  | sendRequest msg thrown =>
    simp only [handle, sendRequest]
    repeat' split
    all_goals rfl
  | sendNotification msg thrown =>
    simp only [handle, sendNotification]
    repeat' split
    all_goals rfl
  | close =>
    simp only [handle, layer4OnClose]
    split
    · simp [receives]
    · rfl
  | receiveData | perform | drop | shutdown => rfl

theorem queued_deflateAndSend {c : InterserverConnection Φ} {magicNumber : UInt16}
    {magicPayload : Bytes} {rest : List Task}
    (hhead : c.workhorse = .deflateAndSend magicNumber magicPayload :: rest) :
    Queued P c (({ c with workhorse := rest }).deflateAndSend P magicNumber magicPayload).1
      (({ c with workhorse := rest }).deflateAndSend P magicNumber magicPayload).2 := by
  have houtgoing : c.outgoing
      = (magicNumber, magicPayload) :: ({ c with workhorse := rest }).outgoing := by
    simp [outgoing, hhead]
  obtain ⟨hrest, ⟨heffects, hdown⟩ | ⟨encodedPayload, heffects⟩⟩ :=
    deflateAndSend_cases (P := P) magicNumber magicPayload { c with workhorse := rest }
  · refine ⟨[], [(magicNumber, magicPayload)], by simp, ?_, ?_⟩
    · rw [heffects, hrest, houtgoing]
      simp [launches]
    · rw [heffects, hdown]
      simp [sends]
  · refine ⟨[], [(magicNumber, magicPayload)], by simp, ?_, ?_⟩
    · rw [heffects, hrest, houtgoing]
      simp [launches]
    · rw [heffects]
      simp [sends]

theorem launches_dispatch (magicNumber : UInt16) (magicPayload : Bytes)
    (c : InterserverConnection Φ) :
    launches P (c.dispatch P magicNumber magicPayload).2.2 = [] := by
  simp only [dispatch]
  repeat' split
  all_goals first | rfl | skip
  rename_i hdr payload hread
  cases (c.promises.take hdr.serial).1 <;> rfl

theorem launches_of_hello {effects : List Effect} {magicNumber : UInt16} {encodedPayload : Bytes}
    (h : effects.Sublist [.received magicNumber encodedPayload encodedPayload]) :
    sends effects = [] ∧ launches P effects = [] := by
  rcases List.sublist_singleton.mp h with rfl | rfl <;> exact ⟨rfl, rfl⟩

/-- Taking in a frame leaves the messages on their way out alone, but for a `Server_hello`. -/
theorem queued_tryInflateAndDispatch (magicNumber : UInt16) (encodedPayload : Bytes)
    (c : InterserverConnection Φ) (s : σ) {o : Outcome σ Φ}
    (ho : o = c.tryInflateAndDispatch P post magicNumber encodedPayload s) :
    Queued P c o.effects (shutdownIfThrown o.result o.connection) := by
  have hspec := ho ▸ tryInflateAndDispatch_spec P post magicNumber encodedPayload c s
  clear ho
  cases hspec with
  | clientHello hmagic h =>
    cases h with
    | refused e effects heffects =>
      obtain ⟨hsends, hlaunches⟩ := launches_of_hello (P := P) heffects
      exact .of_launches hsends (by rw [hlaunches]; exact (List.append_nil _).symm)
    | halted | accepted =>
      refine ⟨[_], [], ?_, (congrArg (· ++ []) (outgoing_launchDeflateAndSend c _ _).symm).trans
        (List.append_nil _), fun _ => rfl⟩
      simp
  | serverHello hmagic h =>
    cases h with
    | refused e effects heffects =>
      obtain ⟨hsends, hlaunches⟩ := launches_of_hello (P := P) heffects
      exact .of_launches hsends (by rw [hlaunches]; exact (List.append_nil _).symm)
    | halted | accepted => exact .of_launches rfl (List.append_nil _).symm
  | unread => exact .of_launches rfl (List.append_nil _).symm
  | read magicPayload filter =>
    refine .of_launches (sends_dispatch P magicNumber magicPayload _).1 ?_
    rw [outgoing_shutdownIfThrown, outgoing_dispatch]
    exact (List.append_nil _).symm.trans
      (congrArg _ (launches_dispatch magicNumber magicPayload _).symm)

variable (P post) in
/-- **Any event, on the messages on their way out.** -/
theorem queued_handle (c : InterserverConnection Φ) (event : Event) (s : σ) :
    Queued P c (c.handle P post event s).1 (c.handle P post event s).2.1 := by
  cases hquiet : isQuiet event with
  | true => exact queued_of_isQuiet c hquiet s
  | false =>
    cases event with
    | receiveData magicNumber encodedPayload =>
      refine .of_launches rfl ?_
      simp [handle, layer5OnReceiveData, outgoing, launches]
    | work =>
      simp only [handle, work]
      split
      case h_1 => exact .of_launches rfl (List.append_nil _).symm
      case h_2 magicNumber encodedPayload rest hhead =>
        have houtgoing : c.outgoing = ({ c with workhorse := rest }).outgoing := by
          simp [outgoing, hhead]
        refine Queued.congr houtgoing ?_
        rw [inflateAndDispatch]
        split
        case isTrue => exact .of_launches rfl (List.append_nil _).symm
        case isFalse => exact queued_tryInflateAndDispatch magicNumber encodedPayload _ s rfl
      case h_3 magicNumber magicPayload rest hhead => exact queued_deflateAndSend hhead
    | _ => cases hquiet

/-! ### The messages launched are user-defined -/

/-- The workhorse thread launches no user-defined message. -/
theorem launches_work (c : InterserverConnection Φ) (s : σ) :
    launches P (c.work P post s).1 = [] := by
  rw [work]
  split
  case h_1 => rfl
  case h_2 magicNumber encodedPayload rest hhead =>
    rw [inflateAndDispatch]
    split
    case isTrue => rfl
    case isFalse =>
      have hspec := tryInflateAndDispatch_spec P post magicNumber encodedPayload
        { c with workhorse := rest } s
      dsimp only
      generalize tryInflateAndDispatch P post magicNumber encodedPayload
        { c with workhorse := rest } s = o at hspec ⊢
      cases hspec with
      | clientHello hmagic h =>
        cases h with
        | refused e effects heffects => exact (launches_of_hello heffects).2
        | halted | accepted => rfl
      | serverHello hmagic h =>
        cases h with
        | refused e effects heffects => exact (launches_of_hello heffects).2
        | halted | accepted => rfl
      | unread => rfl
      | read magicPayload filter => exact launches_dispatch magicNumber magicPayload _
  case h_3 magicNumber magicPayload rest hhead =>
    obtain ⟨-, ⟨heffects, -⟩ | ⟨encodedPayload, heffects⟩⟩ :=
      deflateAndSend_cases (P := P) magicNumber magicPayload { c with workhorse := rest }
    · rw [heffects]
      rfl
    · rw [heffects]
      rfl

theorem isUser_responseOf {job : RequestMessageJob} {resp : InterserverResponse} {message : Frame}
    (h : responseOf P job resp = some message) : isUser message.1 = true := by
  rw [responseOf] at h
  split at h
  case isFalse => cases h
  case isTrue hvalid =>
    cases h
    obtain ⟨-, hvalid⟩ := Bool.and_eq_true_iff.mp hvalid
    rcases Bool.or_eq_true_iff.mp hvalid with hzero | hvalid
    · rw [of_decide_eq_true hzero]
      exact isUser_response (x := 0) (by decide)
    · obtain ⟨hsame, hlt⟩ := toNat_toUInt16_of_isMessageIdValid hvalid
      exact isUser_response (hsame ▸ hlt)

/-- A request that goes out has a valid id and takes the next serial and a new promise. -/
theorem sendRequest_cases (msg : Message) (thrown : Option Exception)
    (c : InterserverConnection Φ) :
    (c.sendRequest P msg thrown).2.2 = [] ∨ isMessageIdValid msg.id = true ∧
      (c.sendRequest P msg thrown).2.2 = [.requested c.promises.serial c.promises.made msg] ∧
        (c.sendRequest P msg thrown).2.1.promises = c.promises.emplace := by
  simp only [sendRequest]
  split
  case isTrue => exact .inl rfl
  case isFalse hvalid =>
    repeat' split
    · exact .inl rfl
    · exact .inl rfl
    · exact .inr ⟨by simpa using hvalid, rfl, rfl⟩

theorem sendNotification_cases (msg : Message) (thrown : Option Exception)
    (c : InterserverConnection Φ) :
    (c.sendNotification msg thrown).2.2 = [] ∨ isMessageIdValid msg.id = true ∧
      (c.sendNotification msg thrown).2.2 = [.notified msg] := by
  simp only [sendNotification]
  split
  case isTrue => exact .inl rfl
  case isFalse hvalid =>
    repeat' split
    · exact .inl rfl
    · exact .inl rfl
    · exact .inr ⟨by simpa using hvalid, rfl⟩

theorem valid_of_launches {effects : List Effect} (h : launches P effects = []) :
    ∀ e ∈ effects, e.Valid := by
  intro e he
  have hnone := List.flatMap_eq_nil_iff.mp h e he
  cases e with
  | requested | notified => cases hnone
  | _ => trivial

/-- **What goes out has a valid id.** -/
theorem valid_handle (c : InterserverConnection Φ) (event : Event) (s : σ) :
    ∀ e ∈ (c.handle P post event s).1, e.Valid := by
  cases event with
  | work => exact valid_of_launches (launches_work c s)
  | sendRequest msg thrown =>
    have heffects : (c.handle P post (.sendRequest msg thrown) s).1
        = (c.sendRequest P msg thrown).2.2 := rfl
    rw [heffects]
    rcases sendRequest_cases (P := P) msg thrown c with hnone | ⟨hvalid, hsome, -⟩
    · rw [hnone]
      exact List.forall_mem_nil _
    · rw [hsome]
      exact List.forall_mem_singleton.mpr hvalid
  | sendNotification msg thrown =>
    have heffects : (c.handle P post (.sendNotification msg thrown) s).1
        = (c.sendNotification msg thrown).2.2 := rfl
    rw [heffects]
    rcases sendNotification_cases msg thrown c with hnone | ⟨hvalid, hsome⟩
    · rw [hnone]
      exact List.forall_mem_nil _
    · rw [hsome]
      exact List.forall_mem_singleton.mpr hvalid
  | perform job handled => exact List.forall_mem_singleton.mpr trivial
  | close =>
    refine valid_of_launches (P := P) ?_
    simp only [handle, layer4OnClose]
    split
    · simp [launches, List.flatMap_map]
    · rfl
  | receiveControl statusCode param =>
    refine valid_of_launches (P := P) ?_
    simp only [handle, layer5OnReceiveControl]
    repeat' split
    all_goals rfl
  | receiveData | drop | shutdown => exact List.forall_mem_nil _

theorem isUser_of_mem_launches {effects : List Effect} (hvalid : ∀ e ∈ effects, e.Valid)
    {message : Frame} (h : message ∈ launches P effects) : isUser message.1 = true := by
  obtain ⟨e, he, hmessage⟩ := List.mem_flatMap.mp h
  cases e with
  | requested serial promise msg =>
    obtain ⟨hsame, hlt⟩ := toNat_toUInt16_of_isMessageIdValid (hvalid _ he)
    rw [List.mem_singleton.mp hmessage]
    exact isUser_request (hsame ▸ hlt)
  | notified msg =>
    obtain ⟨hsame, hlt⟩ := toNat_toUInt16_of_isMessageIdValid (hvalid _ he)
    rw [List.mem_singleton.mp hmessage]
    exact isUser_notification (hsame ▸ hlt)
  | ran job resp => exact isUser_responseOf (Option.mem_toList.mp hmessage)
  | _ => cases hmessage

/-! ### A `Client_hello` keeps its seed -/

variable (P post) in
/-- The application key is the one of the connection when it was made. -/
theorem applicationKey_handle (c : InterserverConnection Φ) (event : Event) (s : σ) :
    (c.handle P post event s).2.1.applicationKey = c.applicationKey := by
  cases hframe : c.handledFrame event with
  | none => exact congrArg Standing.applicationKey (standing_handle P post hframe s)
  | some frame =>
    obtain ⟨rest, -, -, -, hhandle⟩ := handle_of_handledFrame P post hframe s
    rw [hhandle _ rfl]
    refine (congrArg Standing.applicationKey (standing_shutdownIfThrown _ _)).trans ?_
    have hspec := tryInflateAndDispatch_spec P post frame.1 frame.2 { c with workhorse := rest } s
    generalize tryInflateAndDispatch P post frame.1 frame.2 { c with workhorse := rest } s = o
      at hspec ⊢
    cases hspec with
    | clientHello hmagic h => cases h <;> rfl
    | serverHello hmagic h => cases h <;> rfl
    | unread => rfl
    | read magicPayload filter =>
      exact congrArg Standing.applicationKey (standing_dispatch P frame.1 magicPayload _)

/-- Two connections with the same hello, under the same key. -/
structure SameHello (c c' : InterserverConnection Φ) : Prop where
  applicationKey : c'.applicationKey = c.applicationKey
  connectionUuid : c'.connectionUuid = c.connectionUuid
  timestamp : c'.timestamp = c.timestamp

theorem SameHello.of_standing {c c' : InterserverConnection Φ} (h : c'.standing = c.standing) :
    SameHello c c' :=
  ⟨congrArg (·.applicationKey) h, congrArg (·.connectionUuid) h, congrArg (·.timestamp) h⟩

theorem SameHello.shutdownIfThrown {c c' : InterserverConnection Φ} (h : SameHello c c')
    (result : Except Exception Unit) : SameHello c (shutdownIfThrown result c') := by
  cases result <;> exact ⟨h.applicationKey, h.connectionUuid, h.timestamp⟩

variable (P post) in
theorem sameHello_tryInflateAndDispatch {c : InterserverConnection Φ}
    (hset : c.isConnectionUuidSet = true) (magicNumber : UInt16) (encodedPayload : Bytes) (s : σ) :
    SameHello c (c.tryInflateAndDispatch P post magicNumber encodedPayload s).connection := by
  have hspec := tryInflateAndDispatch_spec P post magicNumber encodedPayload c s
  generalize c.tryInflateAndDispatch P post magicNumber encodedPayload s = o at hspec ⊢
  cases hspec with
  | clientHello hmagic h =>
    cases h with
    | refused => exact ⟨rfl, rfl, rfl⟩
    | halted msg hverifies hunset | accepted msg hverifies hunset =>
      exact absurd (hunset.symm.trans hset) (by decide)
  | serverHello hmagic h => cases h <;> exact ⟨rfl, rfl, rfl⟩
  | unread => exact ⟨rfl, rfl, rfl⟩
  | read magicPayload filter => exact .of_standing (standing_dispatch P magicNumber magicPayload _)

variable (P post) in
/-- **What a hello set stays set.** -/
theorem sameHello_handle {c : InterserverConnection Φ} (hset : c.isConnectionUuidSet = true)
    (event : Event) (s : σ) : SameHello c (c.handle P post event s).2.1 := by
  cases hframe : c.handledFrame event with
  | none => exact .of_standing (standing_handle P post hframe s)
  | some frame =>
    obtain ⟨rest, -, -, -, hhandle⟩ := handle_of_handledFrame P post hframe s
    rw [hhandle _ rfl]
    obtain ⟨hkey, huuid, htimestamp⟩ := (sameHello_tryInflateAndDispatch P post
      (c := { c with workhorse := rest }) hset frame.1 frame.2 s).shutdownIfThrown
        (tryInflateAndDispatch P post frame.1 frame.2 { c with workhorse := rest } s).result
    exact ⟨hkey, huuid, htimestamp⟩

variable (P post) in
/-- No event puts a `Client_hello` on its way out. -/
theorem mem_outgoing_handle {c : InterserverConnection Φ} {event : Event} {s : σ} {message : Frame}
    (h : message ∈ (c.handle P post event s).2.1.outgoing) (hclient : message.1 = ClientHello.id) :
    message ∈ c.outgoing := by
  obtain ⟨hello, taken, hhello, hqueue, -⟩ := queued_handle P post c event s
  have hall : message ∈ c.outgoing ++ hello ++ launches P (c.handle P post event s).1 := by
    rw [hqueue]
    exact List.mem_append_right _ h
  rcases List.mem_append.mp hall with hall | hlaunched
  · rcases List.mem_append.mp hall with hold | hnew
    · exact hold
    · exact absurd ((hhello message hnew).symm.trans hclient) (by decide)
  · have huser := isUser_of_mem_launches (valid_handle c event s) hlaunched
    rw [hclient] at huser
    exact absurd huser (by decide)

theorem helloReady_handle {c : InterserverConnection Φ} (h : c.HelloReady P) (event : Event)
    (s : σ) : (c.handle P post event s).2.1.HelloReady P := by
  intro message hmem hclient
  obtain ⟨hset, hseed⟩ := h message (mem_outgoing_handle P post hmem hclient) hclient
  obtain ⟨hkey, huuid, htimestamp⟩ := sameHello_handle P post hset event s
  refine ⟨by rwa [isConnectionUuidSet, huuid], ?_⟩
  rw [hkey, hseed, normalDataSeed, normalDataSeed, hkey, huuid, htimestamp]

theorem HelloReady.receiveData {c : InterserverConnection Φ} (h : c.HelloReady P) (frame : Frame) :
    (c.layer5OnReceiveData frame.1 frame.2).HelloReady P :=
  have hhandled : (c.handle P (fun _ (s : Unit) => (.ok (), s))
    (.receiveData frame.1 frame.2) ()).2.1.HelloReady P := helloReady_handle h _ _
  hhandled

end InterserverConnection

end Circe.Common
