import Circe.Common.InterserverConnection
import Circe.Common.MagicNumber
import Circe.Foundations.Run

/-!
# Common/Standing — who a connection takes its peer for

The application key, the authenticated flag, and what a hello set (UUID, timestamp, options): the
`Standing` of a connection.  Nothing but a hello frame changes it (`standing_handle`), and a hello
frame changes it in one way on each side (`receiveClientHello_spec`, `receiveServerHello_spec`).
-/

namespace Circe.Common

/-- A step of one connection: the event and what came of it. -/
structure Label where
  event : Event
  effects : List Effect

/-- A connection and its surroundings take a step. -/
def Step {Φ σ : Type} (P : Platform Φ) (post : Uuid → σ → Except Exception Unit × σ)
    (x : InterserverConnection Φ × σ) (l : Label) (y : InterserverConnection Φ × σ) : Prop :=
  x.1.Enabled l.event ∧ x.1.handle P post l.event x.2 = (l.effects, y.1, y.2)

/-- The step an event makes. -/
def next {Φ σ : Type} (P : Platform Φ) (post : Uuid → σ → Except Exception Unit × σ)
    (x : InterserverConnection Φ × σ) (event : Event) : Label × InterserverConnection Φ × σ :=
  (⟨event, (x.1.handle P post event x.2).1⟩, (x.1.handle P post event x.2).2)

theorem step_next {Φ σ : Type} {P : Platform Φ} {post : Uuid → σ → Except Exception Unit × σ}
    (x : InterserverConnection Φ × σ) (event : Event) (h : x.1.Enabled event) :
    Step P post x (next P post x event).1 (next P post x event).2 := ⟨h, rfl⟩

theorem Step.unique {Φ σ : Type} {P : Platform Φ} {post : Uuid → σ → Except Exception Unit × σ}
    {x y z : InterserverConnection Φ × σ} {l : Label} (hy : Step P post x l y)
    (hz : Step P post x l z) : y = z := by
  have h := (hy.2.symm.trans hz.2)
  simp only [Prod.mk.injEq, true_and] at h
  exact Prod.ext h.1 h.2

@[ext] structure Standing where
  applicationKey : Bytes
  authenticated : Bool
  connectionUuid : Uuid
  timestamp : UInt64
  options : OptionMap

namespace InterserverConnection

variable {Φ σ : Type}

def standing (c : InterserverConnection Φ) : Standing :=
  ⟨c.applicationKey, c.authenticated, c.connectionUuid, c.timestamp, c.options⟩

/-! ## What leaves it alone -/

@[simp] theorem standing_shutdown (c : InterserverConnection Φ) (errCode : Int64)
    (errMsg : String) : (c.shutdown errCode errMsg).standing = c.standing := rfl

@[simp] theorem standing_shutdownIfThrown (result : Except Exception Unit)
    (c : InterserverConnection Φ) : (shutdownIfThrown result c).standing = c.standing := by
  cases result <;> rfl

@[simp] theorem standing_launchDeflateAndSend (c : InterserverConnection Φ) (magicNumber : UInt16)
    (magicPayload : Bytes) :
    (c.launchDeflateAndSend magicNumber magicPayload).standing = c.standing := rfl

@[simp] theorem hasBeenShutdown_launchDeflateAndSend (c : InterserverConnection Φ)
    (magicNumber : UInt16) (magicPayload : Bytes) :
    (c.launchDeflateAndSend magicNumber magicPayload).hasBeenShutdown = c.hasBeenShutdown := rfl

variable (P : Platform Φ) (post : Uuid → σ → Except Exception Unit × σ)

@[simp] theorem standing_layer5OnReceiveControl (statusCode : Int64) (param : Bytes)
    (c : InterserverConnection Φ) :
    (c.layer5OnReceiveControl P statusCode param).2.1.standing = c.standing := by
  rw [layer5OnReceiveControl]
  repeat' split
  all_goals rfl

@[simp] theorem standing_dispatch (magicNumber : UInt16) (magicPayload : Bytes)
    (c : InterserverConnection Φ) :
    (c.dispatch P magicNumber magicPayload).2.1.standing = c.standing := by
  rw [dispatch]
  repeat' split
  all_goals rfl

@[simp] theorem standing_receiveUserFrame (magicNumber : UInt16) (encodedPayload : Bytes)
    (c : InterserverConnection Φ) (s : σ) :
    (c.receiveUserFrame P magicNumber encodedPayload s).connection.standing = c.standing := by
  simp only [receiveUserFrame]
  repeat' split
  · rfl
  · exact standing_dispatch ..
  · rfl

@[simp] theorem standing_tryDeflateAndSend (magicNumber : UInt16) (magicPayload : Bytes)
    (c : InterserverConnection Φ) :
    (c.tryDeflateAndSend P magicNumber magicPayload).2.1.standing = c.standing := by
  simp only [tryDeflateAndSend]
  repeat' split
  all_goals rfl

@[simp] theorem standing_deflateAndSend (magicNumber : UInt16) (magicPayload : Bytes)
    (c : InterserverConnection Φ) :
    (c.deflateAndSend P magicNumber magicPayload).2.standing = c.standing := by
  rw [deflateAndSend]
  split
  · rfl
  · simp

@[simp] theorem standing_sendRequest (msg : Message) (thrown : Option Exception)
    (c : InterserverConnection Φ) :
    (c.sendRequest P msg thrown).2.1.standing = c.standing := by
  simp only [sendRequest]
  repeat' split
  all_goals rfl

@[simp] theorem standing_sendNotification (msg : Message) (thrown : Option Exception)
    (c : InterserverConnection Φ) :
    (c.sendNotification msg thrown).2.1.standing = c.standing := by
  simp only [sendNotification]
  repeat' split
  all_goals rfl

@[simp] theorem standing_sendResponse (serial : UInt64) (resp : InterserverResponse)
    (c : InterserverConnection Φ) :
    (c.sendResponse P serial resp).2.standing = c.standing := by
  simp only [sendResponse]
  repeat' split
  all_goals rfl

@[simp] theorem standing_performJob (job : RequestMessageJob)
    (handled : Except Exception InterserverResponse) (c : InterserverConnection Φ) :
    (c.performJob P job handled).2.standing = c.standing := by
  simp only [performJob]
  repeat' split
  all_goals simp

@[simp] theorem standing_layer4OnClose (c : InterserverConnection Φ) :
    c.layer4OnClose.2.standing = c.standing := by
  rw [layer4OnClose]
  split <;> rfl

/-! ## What a hello frame does -/

/-- The connection after it took the peer's hello as its own. -/
def authenticateServer (c : InterserverConnection Φ) : InterserverConnection Φ :=
  { c with
    messageFilter :=
      some (P.filter.reseedDecoderPrng (c.requireMessageFilter P) (c.normalDataSeed P))
    authenticated := true }

/-- A `Client_hello` whose checksum verifies under the key of the connection. -/
structure VerifiesClientHello (c : InterserverConnection Φ) (encodedPayload : Bytes)
    (msg : ClientHello) : Prop where
  reads : ∃ rest, P.clientHello.deserialize encodedPayload = .ok (msg, rest)
  checksum : msg.checksumReq
    = P.calculateChecksum c.applicationKey saltClientHello msg.connectionUuid msg.timestamp

/-- A `Server_hello` whose checksum verifies under the key and the hello of the connection. -/
structure VerifiesServerHello (c : InterserverConnection Φ) (encodedPayload : Bytes)
    (msg : ServerHello) : Prop where
  reads : ∃ rest, P.serverHello.deserialize encodedPayload = .ok (msg, rest)
  checksum : msg.checksumResp
    = P.calculateChecksum c.applicationKey saltServerHello c.connectionUuid c.timestamp

def optionsOf (options : List CommonKeyValue) : OptionMap := options.map fun o => (o.key, o.value)

/-- What a `Client_hello` frame can do to a connection. -/
inductive ClientHelloHandled (encodedPayload : Bytes) (c : InterserverConnection Φ) (s : σ) :
    Outcome σ Φ → Prop
  | refused (e : Exception) (effects : List Effect)
      (heffects : effects.Sublist [.received ClientHello.id encodedPayload encodedPayload]) :
      ClientHelloHandled encodedPayload c s ⟨.error e, c, s, effects⟩
  | halted (msg : ClientHello) (hverifies : c.VerifiesClientHello P encodedPayload msg)
      (hunset : c.isConnectionUuidSet = false) (e : Exception) :
      ClientHelloHandled encodedPayload c s
        ⟨.error e, c.keepHello P msg.connectionUuid msg.timestamp (optionsOf msg.optionsReq),
          (post msg.connectionUuid s).2, [.received ClientHello.id encodedPayload encodedPayload]⟩
  | accepted (msg : ClientHello) (hverifies : c.VerifiesClientHello P encodedPayload msg)
      (hunset : c.isConnectionUuidSet = false) (hset : msg.connectionUuid ≠ 0)
      (hposted : (post msg.connectionUuid s).1 = .ok ()) :
      ClientHelloHandled encodedPayload c s
        ⟨.ok (), (c.keepHello P msg.connectionUuid msg.timestamp
            (optionsOf msg.optionsReq)).authenticateServer P,
          (post msg.connectionUuid s).2, [.received ClientHello.id encodedPayload encodedPayload]⟩

theorem receiveClientHello_spec (encodedPayload : Bytes) (c : InterserverConnection Φ) (s : σ) :
    ClientHelloHandled P post encodedPayload c s
      (c.receiveClientHello P post encodedPayload s) := by
  rw [receiveClientHello]
  split
  case h_1 e hread => exact .refused e [] (List.nil_sublist _)
  case h_2 msg rest hread =>
    simp only
    split
    case isFalse => exact .refused _ _ (List.Sublist.refl _)
    case isTrue hchecksum =>
      have hverifies : c.VerifiesClientHello P encodedPayload msg := ⟨⟨rest, hread⟩, hchecksum⟩
      cases hset : c.isConnectionUuidSet with
      | true =>
        rw [serverAcceptHello, if_pos hset]
        exact .refused _ _ (List.Sublist.refl _)
      | false =>
        rw [serverAcceptHello, if_neg (by simp [hset])]
        simp only
        split
        case h_1 e hposted => exact .halted msg hverifies hset e
        case h_2 hposted =>
          split
          case isTrue hkept =>
            refine .accepted msg hverifies hset ?_ hposted
            simpa [isConnectionUuidSet, keepHello] using hkept
          case isFalse => exact .halted msg hverifies hset _

/-- What a `Server_hello` frame can do to a connection. -/
inductive ServerHelloHandled (encodedPayload : Bytes) (c : InterserverConnection Φ) (s : σ) :
    Outcome σ Φ → Prop
  | refused (e : Exception) (effects : List Effect)
      (heffects : effects.Sublist [.received ServerHello.id encodedPayload encodedPayload]) :
      ServerHelloHandled encodedPayload c s ⟨.error e, c, s, effects⟩
  | halted (msg : ServerHello) (hverifies : c.VerifiesServerHello P encodedPayload msg)
      (hset : c.isConnectionUuidSet = true) (e : Exception) :
      ServerHelloHandled encodedPayload c s
        ⟨.error e, { c with options := optionsOf msg.optionsResp }, (post c.connectionUuid s).2,
          [.received ServerHello.id encodedPayload encodedPayload]⟩
  | accepted (msg : ServerHello) (hverifies : c.VerifiesServerHello P encodedPayload msg)
      (hset : c.isConnectionUuidSet = true) (hposted : (post c.connectionUuid s).1 = .ok ()) :
      ServerHelloHandled encodedPayload c s
        ⟨.ok (), { c with options := optionsOf msg.optionsResp, authenticated := true },
          (post c.connectionUuid s).2, [.received ServerHello.id encodedPayload encodedPayload]⟩

theorem receiveServerHello_spec (encodedPayload : Bytes) (c : InterserverConnection Φ) (s : σ) :
    ServerHelloHandled P post encodedPayload c s
      (c.receiveServerHello P post encodedPayload s) := by
  rw [receiveServerHello]
  split
  case isFalse => exact .refused _ [] (List.nil_sublist _)
  case isTrue hset =>
    split
    case h_1 e hread => exact .refused e [] (List.nil_sublist _)
    case h_2 msg rest hread =>
      simp only
      split
      case isFalse => exact .refused _ _ (List.Sublist.refl _)
      case isTrue hchecksum =>
        have hverifies : c.VerifiesServerHello P encodedPayload msg := ⟨⟨rest, hread⟩, hchecksum⟩
        rw [clientAcceptHello, if_pos hset]
        simp only
        split
        case h_1 e hposted => exact .halted msg hverifies hset e
        case h_2 hposted => exact .accepted msg hverifies hset hposted

/-- **What a frame can do to a connection**: it is a hello, or it is not read, or it is read and
dispatched. -/
inductive FrameHandled (magicNumber : UInt16) (encodedPayload : Bytes) (c : InterserverConnection Φ)
    (s : σ) : Outcome σ Φ → Prop
  | clientHello {o : Outcome σ Φ} (hmagic : magicNumber = ClientHello.id)
      (h : ClientHelloHandled P post encodedPayload c s o) :
      FrameHandled magicNumber encodedPayload c s o
  | serverHello {o : Outcome σ Φ} (hmagic : magicNumber = ServerHello.id)
      (h : ServerHelloHandled P post encodedPayload c s o) :
      FrameHandled magicNumber encodedPayload c s o
  | unread (messageFilter : Option Φ) (e : Exception)
      (hunread : isUser magicNumber = true →
        (P.filter.decode (c.requireMessageFilter P) encodedPayload).1 = .error e) :
      FrameHandled magicNumber encodedPayload c s
        ⟨.error e, { c with messageFilter := messageFilter }, s, []⟩
  | read (magicPayload : Bytes) (filter : Φ) (huser : isUser magicNumber = true)
      (hdecode : P.filter.decode (c.requireMessageFilter P) encodedPayload
        = (.ok magicPayload, filter)) :
      FrameHandled magicNumber encodedPayload c s
        ⟨(dispatch P magicNumber magicPayload { c with messageFilter := some filter }).1,
          (dispatch P magicNumber magicPayload { c with messageFilter := some filter }).2.1, s,
          .received magicNumber encodedPayload magicPayload ::
            (dispatch P magicNumber magicPayload { c with messageFilter := some filter }).2.2⟩

theorem tryInflateAndDispatch_spec (magicNumber : UInt16) (encodedPayload : Bytes)
    (c : InterserverConnection Φ) (s : σ) :
    FrameHandled P post magicNumber encodedPayload c s
      (c.tryInflateAndDispatch P post magicNumber encodedPayload s) := by
  rw [tryInflateAndDispatch]
  split
  case isTrue hclient => exact .clientHello hclient (receiveClientHello_spec P post ..)
  case isFalse hclient =>
    split
    case isTrue hserver => exact .serverHello hserver (receiveServerHello_spec P post ..)
    case isFalse hserver =>
      cases hflags : hasNoneFlagsOf magicNumber (magicFlagPredefined ||| magicFlagReserved) with
      | false =>
        rw [receiveUserFrame_of_flags P hflags]
        exact .unread c.messageFilter _ fun huser => absurd (huser.symm.trans hflags) (by decide)
      | true =>
        cases hdecode : P.filter.decode (c.requireMessageFilter P) encodedPayload with
        | mk decoded filter =>
          cases decoded with
          | error e =>
            rw [receiveUserFrame_of_error P hflags hdecode]
            exact .unread (some filter) e fun _ => by rw [hdecode]
          | ok magicPayload =>
            rw [receiveUserFrame_of_ok P hflags hdecode]
            exact .read magicPayload filter hflags hdecode

/-! ## One step -/

/-- The frame that a step hands to the connection, which has not been shut down. -/
def handledFrame (c : InterserverConnection Φ) : Event → Option (UInt16 × Bytes)
  | .work =>
    if c.hasBeenShutdown then none
    else
      match c.workhorse with
      | .inflateAndDispatch magicNumber encodedPayload :: _ => some (magicNumber, encodedPayload)
      | _ => none
  | _ => none

theorem handledFrame_of_hasBeenShutdown {c : InterserverConnection Φ}
    (h : c.hasBeenShutdown = true) (event : Event) : c.handledFrame event = none := by
  cases event with
  | work => exact if_pos h
  | _ => rfl

theorem handle_of_handledFrame {c : InterserverConnection Φ} {event : Event} {magicNumber : UInt16}
    {encodedPayload : Bytes} (h : c.handledFrame event = some (magicNumber, encodedPayload))
    (s : σ) :
    ∃ rest, c.hasBeenShutdown = false ∧ event = .work ∧
      c.workhorse = .inflateAndDispatch magicNumber encodedPayload :: rest ∧
      ∀ o, o = tryInflateAndDispatch P post magicNumber encodedPayload
          { c with workhorse := rest } s →
        c.handle P post event s
          = (o.effects, shutdownIfThrown o.result o.connection, o.surroundings) := by
  cases event with
  | work =>
    rw [handledFrame] at h
    split at h
    case isTrue => cases h
    case isFalse hdown =>
      split at h
      case h_2 => cases h
      case h_1 magicNumber' encodedPayload' rest hhead =>
        obtain ⟨rfl, rfl⟩ := Prod.mk.inj (Option.some.inj h)
        refine ⟨rest, by simpa using hdown, rfl, hhead, ?_⟩
        rintro o rfl
        simp only [handle, work, hhead, inflateAndDispatch]
        rw [if_neg (by exact hdown)]
  | _ => cases h

/-- **No frame, no change of standing.** -/
theorem standing_handle {c : InterserverConnection Φ} {event : Event}
    (h : c.handledFrame event = none) (s : σ) :
    (c.handle P post event s).2.1.standing = c.standing := by
  cases event with
  | work =>
    simp only [handle, work]
    split
    case h_1 => rfl
    case h_2 magicNumber encodedPayload rest hhead =>
      have hdown : c.hasBeenShutdown = true := by
        simpa [handledFrame, hhead] using h
      rw [inflateAndDispatch, if_pos (by exact hdown)]
      rfl
    case h_3 magicNumber magicPayload rest hhead =>
      exact standing_deflateAndSend P magicNumber magicPayload _
  | receiveData => rfl
  | receiveControl statusCode param => exact standing_layer5OnReceiveControl P statusCode param c
  | sendRequest msg thrown => exact standing_sendRequest P msg thrown c
  | sendNotification msg thrown => exact standing_sendNotification msg thrown c
  | perform job handled => exact standing_performJob P job handled _
  | drop => rfl
  | shutdown => rfl
  | close => exact standing_layer4OnClose c

/-- **No frame, no change of the surroundings.** -/
theorem surroundings_handle {c : InterserverConnection Φ} {event : Event}
    (h : c.handledFrame event = none) (s : σ) : (c.handle P post event s).2.2 = s := by
  cases event with
  | work =>
    simp only [handle, work]
    split
    case h_1 => rfl
    case h_2 magicNumber encodedPayload rest hhead =>
      have hdown : c.hasBeenShutdown = true := by
        simpa [handledFrame, hhead] using h
      rw [inflateAndDispatch, if_pos (by exact hdown)]
    case h_3 => rfl
  | _ => rfl

/-! ## A shutdown is for good -/

theorem hasBeenShutdown_shutdown (c : InterserverConnection Φ) (errCode : Int64)
    (errMsg : String) : (c.shutdown errCode errMsg).hasBeenShutdown = true := by
  cases h : c.shutdownWith <;> simp [hasBeenShutdown, shutdown, h]

theorem hasBeenShutdown_of_error (e : Exception) (c : InterserverConnection Φ) :
    (shutdownIfThrown (.error e) c).hasBeenShutdown = true :=
  hasBeenShutdown_shutdown c e.statusCode e.what

theorem hasBeenShutdown_handle {c : InterserverConnection Φ} (h : c.hasBeenShutdown = true)
    (event : Event) (s : σ) : (c.handle P post event s).2.1.hasBeenShutdown = true := by
  cases event with
  | work =>
    simp only [handle, work]
    split
    case h_1 => exact h
    case h_2 => rwa [inflateAndDispatch, if_pos (by exact h)]
    case h_3 => rwa [deflateAndSend, if_pos (by exact h)]
  | receiveControl statusCode param =>
    simp only [handle, layer5OnReceiveControl]
    repeat' split
    · exact hasBeenShutdown_shutdown ..
    all_goals exact h
  | sendRequest msg thrown =>
    simp only [handle, sendRequest]
    repeat' split
    all_goals exact h
  | sendNotification msg thrown =>
    simp only [handle, sendNotification]
    repeat' split
    all_goals exact h
  | perform job handled =>
    simp only [handle, performJob, sendResponse]
    repeat' split
    all_goals first | exact hasBeenShutdown_shutdown .. | exact h
  | close =>
    simp only [handle, layer4OnClose]
    split <;> exact h
  | shutdown => exact hasBeenShutdown_shutdown ..
  | receiveData | drop => exact h

/-! ## The jobs of the workhorse thread -/

/-- The jobs of the workhorse thread wait in their order. -/
theorem workhorse_handle {c : InterserverConnection Φ} {event : Event} (h : event ≠ .work)
    (s : σ) :
    c.workhorse <+: (c.handle P post event s).2.1.workhorse := by
  cases event with
  | work => exact absurd rfl h
  | receiveData => exact List.prefix_append _ _
  | receiveControl statusCode param =>
    simp only [handle, layer5OnReceiveControl]
    repeat' split
    all_goals exact List.prefix_rfl
  | sendRequest msg thrown =>
    simp only [handle, sendRequest]
    repeat' split
    all_goals first | exact List.prefix_rfl | exact List.prefix_append _ _
  | sendNotification msg thrown =>
    simp only [handle, sendNotification]
    repeat' split
    all_goals first | exact List.prefix_rfl | exact List.prefix_append _ _
  | perform job handled =>
    simp only [handle, performJob, sendResponse]
    repeat' split
    all_goals first | exact List.prefix_rfl | exact List.prefix_append _ _
  | close =>
    simp only [handle, layer4OnClose]
    split <;> exact List.prefix_rfl
  | drop | shutdown => exact List.prefix_rfl

/-- A frame that is taken in may launch another job. -/
theorem workhorse_inflateAndDispatch (magicNumber : UInt16) (encodedPayload : Bytes)
    (c : InterserverConnection Φ) (s : σ) : c.workhorse
      <+: (c.inflateAndDispatch P post magicNumber encodedPayload s).2.1.workhorse := by
  rw [inflateAndDispatch]
  split
  case isTrue => exact List.prefix_rfl
  case isFalse =>
    have hthrown (result : Except Exception Unit) (c : InterserverConnection Φ) :
        (shutdownIfThrown result c).workhorse = c.workhorse := by cases result <;> rfl
    rw [hthrown]
    have hspec := tryInflateAndDispatch_spec P post magicNumber encodedPayload c s
    generalize tryInflateAndDispatch P post magicNumber encodedPayload c s = o at hspec
    cases hspec with
    | clientHello _ h =>
      cases h with
      | refused => exact List.prefix_rfl
      | halted | accepted => exact List.prefix_append _ _
    | serverHello _ h =>
      cases h with
      | refused | halted | accepted => exact List.prefix_rfl
    | unread => exact List.prefix_rfl
    | read =>
      simp only [dispatch]
      repeat' split
      all_goals exact List.prefix_rfl

/-! ## What an event does to the standing -/

/-- **What an event does to the standing of a connection and to its surroundings**: nothing, or it
is the hello of a client, or one of a server. -/
inductive Greeted (c : InterserverConnection Φ) (event : Event) (s : σ) :
    InterserverConnection Φ → σ → Prop
  /-- A hello that is refused shuts the connection down. -/
  | kept {c' : InterserverConnection Φ} (hstanding : c'.standing = c.standing)
      (hrefused : ∀ frame, c.handledFrame event = some frame → isUser frame.1 = false →
        c'.hasBeenShutdown = true) : Greeted c event s c' s
  | clientHello {c' : InterserverConnection Φ} (encodedPayload : Bytes) (msg : ClientHello)
      (hframe : c.handledFrame event = some (ClientHello.id, encodedPayload))
      (hverifies : c.VerifiesClientHello P encodedPayload msg)
      (hunset : c.isConnectionUuidSet = false) (authenticated : Bool)
      (hstanding : c'.standing = ⟨c.applicationKey, authenticated, msg.connectionUuid,
        msg.timestamp, (optionsOf msg.optionsReq).map fun o => (o.1, [])⟩)
      (houtcome : authenticated = true ∧ msg.connectionUuid ≠ 0 ∧
          (post msg.connectionUuid s).1 = .ok () ∨
        authenticated = c.authenticated ∧ c'.hasBeenShutdown = true) :
      Greeted c event s c' (post msg.connectionUuid s).2
  | serverHello {c' : InterserverConnection Φ} (encodedPayload : Bytes) (msg : ServerHello)
      (hframe : c.handledFrame event = some (ServerHello.id, encodedPayload))
      (hverifies : c.VerifiesServerHello P encodedPayload msg)
      (hset : c.isConnectionUuidSet = true) (authenticated : Bool)
      (hstanding : c'.standing = ⟨c.applicationKey, authenticated, c.connectionUuid,
        c.timestamp, optionsOf msg.optionsResp⟩)
      (houtcome : authenticated = true ∧ (post c.connectionUuid s).1 = .ok () ∨
        authenticated = c.authenticated ∧ c'.hasBeenShutdown = true) :
      Greeted c event s c' (post c.connectionUuid s).2

theorem greeted_handle (c : InterserverConnection Φ) (event : Event) (s : σ) :
    Greeted P post c event s (c.handle P post event s).2.1 (c.handle P post event s).2.2 := by
  cases hframe : c.handledFrame event with
  | none =>
    rw [surroundings_handle P post hframe]
    exact .kept (standing_handle P post hframe s) fun frame h => absurd h (by simp [hframe])
  | some frame =>
    obtain ⟨magicNumber, encodedPayload⟩ := frame
    obtain ⟨rest, -, -, -, hhandle⟩ := handle_of_handledFrame P post hframe s
    rw [hhandle _ rfl]
    have hspec := tryInflateAndDispatch_spec P post magicNumber encodedPayload
      { c with workhorse := rest } s
    generalize tryInflateAndDispatch P post magicNumber encodedPayload
      { c with workhorse := rest } s
      = o at hspec ⊢
    have hdown (e : Exception) (c' : InterserverConnection Φ) :=
      hasBeenShutdown_of_error (Φ := Φ) e c'
    rcases hspec with ⟨rfl, h⟩ | ⟨rfl, h⟩ | ⟨messageFilter, e, -⟩ |
      ⟨magicPayload, filter, huser, -⟩
    · rcases h with ⟨e, effects, -⟩ | ⟨msg, hverifies, hunset, e⟩ |
        ⟨msg, hverifies, hunset, hset, hposted⟩
      · exact .kept (standing_shutdownIfThrown _ _) fun _ _ _ => hdown e _
      · exact .clientHello encodedPayload msg hframe ⟨hverifies.reads, hverifies.checksum⟩ hunset
          c.authenticated rfl (.inr ⟨rfl, hdown e _⟩)
      · exact .clientHello encodedPayload msg hframe ⟨hverifies.reads, hverifies.checksum⟩ hunset
          true rfl (.inl ⟨rfl, hset, hposted⟩)
    · rcases h with ⟨e, effects, -⟩ | ⟨msg, hverifies, hset, e⟩ | ⟨msg, hverifies, hset, hposted⟩
      · exact .kept (standing_shutdownIfThrown _ _) fun _ _ _ => hdown e _
      · exact .serverHello encodedPayload msg hframe ⟨hverifies.reads, hverifies.checksum⟩ hset
          c.authenticated rfl (.inr ⟨rfl, hdown e _⟩)
      · exact .serverHello encodedPayload msg hframe ⟨hverifies.reads, hverifies.checksum⟩ hset
          true rfl (.inl ⟨rfl, hposted⟩)
    · exact .kept rfl fun _ _ _ => hdown e _
    · refine .kept ((standing_shutdownIfThrown _ _).trans (standing_dispatch ..)) ?_
      intro frame hframe' hhello
      obtain rfl := Option.some.inj (hframe.symm.trans hframe')
      exact absurd (huser.symm.trans hhello) (by decide)

end InterserverConnection

end Circe.Common
