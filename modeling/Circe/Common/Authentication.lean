import Circe.Common.Standing
import Circe.Common.WireFormat

/-!
# Common/Authentication — what reaches servlets before the handshake

`inflate_and_dispatch` does not look at `m_authenticated` before it dispatches a user-defined frame
(`layer5_on_receive_control` asserts it).  So a user-defined frame that comes up before the hello is
decoded and dispatched like any other (`not_noDispatchBeforeAuthentication`).  Hellos dispatch
nothing, hence `NoDispatchBeforeAuthentication` holds of the runs in which the peer leaves its
user-defined frames until the handshake is done (`noDispatchBeforeAuthentication_of_spares`).
-/

namespace Circe.Common

/-- A user-defined request or notification on its way to a servlet, or a user-defined response on
its way to a requester. -/
def Effect.dispatches : Effect → Bool
  | .enqueued _ | .settled _ (.ok _) => true
  | _ => false

namespace InterserverConnection

variable {Φ σ : Type} (P : Platform Φ) (post : Uuid → σ → Except Exception Unit × σ)

/-- **The condition**: no user-defined frame comes up while the handshake is not done. -/
def SparesUnauthenticated (c : InterserverConnection Φ) (event : Event) : Prop :=
  c.authenticated = false → ∀ frame ∈ c.handledFrame event, isUser frame.1 = false

instance (c : InterserverConnection Φ) : DecidablePred c.SparesUnauthenticated := fun event =>
  inferInstanceAs (Decidable (_ → ∀ frame ∈ c.handledFrame event, _))

/-- The step handles the hello its side waits for, and the checksum verifies. -/
def Authenticates (c : InterserverConnection Φ) (event : Event) : Side → Prop
  | .server => ∃ encodedPayload msg,
      c.handledFrame event = some (ClientHello.id, encodedPayload) ∧
        c.VerifiesClientHello P encodedPayload msg
  | .client => ∃ encodedPayload msg,
      c.handledFrame event = some (ServerHello.id, encodedPayload) ∧
        c.VerifiesServerHello P encodedPayload msg

/-- A server's connection as the acceptor makes it, a client's after `layer7_client_say_hello`. -/
def Started (c : InterserverConnection Φ) : Side → Prop
  | .server => ∃ applicationKey, c = .new applicationKey
  | .client => ∃ applicationKey connectionUuid timestamp optionsReq, connectionUuid ≠ 0 ∧
      c = ((new applicationKey).layer7ClientSayHello P connectionUuid timestamp optionsReq).2

/-! ## What a frame dispatches -/

theorem not_dispatches_of_hello {effects : List Effect} {magicNumber : UInt16}
    {encodedPayload : Bytes}
    (h : effects.Sublist [.received magicNumber encodedPayload encodedPayload]) :
    ¬ ∃ e ∈ effects, e.dispatches = true := by
  rintro ⟨e, he, hdispatches⟩
  obtain rfl := List.mem_singleton.mp (h.subset he)
  exact absurd hdispatches (by simp [Effect.dispatches])

theorem ClientHelloHandled.not_dispatches {encodedPayload : Bytes} {c : InterserverConnection Φ}
    {s : σ} {o : Outcome σ Φ} (h : ClientHelloHandled P post encodedPayload c s o) :
    ¬ ∃ e ∈ o.effects, e.dispatches = true := by
  cases h with
  | refused e effects heffects => exact not_dispatches_of_hello heffects
  | halted => exact not_dispatches_of_hello (List.Sublist.refl _)
  | accepted => exact not_dispatches_of_hello (List.Sublist.refl _)

theorem ServerHelloHandled.not_dispatches {encodedPayload : Bytes} {c : InterserverConnection Φ}
    {s : σ} {o : Outcome σ Φ} (h : ServerHelloHandled P post encodedPayload c s o) :
    ¬ ∃ e ∈ o.effects, e.dispatches = true := by
  cases h with
  | refused e effects heffects => exact not_dispatches_of_hello heffects
  | halted => exact not_dispatches_of_hello (List.Sublist.refl _)
  | accepted => exact not_dispatches_of_hello (List.Sublist.refl _)

theorem not_dispatches_deflateAndSend (magicNumber : UInt16) (magicPayload : Bytes)
    (c : InterserverConnection Φ) :
    ¬ ∃ e ∈ (c.deflateAndSend P magicNumber magicPayload).1, e.dispatches = true := by
  simp only [deflateAndSend, tryDeflateAndSend]
  repeat' split
  all_goals simp [Effect.dispatches]

/-- Without a frame nothing is dispatched. -/
theorem not_dispatches_handle {c : InterserverConnection Φ} {event : Event}
    (h : c.handledFrame event = none) (s : σ) :
    ¬ ∃ e ∈ (c.handle P post event s).1, e.dispatches = true := by
  cases event with
  | work =>
    simp only [handle, work]
    split
    case h_1 => simp
    case h_2 magicNumber encodedPayload rest hhead =>
      have hdown : c.hasBeenShutdown = true := by simpa [handledFrame, hhead] using h
      rw [inflateAndDispatch, if_pos (by exact hdown)]
      simp
    case h_3 magicNumber magicPayload rest hhead =>
      exact not_dispatches_deflateAndSend P magicNumber magicPayload _
  | receiveControl statusCode param =>
    simp only [handle, layer5OnReceiveControl]
    repeat' split
    all_goals simp [Effect.dispatches]
  | sendRequest msg thrown =>
    simp only [handle, sendRequest]
    repeat' split
    all_goals simp [Effect.dispatches]
  | sendNotification msg thrown =>
    simp only [handle, sendNotification]
    repeat' split
    all_goals simp [Effect.dispatches]
  | perform job handled => simp [handle, performJob, Effect.dispatches]
  | close =>
    simp only [handle, layer4OnClose]
    split <;> simp [Effect.dispatches]
  | receiveData | drop | shutdown => simp [handle]

/-- **Only a user-defined frame is dispatched**: hellos have receivers of their own, and what has a
reserved flag is refused before it is decoded. -/
theorem isUser_of_dispatches {c : InterserverConnection Φ} {event : Event} {s : σ}
    (h : ∃ e ∈ (c.handle P post event s).1, e.dispatches = true) :
    ∃ frame ∈ c.handledFrame event, isUser frame.1 = true := by
  cases hframe : c.handledFrame event with
  | none => exact absurd h (not_dispatches_handle P post hframe s)
  | some frame =>
    obtain ⟨magicNumber, encodedPayload⟩ := frame
    refine ⟨_, rfl, ?_⟩
    by_contra hreserved
    rw [Bool.not_eq_true] at hreserved
    obtain ⟨rest, -, -, -, hhandle⟩ := handle_of_handledFrame P post hframe s
    rw [hhandle _ rfl] at h
    simp only [tryInflateAndDispatch] at h
    split at h
    case isTrue => exact (receiveClientHello_spec P post encodedPayload _ s).not_dispatches _ _ h
    case isFalse =>
      split at h
      case isTrue => exact (receiveServerHello_spec P post encodedPayload _ s).not_dispatches _ _ h
      case isFalse =>
        rw [receiveUserFrame_of_flags P hreserved] at h
        simp at h

/-! ## Who sets the flag -/

/-- On a server the UUID is set by the `Client_hello` that authenticates, or the connection was shut
down on the spot; on a client it is set from the start. -/
def SideInv (c : InterserverConnection Φ) : Side → Prop
  | .server => c.isConnectionUuidSet = true → c.authenticated = true ∨ c.hasBeenShutdown = true
  | .client => c.isConnectionUuidSet = true

theorem Started.sideInv {c : InterserverConnection Φ} {side : Side} (h : c.Started P side) :
    c.SideInv side ∧ c.authenticated = false := by
  cases side with
  | server =>
    obtain ⟨applicationKey, rfl⟩ := h
    exact ⟨fun hset => absurd hset (by simp [isConnectionUuidSet, new]), rfl⟩
  | client =>
    obtain ⟨applicationKey, connectionUuid, timestamp, optionsReq, huuid, rfl⟩ := h
    exact ⟨by simpa [SideInv, isConnectionUuidSet, layer7ClientSayHello, new] using huuid, rfl⟩

theorem SideInv.of_standing {c d : InterserverConnection Φ} {side : Side} (h : c.SideInv side)
    (hstanding : d.standing = c.standing)
    (hdown : c.hasBeenShutdown = true → d.hasBeenShutdown = true) : d.SideInv side := by
  have hauthenticated : d.authenticated = c.authenticated :=
    congrArg Standing.authenticated hstanding
  have huuid : d.isConnectionUuidSet = c.isConnectionUuidSet :=
    congrArg (fun s : Standing => s.connectionUuid != 0) hstanding
  cases side with
  | client => exact huuid.trans h
  | server => exact fun hset => (h (huuid ▸ hset)).imp hauthenticated.trans hdown

/-- **Only a verified hello authenticates**: on each side the one it waits for. -/
theorem Greeted.sideInv {c c' : InterserverConnection Φ} {event : Event} {s s' : σ} {side : Side}
    (h : Greeted P post c event s c' s') (hinv : c.SideInv side)
    (hdown : c.hasBeenShutdown = true → c'.hasBeenShutdown = true) :
    c'.SideInv side ∧
      (c'.authenticated = true → c.authenticated = true ∨ c.Authenticates P event side) := by
  cases h with
  | kept hstanding =>
    exact ⟨hinv.of_standing hstanding hdown,
      fun h => .inl ((congrArg Standing.authenticated hstanding).symm.trans h)⟩
  | clientHello encodedPayload msg hframe hverifies hunset authenticated hstanding houtcome =>
    cases side with
    | client => exact absurd (hinv.symm.trans hunset) (by decide)
    | server =>
      refine ⟨fun _ => ?_, fun _ => .inr ⟨encodedPayload, msg, hframe, hverifies⟩⟩
      exact houtcome.imp (fun h => (congrArg Standing.authenticated hstanding).trans h.1) And.right
  | serverHello encodedPayload msg hframe hverifies hset authenticated hstanding houtcome =>
    cases side with
    | client =>
      refine ⟨?_, fun _ => .inr ⟨encodedPayload, msg, hframe, hverifies⟩⟩
      exact (congrArg (fun s : Standing => s.connectionUuid != 0) hstanding).trans hset
    | server =>
      refine ⟨fun _ => ?_, fun _ => .inl ?_⟩
      · exact houtcome.imp (fun h => (congrArg Standing.authenticated hstanding).trans h.1)
          And.right
      · -- A server that is up and has a UUID was authenticated with it.
        obtain ⟨rest, hup, -⟩ := handle_of_handledFrame P post hframe s
        exact (hinv hset).resolve_right fun h => absurd (h.symm.trans hup) (by decide)

end InterserverConnection

variable {Φ σ : Type} {P : Platform Φ} {post : Uuid → σ → Except Exception Unit × σ}
  {x y z : InterserverConnection Φ × σ} {l : Label} {ls : List Label} {side : Side}

open InterserverConnection

theorem Step.sideInv (hstep : Step P post x l y) (hinv : x.1.SideInv side) :
    y.1.SideInv side ∧
      (y.1.authenticated = true → x.1.authenticated = true ∨ x.1.Authenticates P l.event side) := by
  obtain ⟨c, s⟩ := x
  have hgreeted := greeted_handle P post c l.event s
  have hdown := fun hc : c.hasBeenShutdown = true => hasBeenShutdown_handle P post hc l.event s
  rw [hstep.2] at hgreeted hdown
  exact hgreeted.sideInv P post hinv hdown

/-! ## Runs -/

/-- An authenticated connection handled a verified hello on its way. -/
theorem authenticates_of_run (hstarted : x.1.Started P side) (hrun : Lts.Run (Step P post) x ls y) :
    y.1.SideInv side ∧ (y.1.authenticated = true → ∃ pre l rest, ls = pre ++ l :: rest ∧
      ∃ u, Lts.Run (Step P post) x pre u ∧ u.1.Authenticates P l.event side) := by
  induction hrun with
  | nil =>
    obtain ⟨hinv, hauthenticated⟩ := hstarted.sideInv
    exact ⟨hinv, fun h => absurd (h.symm.trans hauthenticated) (by decide)⟩
  | @snoc u v ls l hpre hlast ih =>
    obtain ⟨hinv, hstep⟩ := hlast.sideInv ih.1
    refine ⟨hinv, fun hv => ?_⟩
    rcases hstep hv with hu | hu
    · obtain ⟨pre, m, rest, rfl, hm⟩ := ih.2 hu
      exact ⟨pre, m, rest ++ [l], by simp, hm⟩
    · exact ⟨ls, l, [], rfl, u, hpre, hu⟩

/-- **No dispatch before authentication**: whenever a step of the run dispatches a user-defined
message, the connection was authenticated before, by a verified hello earlier in the run. -/
def NoDispatchBeforeAuthentication (P : Platform Φ) (post : Uuid → σ → Except Exception Unit × σ)
    (side : Side) (x : InterserverConnection Φ × σ) (ls : List Label) : Prop :=
  ∀ pre l rest, ls = pre ++ l :: rest → ∀ y z, Lts.Run (Step P post) x pre y → Step P post y l z →
    (∃ e ∈ l.effects, e.dispatches = true) →
      y.1.authenticated = true ∧ ∃ pre' m rest', pre = pre' ++ m :: rest' ∧
        ∃ u, Lts.Run (Step P post) x pre' u ∧ u.1.Authenticates P m.event side

/-- **In every run that spares unauthenticated connections, nothing is dispatched before the
handshake.** -/
theorem noDispatchBeforeAuthentication_of_spares (hstarted : x.1.Started P side)
    (hrun : Lts.Run (Lts.Guarded (Step P post) fun y l => y.1.SparesUnauthenticated l.event)
      x ls z) :
    NoDispatchBeforeAuthentication P post side x ls := by
  rintro pre l rest rfl y t hpre hstep hdispatches
  obtain ⟨y', _, hpre', hguard, -⟩ := hrun.split
  have hy : y = y' := Lts.Run.unique (fun h h' => h.unique h') hpre hpre'.of_guarded
  subst hy
  rw [show l.effects = (y.1.handle P post l.event y.2).1 by rw [hstep.2]] at hdispatches
  obtain ⟨frame, hframe, huser⟩ := isUser_of_dispatches P post hdispatches
  have hauthenticated : y.1.authenticated = true := by
    by_contra hunauthenticated
    have hspared := hguard.1 (by simpa using hunauthenticated) frame hframe
    exact absurd (huser.symm.trans hspared) (by decide)
  exact ⟨hauthenticated, (authenticates_of_run hstarted hpre).2 hauthenticated⟩

/-! ## A notification before the hello -/

/-- The connections of an acceptor that takes every UUID. -/
abbrev takesAll (_ : Uuid) (s : Unit) : Except Exception Unit × Unit := (.ok (), s)

/-- What a connection made with the key `"k"` does in the course of some events. -/
def trialTrace (events : List Event) : List Label :=
  Lts.trace (next trialPlatform takesAll) (.new trialKey, ()) events

/-- The frame of a notification, its payload one byte, under the seed every connection starts
with. -/
def earlyNotification : Event :=
  .receiveData 0x0001 [0xcf, 0x37, 0x9c, 0xd8, 0x6d, 0x17, 0x46, 0x16, 0x54]

theorem not_noDispatchBeforeAuthentication :
    ∃ z, Lts.Run (Step trialPlatform takesAll) (.new trialKey, ())
        (trialTrace [earlyNotification, .work]) z ∧
      ¬ NoDispatchBeforeAuthentication trialPlatform takesAll .server (.new trialKey, ())
        (trialTrace [earlyNotification, .work]) := by
  have hrun (events : List Event) := Lts.Run.of_admits (next trialPlatform takesAll)
    (fun x event => x.1.Enabled event) (step_next _ _) (.new trialKey, ()) events
  refine ⟨_, hrun _ (by decide +kernel), fun h => ?_⟩
  have hearly := (h [_] _ [] rfl _ _ (hrun [earlyNotification] (by decide +kernel))
    (step_next _ .work (by decide +kernel)) (by decide +kernel)).1
  exact absurd hearly (by decide +kernel)

/-- The `Client_hello` of an honest client, and its first notification. -/
def honestFrames : List Event :=
  [.receiveData ClientHello.id (clientHelloFormat.serialize
      ⟨trialUuid, trialTimestamp,
        trialPlatform.calculateChecksum trialKey saltClientHello trialUuid trialTimestamp, []⟩),
    .work, .work,
    .receiveData 0x0005 [0xd6, 0x38, 0xea, 0x70, 0xa2, 0xcd, 0xf7, 0x43, 0xf1, 0xf4], .work]

theorem noDispatchBeforeAuthentication_honest :
    NoDispatchBeforeAuthentication trialPlatform takesAll .server (.new trialKey, ())
        (trialTrace honestFrames) ∧
      (trialTrace honestFrames).getLast?.map Label.effects
        = some [.received 0x0005 [0xd6, 0x38, 0xea, 0x70, 0xa2, 0xcd, 0xf7, 0x43, 0xf1,
          0xf4] [1, 1],
          .enqueued ⟨5, false, 0xDEADBEEF, [1, 1]⟩] := by
  have hguarded : Lts.Run (Lts.Guarded (Step trialPlatform takesAll) fun x l =>
      x.1.SparesUnauthenticated l.event) (.new trialKey, ()) (trialTrace honestFrames)
        _ :=
    Lts.Run.of_admits (next trialPlatform takesAll)
      (fun x event => x.1.SparesUnauthenticated event ∧ x.1.Enabled event)
      (fun h => ⟨h.1, step_next _ _ h.2⟩) (.new trialKey, ()) honestFrames (by decide +kernel)
  have hstarted : (new trialKey : InterserverConnection MessageFilter).Started trialPlatform
      .server := ⟨trialKey, rfl⟩
  exact ⟨noDispatchBeforeAuthentication_of_spares hstarted hguarded, by decide +kernel⟩

end Circe.Common
