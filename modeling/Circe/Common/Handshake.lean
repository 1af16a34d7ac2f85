import Circe.Common.Authentication
import Circe.Common.Transport

/-!
# Common/Handshake — how often a handshake takes effect

`server_accept_hello` refuses a second hello, since it tests `m_connection_uuid`.  The test in
`client_accept_hello` is the same one the other way round: it is set on a client from
`layer7_client_say_hello` on, and on a server once it accepted a hello.  So a `Server_hello` that
verifies is taken each time it comes up, and by a server too: `HandshakeOnce` holds of the runs in
which none comes up after the handshake, and of no others (`handshakeOnce_iff`).
-/

namespace Circe.Common

namespace InterserverConnection

variable {Φ σ : Type} (P : Platform Φ) (post : Uuid → σ → Except Exception Unit × σ)

/-! ## What an event does to the filter -/

/-- A connection without a UUID is as authenticated as before. -/
def KeepsUnset (c c' : InterserverConnection Φ) : Prop :=
  c.isConnectionUuidSet = false → c'.authenticated = c.authenticated

/-- **What an event does to the filter of a connection.** -/
inductive FilterMoved (c : InterserverConnection Φ) (event : Event) (c' : InterserverConnection Φ) :
    Prop
  | kept (hunset : KeepsUnset c c') (h : c'.requireMessageFilter P = c.requireMessageFilter P)
  | decoded (hunset : KeepsUnset c c') (encodedPayload : Bytes)
      (h : c'.requireMessageFilter P
        = (P.filter.decode (c.requireMessageFilter P) encodedPayload).2)
  | encoded (hunset : KeepsUnset c c') (magicPayload : Bytes)
      (h : c'.requireMessageFilter P
        = (P.filter.encode (c.requireMessageFilter P) magicPayload).2)
  /-- A `Client_hello` was sent. -/
  | reseededEncoder (hset : c.isConnectionUuidSet = true) (magicPayload : Bytes)
      (hsent : event = .work ∧ ∃ rest,
        c.workhorse = .deflateAndSend ClientHello.id magicPayload :: rest)
      (h : c'.requireMessageFilter P
        = P.filter.reseedEncoderPrng (c.requireMessageFilter P) (c.normalDataSeed P))
  /-- A `Client_hello` was accepted. -/
  | reseededDecoder (hunset : c.isConnectionUuidSet = false)
      (h : c'.requireMessageFilter P
        = P.filter.reseedDecoderPrng (c.requireMessageFilter P) (c'.normalDataSeed P))

variable {P}

/-- The filter is what it was when the job was still in the queue. -/
theorem FilterMoved.of_filter {c c' : InterserverConnection Φ} {event : Event}
    (h : c'.messageFilter = c.messageFilter) (hkey : c'.applicationKey = c.applicationKey)
    (hunset : KeepsUnset c c') : FilterMoved P c event c' := by
  refine .kept hunset ?_
  rw [requireMessageFilter, requireMessageFilter, h, hkey]

theorem filterMoved_inflateAndDispatch (magicNumber : UInt16) (encodedPayload : Bytes)
    (rest : List Task) (c : InterserverConnection Φ) (event : Event) (s : σ) :
    FilterMoved P c event (({ c with workhorse := rest }).inflateAndDispatch P post magicNumber
      encodedPayload s).2.1 := by
  rw [inflateAndDispatch]
  split
  case isTrue => exact .of_filter rfl rfl fun _ => rfl
  case isFalse =>
    dsimp only
    rw [tryInflateAndDispatch]
    split
    case isTrue =>
      have hspec := receiveClientHello_spec P post encodedPayload { c with workhorse := rest } s
      generalize receiveClientHello P post encodedPayload { c with workhorse := rest } s = o
        at hspec ⊢
      rcases hspec with _ | _ | ⟨msg, -, hunset, -⟩
      · exact .of_filter rfl rfl fun _ => rfl
      · exact .of_filter rfl rfl fun _ => rfl
      · exact .reseededDecoder hunset rfl
    case isFalse =>
      split
      case isTrue =>
        have hspec := receiveServerHello_spec P post encodedPayload { c with workhorse := rest } s
        generalize receiveServerHello P post encodedPayload { c with workhorse := rest } s = o
          at hspec ⊢
        rcases hspec with _ | _ | ⟨msg, -, hset, -⟩
        · exact .of_filter rfl rfl fun _ => rfl
        · exact .of_filter rfl rfl fun _ => rfl
        · exact .of_filter rfl rfl fun hunset => absurd (hunset.symm.trans hset) (by decide)
      case isFalse =>
        simp only [receiveUserFrame]
        split
        case isFalse => exact .of_filter rfl rfl fun _ => rfl
        case isTrue =>
          refine .decoded (fun _ => ?_) encodedPayload ?_
          · split
            case h_1 => rfl
            case h_2 =>
              exact congrArg Standing.authenticated
                ((standing_shutdownIfThrown _ _).trans (standing_dispatch ..))
          · split
            case h_1 => rfl
            case h_2 =>
              rw [requireMessageFilter_shutdownIfThrown, requireMessageFilter_dispatch]
              rfl

theorem filterMoved_deflateAndSend {magicNumber : UInt16} {magicPayload : Bytes}
    {c : InterserverConnection Φ} {rest : List Task}
    (hhead : c.workhorse = .deflateAndSend magicNumber magicPayload :: rest) :
    FilterMoved P c .work
      (({ c with workhorse := rest }).deflateAndSend P magicNumber magicPayload).2 := by
  rw [deflateAndSend]
  split
  case isTrue => exact .of_filter rfl rfl fun _ => rfl
  case isFalse =>
    simp only [tryDeflateAndSend]
    split
    case isTrue hclient =>
      subst hclient
      split
      case isTrue hset => exact .reseededEncoder hset magicPayload ⟨rfl, rest, hhead⟩ rfl
      case isFalse => exact .of_filter rfl rfl fun _ => rfl
    case isFalse =>
      split
      case isTrue =>
        split <;> exact .of_filter rfl rfl fun _ => rfl
      case isFalse =>
        split
        case isFalse => exact .of_filter rfl rfl fun _ => rfl
        case isTrue =>
          refine .encoded (fun _ => ?_) magicPayload ?_ <;> split <;> rfl

theorem filterMoved_handle (c : InterserverConnection Φ) (event : Event) (s : σ) :
    FilterMoved P c event (c.handle P post event s).2.1 := by
  cases event with
  | work =>
    simp only [handle, work]
    split
    case h_1 => exact .of_filter rfl rfl fun _ => rfl
    case h_2 magicNumber encodedPayload rest hhead =>
      exact filterMoved_inflateAndDispatch post magicNumber encodedPayload rest c .work s
    case h_3 magicNumber magicPayload rest hhead => exact filterMoved_deflateAndSend hhead
  | receiveControl statusCode param =>
    simp only [handle, layer5OnReceiveControl]
    repeat' split
    all_goals exact .of_filter rfl rfl fun _ => rfl
  | sendRequest msg thrown =>
    simp only [handle, sendRequest]
    repeat' split
    all_goals exact .of_filter rfl rfl fun _ => rfl
  | sendNotification msg thrown =>
    simp only [handle, sendNotification]
    repeat' split
    all_goals exact .of_filter rfl rfl fun _ => rfl
  | perform job handled =>
    simp only [handle, performJob, sendResponse]
    repeat' split
    all_goals exact .of_filter rfl rfl fun _ => rfl
  | close =>
    simp only [handle, layer4OnClose]
    split <;> exact .of_filter rfl rfl fun _ => rfl
  | receiveData | drop | shutdown => exact .of_filter rfl rfl fun _ => rfl

end InterserverConnection

/-! ## Counting reseeds -/

/-- A filter together with how often its decoder was reseeded. -/
def FilterInterface.counting {Φ : Type} (F : FilterInterface Φ) : FilterInterface (Φ × ℕ) where
  make seed := (F.make seed, 0)
  decode f encodedPayload :=
    ((F.decode f.1 encodedPayload).1, (F.decode f.1 encodedPayload).2, f.2)
  reseedDecoderPrng f seed := (F.reseedDecoderPrng f.1 seed, f.2 + 1)
  encode f magicPayload := ((F.encode f.1 magicPayload).1, (F.encode f.1 magicPayload).2, f.2)
  reseedEncoderPrng f seed := (F.reseedEncoderPrng f.1 seed, f.2)

def Platform.counting {Φ : Type} (P : Platform Φ) : Platform (Φ × ℕ) where
  sha256 := P.sha256
  statusShutdown := P.statusShutdown
  statusPing := P.statusPing
  statusPong := P.statusPong
  clientHello := P.clientHello
  serverHello := P.serverHello
  userRequestHeader := P.userRequestHeader
  userResponseHeader := P.userResponseHeader
  filter := P.filter.counting

namespace InterserverConnection

variable {Φ σ : Type} (P : Platform Φ) (post : Uuid → σ → Except Exception Unit × σ)

/-- How often the decoder of a connection was reseeded. -/
def reseeds (c : InterserverConnection (Φ × ℕ)) : ℕ := c.messageFilter.elim 0 Prod.snd

theorem reseeds_requireMessageFilter (c : InterserverConnection (Φ × ℕ)) :
    (c.requireMessageFilter P.counting).2 = c.reseeds := by
  rw [requireMessageFilter, reseeds]
  cases c.messageFilter <;> rfl

/-- **Only the hello of a client reseeds the decoder**, and only once. -/
theorem reseeds_handle {c : InterserverConnection (Φ × ℕ)} (hset : c.isConnectionUuidSet = true)
    (event : Event) (s : σ) : (c.handle P.counting post event s).2.1.reseeds = c.reseeds := by
  rw [← reseeds_requireMessageFilter P, ← reseeds_requireMessageFilter P]
  rcases filterMoved_handle (P := P.counting) post c event s with ⟨-, h⟩ | ⟨-, _, h⟩ |
    ⟨-, _, h⟩ | ⟨-, _, -, h⟩ | ⟨hunset, -⟩
  · rw [h]
  · rw [h]
    rfl
  · rw [h]
    rfl
  · rw [h]
    rfl
  · exact absurd (hunset.symm.trans hset) (by decide)

/-! ## A hello taken -/

theorem toOption_eq_some_iff {ε α : Type} {x : Except ε α} {a : α} :
    x.toOption = some a ↔ x = .ok a := by
  cases x <;> simp [Except.toOption]

/-- `client_accept_hello` takes effect: a `Server_hello` comes up and verifies. -/
def AcceptsServerHello (c : InterserverConnection Φ) (event : Event) : Prop :=
  c.isConnectionUuidSet = true ∧ ∃ encodedPayload msg,
    c.handledFrame event = some (ServerHello.id, encodedPayload) ∧
      c.VerifiesServerHello P encodedPayload msg

instance (c : InterserverConnection Φ) : DecidablePred (c.AcceptsServerHello P) := fun event =>
  decidable_of_iff (c.isConnectionUuidSet = true ∧ ∃ frame ∈ c.handledFrame event,
      frame.1 = ServerHello.id ∧ ∃ read ∈ (P.serverHello.deserialize frame.2).toOption,
        read.1.checksumResp
          = P.calculateChecksum c.applicationKey saltServerHello c.connectionUuid c.timestamp) <| by
    refine and_congr_right fun _ => ⟨?_, ?_⟩
    · rintro ⟨⟨magicNumber, encodedPayload⟩, hframe, rfl, ⟨msg, rest⟩, hread, hchecksum⟩
      refine ⟨encodedPayload, msg, hframe, ⟨rest, ?_⟩, hchecksum⟩
      exact toOption_eq_some_iff.mp hread
    · rintro ⟨encodedPayload, msg, hframe, ⟨rest, hread⟩, hchecksum⟩
      exact ⟨_, hframe, rfl, ⟨msg, rest⟩, toOption_eq_some_iff.mpr hread, hchecksum⟩

/-- **The condition**: once the handshake is done, no `Server_hello` that verifies comes up. -/
def SparesAuthenticated (c : InterserverConnection Φ) (event : Event) : Prop :=
  c.authenticated = true → ¬ c.AcceptsServerHello P event

instance (c : InterserverConnection Φ) : DecidablePred (c.SparesAuthenticated P) := fun _ =>
  inferInstanceAs (Decidable (_ → ¬ _))

/-- What the handshake settled. -/
structure SameHandshake (c c' : InterserverConnection (Φ × ℕ)) : Prop where
  connectionUuid : c'.connectionUuid = c.connectionUuid
  timestamp : c'.timestamp = c.timestamp
  options : c'.options = c.options
  reseeds : c'.reseeds = c.reseeds

variable {P} {side : Side}

/-- A connection that is authenticated stays so, and has its UUID. -/
theorem authenticated_handle {c : InterserverConnection Φ} (h : c.authenticated = true)
    (event : Event) (s : σ) : (c.handle P post event s).2.1.authenticated = true := by
  have hgreeted := greeted_handle P post c event s
  generalize c.handle P post event s = after at hgreeted ⊢
  obtain ⟨effects, c', s'⟩ := after
  dsimp only at hgreeted ⊢
  rcases hgreeted with ⟨hstanding, -⟩ | ⟨_, _, -, -, -, authenticated, hstanding, houtcome⟩ |
    ⟨_, _, -, -, -, authenticated, hstanding, houtcome⟩
  · exact (congrArg Standing.authenticated hstanding).trans h
  · refine (congrArg Standing.authenticated hstanding).trans ?_
    rcases houtcome with ⟨htrue, -⟩ | ⟨hsame, -⟩
    · exact htrue
    · exact hsame.trans h
  · refine (congrArg Standing.authenticated hstanding).trans ?_
    rcases houtcome with ⟨htrue, -⟩ | ⟨hsame, -⟩
    · exact htrue
    · exact hsame.trans h

/-- **An event after the handshake** that brings no `Server_hello` leaves it alone. -/
theorem sameHandshake_handle {c : InterserverConnection (Φ × ℕ)}
    (hset : c.isConnectionUuidSet = true)
    {event : Event} (hspares : ¬ c.AcceptsServerHello P.counting event) (s : σ) :
    SameHandshake c (c.handle P.counting post event s).2.1 := by
  have hreseeds := reseeds_handle P post hset event s
  have hgreeted := greeted_handle P.counting post c event s
  generalize c.handle P.counting post event s = after at hreseeds hgreeted ⊢
  obtain ⟨effects, c', s'⟩ := after
  dsimp only at hreseeds hgreeted ⊢
  rcases hgreeted with ⟨hstanding, -⟩ | ⟨_, _, -, -, hunset, -⟩ |
    ⟨payload, msg, hframe, hverifies, -⟩
  · exact ⟨congrArg Standing.connectionUuid hstanding, congrArg Standing.timestamp hstanding,
      congrArg Standing.options hstanding, hreseeds⟩
  · exact absurd (hunset.symm.trans hset) (by decide)
  · exact absurd ⟨hset, payload, msg, hframe, hverifies⟩ hspares

/-- A `Server_hello` that is taken authenticates, or shuts the connection down. -/
theorem AcceptsServerHello.handle {c : InterserverConnection Φ} {event : Event}
    (h : c.AcceptsServerHello P event) (s : σ) :
    (c.handle P post event s).2.1.authenticated = true ∨
      (c.handle P post event s).2.1.hasBeenShutdown = true := by
  obtain ⟨hset, encodedPayload, msg, hframe, -⟩ := h
  have hgreeted := greeted_handle P post c event s
  generalize c.handle P post event s = after at hgreeted ⊢
  obtain ⟨effects, c', s'⟩ := after
  dsimp only at hgreeted ⊢
  rcases hgreeted with ⟨-, hrefused⟩ | ⟨_, _, -, -, hunset, -⟩ |
    ⟨_, _, -, -, -, authenticated, hstanding, houtcome⟩
  · exact .inr (hrefused _ hframe (show isUser ServerHello.id = false by decide))
  · exact absurd (hunset.symm.trans hset) (by decide)
  · rcases houtcome with ⟨htrue, -⟩ | ⟨-, hdown⟩
    · exact .inl ((congrArg Standing.authenticated hstanding).trans htrue)
    · exact .inr hdown

/-- The handshake is done, or the connection was shut down: no `Server_hello` is taken as the
first one. -/
def Concluded (c : InterserverConnection Φ) : Prop :=
  c.authenticated = true ∨ c.hasBeenShutdown = true

theorem Concluded.handle {c : InterserverConnection Φ} (h : c.Concluded) (event : Event) (s : σ) :
    (c.handle P post event s).2.1.Concluded :=
  h.imp (fun h => authenticated_handle post h event s)
    fun h => hasBeenShutdown_handle P post h event s

theorem Concluded.not_accepts {c : InterserverConnection Φ} (h : c.Concluded) {event : Event}
    (hspares : c.SparesAuthenticated P event) : ¬ c.AcceptsServerHello P event := by
  intro haccepts
  rcases h with hauthenticated | hdown
  · exact hspares hauthenticated haccepts
  · obtain ⟨-, encodedPayload, msg, hframe, -⟩ := haccepts
    rw [handledFrame_of_hasBeenShutdown hdown] at hframe
    cases hframe

/-- A server that takes a `Server_hello` is past its handshake. -/
theorem SideInv.concluded {c : InterserverConnection Φ} (h : c.SideInv .server)
    (hset : c.isConnectionUuidSet = true) : c.Concluded := h hset

end InterserverConnection

/-! ## Runs -/

open InterserverConnection

variable {Φ σ : Type} {P : Platform Φ} {post : Uuid → σ → Except Exception Unit × σ}

/-- **The handshake takes effect once**: after it, nothing it settled changes; `client_accept_hello`
takes effect at most once on a client and never on a server. -/
structure HandshakeOnce (P : Platform Φ) (post : Uuid → σ → Except Exception Unit × σ) (side : Side)
    (x : InterserverConnection (Φ × ℕ) × σ) (ls : List Label) : Prop where
  settled : ∀ pre l rest, ls = pre ++ l :: rest → ∀ y z, Lts.Run (Step P.counting post) x pre y →
    Step P.counting post y l z → y.1.authenticated = true → SameHandshake y.1 z.1
  client : side = .client → ∀ pre l mid m rest, ls = pre ++ l :: mid ++ m :: rest →
    ∀ y u, Lts.Run (Step P.counting post) x pre y →
      Lts.Run (Step P.counting post) x (pre ++ l :: mid) u →
        y.1.AcceptsServerHello P.counting l.event → ¬ u.1.AcceptsServerHello P.counting m.event
  server : side = .server → ∀ pre l rest, ls = pre ++ l :: rest →
    ∀ y, Lts.Run (Step P.counting post) x pre y → ¬ y.1.AcceptsServerHello P.counting l.event

variable {x z : InterserverConnection (Φ × ℕ) × σ} {ls : List Label} {side : Side}

/-- The UUID of an authenticated connection is set. -/
theorem isConnectionUuidSet_of_run {y : InterserverConnection Φ × σ}
    {x : InterserverConnection Φ × σ} (hstarted : x.1.Started P side)
    (hrun : Lts.Run (Step P post) x ls y) (hauthenticated : y.1.authenticated = true) :
    y.1.isConnectionUuidSet = true := by
  refine hrun.invariant (I := fun y => y.1.authenticated = true → y.1.isConnectionUuidSet = true)
    (fun {y l z} ih hstep hz => ?_) (fun h => ?_) hauthenticated
  · have hgreeted := greeted_handle P post y.1 l.event y.2
    rw [hstep.2] at hgreeted
    dsimp only at hgreeted
    generalize z.1 = c' at hz hgreeted ⊢
    generalize z.2 = s' at hgreeted
    rcases hgreeted with ⟨hstanding, -⟩ |
      ⟨_, msg, -, -, hunset, authenticated, hstanding, houtcome⟩ |
      ⟨_, _, -, -, hset, authenticated, hstanding, -⟩
    · have hset := ih ((congrArg Standing.authenticated hstanding).symm.trans hz)
      exact (congrArg (fun s : Standing => s.connectionUuid != 0) hstanding).trans hset
    · have huuid : c'.connectionUuid = msg.connectionUuid :=
        congrArg Standing.connectionUuid hstanding
      rcases houtcome with ⟨-, hset, -⟩ | ⟨hsame, -⟩
      · rw [InterserverConnection.isConnectionUuidSet, huuid]
        exact bne_iff_ne.mpr hset
      · have hold := ih (hsame.symm.trans ((congrArg Standing.authenticated
          hstanding).symm.trans hz))
        exact absurd (hunset.symm.trans hold) (by decide)
    · exact (congrArg (fun s : Standing => s.connectionUuid != 0) hstanding).trans hset
  · exact absurd (hstarted.sideInv.2.symm.trans h) (by decide)

/-- **Exactly the runs in which no `Server_hello` comes up after the handshake** have it take effect
once. -/
theorem handshakeOnce_iff (hstarted : x.1.Started P.counting side)
    (hrun : Lts.Run (Step P.counting post) x ls z) :
    HandshakeOnce P post side x ls ↔
      Lts.Run (Lts.Guarded (Step P.counting post) fun y l =>
        y.1.SparesAuthenticated P.counting l.event) x ls z := by
  have hunique {pre : List Label} {y y' : InterserverConnection (Φ × ℕ) × σ}
      (h : Lts.Run (Step P.counting post) x pre y) (h' : Lts.Run (Step P.counting post) x pre y') :
      y = y' := Lts.Run.unique (fun h h' => h.unique h') h h'
  constructor
  · intro h
    refine hrun.to_guarded fun pre l rest hls y t hpre hstep hauthenticated haccepts => ?_
    cases hside : side with
    | server => exact h.server hside pre l rest hls y hpre haccepts
    | client =>
      subst hside
      -- The hello that authenticated the client was the first one.
      obtain ⟨pre', m, mid, rfl, u, hpre', hauthenticates⟩ :=
        (authenticates_of_run hstarted hpre).2 hauthenticated
      obtain ⟨encodedPayload, msg, hframe, hverifies⟩ := hauthenticates
      have hset : u.1.isConnectionUuidSet = true := (authenticates_of_run hstarted hpre').1
      exact h.client rfl pre' m mid l rest (by simpa using hls) u y hpre' hpre
        ⟨hset, encodedPayload, msg, hframe, hverifies⟩ haccepts
  · intro hguarded
    have hspares {pre rest : List Label} {l : Label} {y : InterserverConnection (Φ × ℕ) × σ}
        (hls : ls = pre ++ l :: rest) (hpre : Lts.Run (Step P.counting post) x pre y) :
        y.1.SparesAuthenticated P.counting l.event := by
      subst hls
      obtain ⟨y', _, hpre', hguard, -⟩ := hguarded.split
      exact hunique hpre hpre'.of_guarded ▸ hguard.1
    refine ⟨fun pre l rest hls y t hpre hstep hauthenticated => ?_, ?_, ?_⟩
    · have hsame := sameHandshake_handle (P := P) post
        (isConnectionUuidSet_of_run hstarted hpre hauthenticated) (hspares hls hpre hauthenticated)
        y.2
      rwa [hstep.2] at hsame
    · rintro rfl pre l mid m rest hls y u hpre hmid haccepts
      obtain ⟨y', t, hpre', hstep, hrest⟩ := hmid.split
      obtain rfl := hunique hpre hpre'
      have hconcluded := haccepts.handle post y.2
      rw [hstep.2] at hconcluded
      refine Concluded.not_accepts ?_ (hspares hls hmid)
      refine hrest.invariant (I := fun y => y.1.Concluded) (fun {y l t} h hstep => ?_) hconcluded
      have h' := h.handle (P := P.counting) post l.event y.2
      rwa [hstep.2] at h'
    · rintro rfl pre l rest hls y hpre haccepts
      exact Concluded.not_accepts ((authenticates_of_run hstarted hpre).1.concluded haccepts.1)
        (hspares hls hpre) haccepts

/-! ## A hello taken twice -/

/-- A client that has just said hello. -/
def trialClient : InterserverConnection (MessageFilter × ℕ) :=
  ((new trialKey).layer7ClientSayHello trialPlatform.counting trialUuid trialTimestamp []).2

theorem trialClient_started : trialClient.Started trialPlatform.counting .client :=
  ⟨trialKey, trialUuid, trialTimestamp, [], by decide, rfl⟩

/-- A `Server_hello` with some options comes in. -/
def serverHelloFrame (options : List CommonKeyValue) : Event :=
  .receiveData ServerHello.id (serverHelloFormat.serialize
    ⟨trialPlatform.calculateChecksum trialKey saltServerHello trialUuid trialTimestamp, options⟩)

def trialAnswered : List Event :=
  [.work, serverHelloFrame [⟨asciiBytes "a", asciiBytes "b"⟩], .work, serverHelloFrame []]

/-- What the client does in the course of some events. -/
def clientTrace (events : List Event) : List Label :=
  Lts.trace (next trialPlatform.counting takesAll) (trialClient, ()) events

/-- **The second `Server_hello` replaces the options of the first.** -/
theorem not_handshakeOnce :
    (∃ z, Lts.Run (Step trialPlatform.counting takesAll) (trialClient, ())
        (clientTrace (trialAnswered ++ [.work])) z) ∧
      ¬ HandshakeOnce trialPlatform takesAll .client (trialClient, ())
        (clientTrace (trialAnswered ++ [.work])) := by
  have hrun (events : List Event) := Lts.Run.of_admits (next trialPlatform.counting takesAll)
    (fun x event => x.1.Enabled event) (step_next _ _) (trialClient, ()) events
  refine ⟨⟨_, hrun _ (by decide +kernel)⟩, fun h => ?_⟩
  have hsame := (h.settled (clientTrace trialAnswered) _ [] rfl _ _
    (hrun trialAnswered (by decide +kernel)) (step_next _ .work (by decide +kernel))
    (by decide +kernel)).options
  exact absurd hsame (by decide +kernel)

theorem handshakeOnce_trial :
    HandshakeOnce trialPlatform takesAll .client (trialClient, ()) (clientTrace trialAnswered) ∧
      (Lts.final (next trialPlatform.counting takesAll) (trialClient, ())
        trialAnswered).1.authenticated = true := by
  have hguarded : Lts.Run (Lts.Guarded (Step trialPlatform.counting takesAll) fun x l =>
      x.1.SparesAuthenticated trialPlatform.counting l.event) (trialClient, ())
        (clientTrace trialAnswered) _ :=
    Lts.Run.of_admits (next trialPlatform.counting takesAll)
      (fun x event => x.1.SparesAuthenticated trialPlatform.counting event ∧ x.1.Enabled event)
      (fun h => ⟨h.1, step_next _ _ h.2⟩) (trialClient, ()) trialAnswered (by decide +kernel)
  exact ⟨(handshakeOnce_iff trialClient_started hguarded.of_guarded).mpr hguarded,
    by decide +kernel⟩

end Circe.Common
