import Circe.Common.Channel
import Circe.Common.Dispatch
import Circe.Common.InterserverAcceptor

/-!
# Common/Replay — what an adversary can do with recorded frames

An acceptor, the honest clients at the other end of some of its sessions, and an adversary at the
other end of the rest.  The adversary has recorded every frame that the clients sent; on a
connection of its own it can send any of them, in any order and any number of times.

A session accepts the `Client_hello` of another connection once that connection's session has
expired, and then reads what was sent behind it.  As long as no session does, what a session
dispatches was sent by the client at its other end (`noReplay_of_refusing`).
-/

namespace Circe.Common

/-- An honest client, and the frames it has sent that its session has not received. -/
structure HonestClient (Φ : Type) where
  connection : InterserverConnection Φ
  channel : List Frame

/-- The acceptor, who is at the other end of each session (`none`: the adversary), and every frame
that a client has sent. -/
structure Network (Φ : Type) where
  acceptor : InterserverAcceptor Φ
  clients : List (Option (HonestClient Φ))
  recorded : List Frame

inductive NetworkEvent
  /-- A client opens a connection and says hello. -/
  | connect (connectionUuid : Uuid) (timestamp : UInt64) (optionsReq : OptionMap)
  /-- The adversary opens a connection. -/
  | intrude
  | client (n : SessionId) (event : Event)
  /-- A frame arrives from the client. -/
  | deliver (n : SessionId)
  /-- A frame arrives from the adversary. -/
  | replay (n : SessionId) (frame : Frame)
  | acceptor (event : AcceptorEvent)

structure NetworkLabel where
  event : NetworkEvent
  effects : List Effect

/-- An event that brings neither a connection nor a frame. -/
def AcceptorEvent.isInternal : AcceptorEvent → Bool
  | .onClientConnect | .session _ (.receiveData ..) => false
  | .session .. | .expire _ | .clear .. => true

namespace Network

variable {Φ : Type} (P : Platform Φ)

def new (applicationKey : Bytes) : Network Φ := ⟨.new applicationKey, [], []⟩

/-- A frame arrives at a session. -/
def receiveData (n : SessionId) (frame : Frame) : AcceptorEvent :=
  .session n (.receiveData frame.1 frame.2)

/-- The adversary is at the other end. -/
def isIntruder (x : Network Φ) (n : SessionId) : Bool :=
  match x.clients[n]? with
  | some none => true
  | _ => false

theorem isIntruder_iff {x : Network Φ} {n : SessionId} :
    x.isIntruder n = true ↔ x.clients[n]? = some none := by
  rw [isIntruder]
  split
  case h_1 h => simp [h]
  case h_2 h => simpa using h

def Enabled (x : Network Φ) : NetworkEvent → Prop
  | .connect connectionUuid _ _ => connectionUuid ≠ 0
  | .intrude => True
  | .client n event => ∃ client ∈ x.clients[n]?.join, client.connection.Enabled event
  | .deliver n => ∃ client ∈ x.clients[n]?.join, ∃ frame ∈ client.channel.head?,
      x.acceptor.Enabled (receiveData n frame)
  | .replay n frame => x.isIntruder n = true ∧ frame ∈ x.recorded ∧
      x.acceptor.Enabled (receiveData n frame)
  | .acceptor event => event.isInternal = true ∧ x.acceptor.Enabled event

instance (x : Network Φ) : DecidablePred x.Enabled
  | .connect .. => inferInstanceAs (Decidable (_ ≠ _))
  | .intrude => inferInstanceAs (Decidable True)
  | .client n event => inferInstanceAs (Decidable (∃ client ∈ x.clients[n]?.join,
      client.connection.Enabled event))
  | .deliver n => inferInstanceAs (Decidable (∃ client ∈ x.clients[n]?.join,
      ∃ frame ∈ client.channel.head?, x.acceptor.Enabled (receiveData n frame)))
  | .replay .. => inferInstanceAs (Decidable (_ ∧ _ ∧ _))
  | .acceptor .. => inferInstanceAs (Decidable (_ ∧ _))

/-- A client has nothing to do once its UUID is set. -/
def postsNothing (_ : Uuid) (s : Unit) : Except Exception Unit × Unit := (.ok (), s)

def next (x : Network Φ) (event : NetworkEvent) : NetworkLabel × Network Φ :=
  match event with
  | .connect connectionUuid timestamp optionsReq =>
    let c := ((InterserverConnection.new x.acceptor.applicationKey).layer7ClientSayHello P
      connectionUuid timestamp optionsReq).2
    (⟨event, []⟩,
      { x with
        acceptor := (x.acceptor.next P .onClientConnect).2
        clients := x.clients ++ [some ⟨c, []⟩] })
  | .intrude =>
    (⟨event, []⟩,
      { x with
        acceptor := (x.acceptor.next P .onClientConnect).2
        clients := x.clients ++ [none] })
  | .client n e =>
    match x.clients[n]?.join with
    | none => (⟨event, []⟩, x)
    | some client =>
      let (effects, c, _) := client.connection.handle P postsNothing e ()
      let frames := (sends effects).map Prod.snd
      (⟨event, effects⟩,
        { x with
          clients := x.clients.set n (some ⟨c, client.channel ++ frames⟩)
          recorded := x.recorded ++ frames })
  | .deliver n =>
    match x.clients[n]?.join with
    | some ⟨c, frame :: channel⟩ =>
      (⟨event, []⟩,
        { x with
          acceptor := (x.acceptor.next P (receiveData n frame)).2
          clients := x.clients.set n (some ⟨c, channel⟩) })
    | _ => (⟨event, []⟩, x)
  | .replay n frame =>
    (⟨event, []⟩, { x with acceptor := (x.acceptor.next P (receiveData n frame)).2 })
  | .acceptor e =>
    let (l, acceptor) := x.acceptor.next P e
    (⟨event, l.effects⟩, { x with acceptor := acceptor })

def Step (x : Network Φ) (l : NetworkLabel) (y : Network Φ) : Prop :=
  x.Enabled l.event ∧ l = (x.next P l.event).1 ∧ y = (x.next P l.event).2

end Network

/-! ## What was sent and what was dispatched -/

section Histories

variable {Φ : Type} (P : Platform Φ) (history : List NetworkLabel)

/-- A user-defined message that is handed to a servlet, or to the requester it answers. -/
def isDispatched (message : Frame) : Bool := (jobOf P message).isSome || (answerOf P message).isSome

/-- The messages sent by clients, each with the number of its connection. -/
def sentMessages : List (SessionId × Frame) :=
  history.flatMap fun l =>
    match l.event with
    | .client n _ => (sends l.effects).map fun sent => (n, sent.1)
    | _ => []

/-- The messages read by sessions. -/
def readMessages : List (SessionId × Frame) :=
  history.flatMap fun l =>
    match l.event with
    | .acceptor (.session n _) => (receives l.effects).map fun message => (n, message)
    | _ => []

/-- The messages of one connection. -/
def onConnection (n : SessionId) (messages : List (SessionId × Frame)) : List Frame :=
  (messages.filter fun m => m.1 = n).map Prod.snd

/-- **No replay**: what a session dispatches is a beginning of what the client sent on that same
connection; over the whole run, each message sent is dispatched at most once. -/
structure NoReplay : Prop where
  onItsConnection : ∀ n, (onConnection n (readMessages history)).filter (isDispatched P) <+:
    (onConnection n (sentMessages history)).filter (isDispatched P)
  atMostOnce : ((readMessages history).filter fun m => isDispatched P m.2).Subperm
    ((sentMessages history).filter fun m => isDispatched P m.2)

end Histories

namespace Network

variable {Φ : Type} (P : Platform Φ)

/-- `get_session` finds a session. -/
def isRegistered (x : Network Φ) (connectionUuid : Uuid) : Bool :=
  match x.acceptor.getSession connectionUuid with
  | .ok (some _) => true
  | _ => false

/-- A frame that comes up on a connection of the adversary is not taken: a `Client_hello` that
verifies is of a UUID still registered, and a user-defined frame does not decode under the seed that
every connection starts with. -/
def refusesFrame (x : Network Φ) (frame : Frame) : Bool :=
  if frame.1 = ClientHello.id then
    match P.clientHello.deserialize frame.2 with
    | .error _ => true
    | .ok (msg, _) =>
      msg.checksumReq != P.calculateChecksum x.acceptor.applicationKey saltClientHello
        msg.connectionUuid msg.timestamp || x.isRegistered msg.connectionUuid
  else if isUser frame.1 then
    match (P.filter.decode (P.filter.make (P.calculateChecksum x.acceptor.applicationKey
      saltAuthentication 0 0)) frame.2).1 with
    | .error _ => true
    | .ok _ => false
  else true

/-- **The condition**: every frame that comes up on a connection of the adversary is refused. -/
def RefusesReplay (x : Network Φ) : NetworkEvent → Prop
  | .acceptor (.session n event) => x.isIntruder n = true →
      ∀ session ∈ x.acceptor.lock n, ∀ frame ∈ session.connection.handledFrame event,
        x.refusesFrame P frame = true
  | _ => True

instance (x : Network Φ) : DecidablePred (x.RefusesReplay P)
  | .acceptor (.session n event) => inferInstanceAs (Decidable (x.isIntruder n = true →
      ∀ session ∈ x.acceptor.lock n, ∀ frame ∈ session.connection.handledFrame event,
        x.refusesFrame P frame = true))
  | .acceptor .onClientConnect | .acceptor (.expire _) | .acceptor (.clear ..) | .connect ..
  | .intrude | .client .. | .deliver _ | .replay .. => inferInstanceAs (Decidable True)

end Network

/-! ## One connection -/

section OneConnection

variable {Φ σ : Type} {P : Platform Φ} {InStep : Φ → Φ → Prop} {h : P.filter.KeepsInStep InStep}
  {applicationKey : Bytes} {sent read : List Frame} {c : InterserverConnection Φ}

/-- A session that has taken no hello, its decoder as every connection starts with it. -/
structure Untouched (P : Platform Φ) (InStep : Φ → Φ → Prop) (applicationKey : Bytes)
    (c : InterserverConnection Φ) : Prop where
  unset : c.isConnectionUuidSet = false
  inStep : InStep (P.filter.make (P.calculateChecksum applicationKey saltAuthentication 0 0))
    (c.requireMessageFilter P)

/-- **What holds of one connection**, `sent` and `read` being the messages so far. -/
def Linked (h : P.filter.KeepsInStep InStep) (applicationKey : Bytes) (sent read : List Frame)
    (client : Option (HonestClient Φ)) (c : InterserverConnection Φ) : Prop :=
  c.applicationKey = applicationKey ∧ c.HelloReady P ∧
    match client with
    | some client => client.connection.applicationKey = applicationKey ∧
        client.connection.HelloReady P ∧
          Conveyed h applicationKey client.connection c client.channel sent read
    | none => read.filter (isDispatched P) = [] ∧
        (c.hasBeenShutdown = false → Untouched P InStep applicationKey c)

theorem isDispatched_of_hello {message : Frame} (hhello : isUser message.1 = false) :
    isDispatched P message = false := by
  have hjob : jobOf P message = none := if_neg (by simp [hhello])
  have hanswer : answerOf P message = none := if_neg (by simp [hhello])
  rw [isDispatched, hjob, hanswer]
  rfl

/-- Filters in step with one sender decode alike. -/
def DecodesAlike (F : FilterInterface Φ) (InStep : Φ → Φ → Prop) : Prop :=
  ∀ (s r r' : Φ) (encodedPayload : Bytes), InStep s r → InStep s r' →
    (F.decode r encodedPayload).1 = (F.decode r' encodedPayload).1

/-- The frame that comes up at a session is not taken. -/
structure Refused (P : Platform Φ) (applicationKey : Bytes) (c : InterserverConnection Φ)
    (event : Event) (post : Uuid → σ → Except Exception Unit × σ) (s : σ) : Prop where
  hello : ∀ encodedPayload msg, c.handledFrame event = some (ClientHello.id, encodedPayload) →
    c.VerifiesClientHello P encodedPayload msg → (post msg.connectionUuid s).1 ≠ .ok ()
  user : ∀ frame : Frame, c.handledFrame event = some frame → isUser frame.1 = true →
    ∃ e, (P.filter.decode (P.filter.make
      (P.calculateChecksum applicationKey saltAuthentication 0 0)) frame.2).1 = .error e

theorem Refused.of_no_frame {event : Event} {post : Uuid → σ → Except Exception Unit × σ} {s : σ}
    (hframe : c.handledFrame event = none) : Refused P applicationKey c event post s where
  hello _ _ h := by simp [hframe] at h
  user _ h := by simp [hframe] at h

/-- A hello on a connection of the adversary shuts it down. -/
theorem Refused.hasBeenShutdown {post : Uuid → σ → Except Exception Unit × σ} {event : Event}
    {s : σ} (hrefused : Refused P applicationKey c event post s)
    (hunset : c.isConnectionUuidSet = false) {frame : Frame}
    (hframe : c.handledFrame event = some frame) (hhello : isUser frame.1 = false) :
    (c.handle P post event s).2.1.hasBeenShutdown = true := by
  have hgreeted := InterserverConnection.greeted_handle P post c event s
  generalize c.handle P post event s = after at hgreeted ⊢
  obtain ⟨effects, c', s'⟩ := after
  dsimp only at hgreeted ⊢
  rcases hgreeted with ⟨-, hkept⟩ |
    ⟨encodedPayload, msg, hclient, hverifies, -, authenticated, -, houtcome⟩ |
    ⟨encodedPayload, msg, -, -, hset, -⟩
  · exact hkept frame hframe hhello
  · rcases houtcome with ⟨-, -, hposted⟩ | ⟨-, hdown⟩
    · exact absurd hposted (hrefused.hello _ _ hclient hverifies)
    · exact hdown
  · exact absurd (hunset.symm.trans hset) (by decide)

theorem receives_of_hello {effects : List Effect} {magicNumber : UInt16} {encodedPayload : Bytes}
    (hhello : isUser magicNumber = false)
    (heffects : effects.Sublist [.received magicNumber encodedPayload encodedPayload]) :
    (receives effects).filter (isDispatched P) = [] := by
  rcases List.sublist_singleton.mp heffects with rfl | rfl
  · rfl
  · exact List.filter_eq_nil_iff.mpr fun message hmem => by
      rw [List.mem_singleton.mp hmem, isDispatched_of_hello hhello]
      decide

/-- **An event of a session with the adversary**: nothing is dispatched. -/
theorem Untouched.handle (h : P.filter.KeepsInStep InStep)
    (halike : DecodesAlike P.filter InStep) (hready : c.HelloReady P)
    (huntouched : c.hasBeenShutdown = false → Untouched P InStep applicationKey c)
    {post : Uuid → σ → Except Exception Unit × σ} {event : Event} {s : σ}
    (hevent : ∀ magicNumber encodedPayload, event ≠ .receiveData magicNumber encodedPayload)
    (hrefused : Refused P applicationKey c event post s) :
    (receives (c.handle P post event s).1).filter (isDispatched P) = [] ∧
      ((c.handle P post event s).2.1.hasBeenShutdown = false →
        Untouched P InStep applicationKey (c.handle P post event s).2.1) := by
  cases hframe : c.handledFrame event with
  | none =>
    have hreceives := InterserverConnection.receives_of_handledFrame_none P post hframe s
    refine ⟨by rw [hreceives]; rfl, fun hup => ?_⟩
    obtain ⟨hunset, hstep⟩ := huntouched (InterserverConnection.not_down hup)
    have huuid := congrArg Standing.connectionUuid
      (InterserverConnection.standing_handle P post hframe s)
    refine ⟨(congrArg (· != 0) huuid).trans hunset, ?_⟩
    rcases InterserverConnection.carried_handle post hready hevent s with
      ⟨-, -, -, hsame⟩ | ⟨frame, -, -, -, hdown, -⟩ | ⟨frame, message, filter, -, hread, -⟩ |
      ⟨message, frame, -, -, -, -, hencode⟩
    · rw [hsame hup]
      exact hstep
    · exact absurd (hup.symm.trans hdown) (by decide)
    · exact absurd (hreceives.symm.trans hread) (by simp)
    · rcases Platform.idleReceiver_of_encodeFrame (h := h) hencode with hsame | hidle
      · rw [hsame]
        exact hstep
      · exact (P.lockstep c.applicationKey h).inStep_idleReceiver hstep hidle
  | some frame =>
    obtain ⟨rest, hup, -, -, hhandle⟩ :=
      InterserverConnection.handle_of_handledFrame P post hframe s
    obtain ⟨hunset, hstep⟩ := huntouched hup
    have hdowned := hrefused.hasBeenShutdown hunset hframe
    have hdecodes : isUser frame.1 = true →
        ∃ e, (P.filter.decode (c.requireMessageFilter P) frame.2).1 = .error e := by
      intro huser
      obtain ⟨e, he⟩ := hrefused.user frame hframe huser
      exact ⟨e, (halike _ _ _ frame.2 hstep (h.make _)).trans he⟩
    have hspec := InterserverConnection.tryInflateAndDispatch_spec P post frame.1 frame.2
      { c with workhorse := rest } s
    rw [hhandle _ rfl] at hdowned ⊢
    generalize InterserverConnection.tryInflateAndDispatch P post frame.1 frame.2
      { c with workhorse := rest } s = o at hspec hdowned ⊢
    have hgone
        (hdown : (InterserverConnection.shutdownIfThrown o.result o.connection).hasBeenShutdown
          = true) :
        (InterserverConnection.shutdownIfThrown o.result o.connection).hasBeenShutdown
        = false → Untouched P InStep applicationKey
          (InterserverConnection.shutdownIfThrown o.result o.connection) :=
      fun hup => absurd (hup.symm.trans hdown) (by decide)
    rcases hspec with ⟨hmagic, hhello⟩ | ⟨hmagic, hhello⟩ | ⟨messageFilter, e, -⟩ |
      ⟨magicPayload, filter, huser, hdecode⟩
    · have hfalse : isUser frame.1 = false := by
        rw [hmagic]
        decide
      refine ⟨?_, hgone (hdowned hfalse)⟩
      rcases hhello with ⟨e, effects, heffects⟩ | _ | _
      · exact receives_of_hello (by decide) heffects
      · exact receives_of_hello (by decide) (List.Sublist.refl _)
      · exact receives_of_hello (by decide) (List.Sublist.refl _)
    · have hfalse : isUser frame.1 = false := by
        rw [hmagic]
        decide
      refine ⟨?_, hgone (hdowned hfalse)⟩
      rcases hhello with ⟨e, effects, heffects⟩ | _ | _
      · exact receives_of_hello (by decide) heffects
      · exact receives_of_hello (by decide) (List.Sublist.refl _)
      · exact receives_of_hello (by decide) (List.Sublist.refl _)
    · exact ⟨rfl, hgone (InterserverConnection.hasBeenShutdown_of_error e _)⟩
    · obtain ⟨e, he⟩ := hdecodes huser
      exact absurd ((congrArg Prod.fst hdecode).symm.trans he) (by simp)

/-! ### The steps of one connection -/

/-- A client just said hello to a session just made. -/
theorem Linked.connect {connectionUuid : Uuid} (hset : connectionUuid ≠ 0) (timestamp : UInt64)
    (optionsReq : OptionMap) :
    Linked h applicationKey [] []
      (some ⟨((InterserverConnection.new applicationKey).layer7ClientSayHello P connectionUuid
        timestamp optionsReq).2, []⟩) (.new applicationKey) :=
  ⟨rfl, fun _ hmem => absurd hmem List.not_mem_nil, rfl,
    InterserverConnection.helloReady_layer7ClientSayHello hset timestamp optionsReq,
    .start rfl rfl rfl⟩

theorem Linked.intrude : Linked h applicationKey [] [] none (.new applicationKey) :=
  ⟨rfl, fun _ hmem => absurd hmem List.not_mem_nil, rfl, fun _ => ⟨rfl, h.make _⟩⟩

/-- The client handles an event. -/
theorem Linked.client {client : HonestClient Φ}
    (hlinked : Linked h applicationKey sent read (some client) c)
    (post : Uuid → σ → Except Exception Unit × σ) (event : Event) (s : σ) :
    Linked h applicationKey
      (sent ++ (sends (client.connection.handle P post event s).1).map Prod.fst) read
      (some ⟨(client.connection.handle P post event s).2.1,
        client.channel ++ (sends (client.connection.handle P post event s).1).map Prod.snd⟩) c := by
  obtain ⟨hkey, hready, hclient, hclientReady, hconveyed⟩ := hlinked
  exact ⟨hkey, hready, (InterserverConnection.applicationKey_handle P post _ _ _).trans hclient,
    InterserverConnection.helloReady_handle hclientReady _ _,
    hconveyed.sender_handle hclient hclientReady post event s⟩

/-- A frame arrives, from the client or from the adversary. -/
theorem Linked.deliver {client : InterserverConnection Φ} {frame : Frame} {channel : List Frame}
    (hlinked : Linked h applicationKey sent read (some ⟨client, frame :: channel⟩) c) :
    Linked h applicationKey sent read (some ⟨client, channel⟩)
      (c.layer5OnReceiveData frame.1 frame.2) := by
  obtain ⟨hkey, hready, hclient, hclientReady, hconveyed⟩ := hlinked
  exact ⟨hkey, hready.receiveData frame, hclient, hclientReady, hconveyed.deliver⟩

theorem Linked.replay {frame : Frame} (hlinked : Linked h applicationKey sent read none c) :
    Linked h applicationKey sent read none (c.layer5OnReceiveData frame.1 frame.2) := by
  obtain ⟨hkey, hready, hread, huntouched⟩ := hlinked
  refine ⟨hkey, hready.receiveData frame, hread, fun hup => ?_⟩
  obtain ⟨hunset, hstep⟩ := huntouched hup
  exact ⟨hunset, hstep⟩

/-- **The session handles an event** that brings no frame. -/
theorem Linked.session {client : Option (HonestClient Φ)}
    (hlinked : Linked h applicationKey sent read client c) (halike : DecodesAlike P.filter InStep)
    (post : Uuid → σ → Except Exception Unit × σ) (event : Event) (s : σ)
    (hevent : ∀ magicNumber encodedPayload, event ≠ .receiveData magicNumber encodedPayload)
    (hrefused : client = none → Refused P applicationKey c event post s) :
    Linked h applicationKey sent (read ++ receives (c.handle P post event s).1) client
      (c.handle P post event s).2.1 := by
  obtain ⟨hkey, hready, hend⟩ := hlinked
  refine ⟨(InterserverConnection.applicationKey_handle P post _ _ _).trans hkey,
    InterserverConnection.helloReady_handle hready _ _, ?_⟩
  cases client with
  | some client =>
    obtain ⟨hclient, hclientReady, hconveyed⟩ := hend
    exact ⟨hclient, hclientReady, hconveyed.receiver_handle hkey hready post hevent s⟩
  | none =>
    obtain ⟨hread, huntouched⟩ := hend
    obtain ⟨hreceives, huntouched'⟩ :=
      Untouched.handle h halike hready huntouched hevent (hrefused rfl)
    refine ⟨?_, huntouched'⟩
    rw [List.filter_append, hread, hreceives, List.append_nil]

/-- Nothing of the session's own happened; `clear` may have shut it down. -/
theorem Linked.of_sessionMoved {client : Option (HonestClient Φ)}
    (hlinked : Linked h applicationKey sent read client c) (halike : DecodesAlike P.filter InStep)
    {x : InterserverAcceptor Φ} {n : SessionId} {l : AcceptorLabel} {c' : InterserverConnection Φ}
    (hevent : ∀ e, l.event ≠ .session n e)
    (hmoved : InterserverAcceptor.SessionMoved P x n l c c') :
    Linked h applicationKey sent read client c' := by
  rcases hmoved with _ | ⟨c, errCode, errMsg, -⟩ | ⟨session, e, -, hsession, -⟩
  · exact hlinked
  · have hdown := hlinked.session halike (fun _ (s : Unit) => (.ok (), s))
      (.shutdown errCode errMsg) () (by simp) fun _ => .of_no_frame rfl
    have hread : read ++ receives [] = read := List.append_nil read
    exact hread ▸ hdown
  · exact absurd hsession (hevent e)

end OneConnection

/-! ## The whole network -/

section Histories

variable (n : SessionId) (history : List NetworkLabel)

def sentOn : List Frame := onConnection n (sentMessages history)

def readOn : List Frame := onConnection n (readMessages history)

theorem sentOn_concat (l : NetworkLabel) :
    sentOn n (history ++ [l]) = sentOn n history ++ sentOn n [l] := by
  simp [sentOn, onConnection, sentMessages]

theorem readOn_concat (l : NetworkLabel) :
    readOn n (history ++ [l]) = readOn n history ++ readOn n [l] := by
  simp [readOn, onConnection, readMessages]

variable {n} {l : NetworkLabel}

theorem sentOn_client (e : Event) (effects : List Effect) :
    sentOn n [⟨.client n e, effects⟩] = (sends effects).map Prod.fst := by
  simp [sentOn, onConnection, sentMessages, List.filter_map, Function.comp_def]

theorem readOn_session (e : Event) (effects : List Effect) :
    readOn n [⟨.acceptor (.session n e), effects⟩] = receives effects := by
  simp [readOn, onConnection, readMessages, List.filter_map, Function.comp_def]

theorem sentOn_of_ne (h : ∀ e, l.event ≠ .client n e) : sentOn n [l] = [] := by
  obtain ⟨event, effects⟩ := l
  cases event with
  | client m e =>
    have hmn : m ≠ n := fun hmn => h e (by rw [hmn])
    simp [sentOn, onConnection, sentMessages, List.filter_map, Function.comp_def, hmn]
  | _ => rfl

theorem readOn_of_ne (h : ∀ e, l.event ≠ .acceptor (.session n e)) : readOn n [l] = [] := by
  obtain ⟨event, effects⟩ := l
  cases event with
  | acceptor event =>
    cases event with
    | session m e =>
      have hmn : m ≠ n := fun hmn => h e (by rw [hmn])
      simp [readOn, onConnection, readMessages, List.filter_map, Function.comp_def, hmn]
    | _ => rfl
  | _ => rfl

end Histories

namespace Network

variable {Φ : Type} {P : Platform Φ} {x y : Network Φ}

/-- **What a step does to a network.** -/
inductive Moved (P : Platform Φ) (x : Network Φ) : NetworkLabel → Network Φ → Prop
  | connect (connectionUuid : Uuid) (timestamp : UInt64) (optionsReq : OptionMap)
      (hset : connectionUuid ≠ 0) (acceptor : InterserverAcceptor Φ)
      (hstep : InterserverAcceptor.Step P x.acceptor ⟨.onClientConnect, []⟩ acceptor) :
      Moved P x ⟨.connect connectionUuid timestamp optionsReq, []⟩
        { x with
          acceptor := acceptor
          clients := x.clients ++ [some ⟨((InterserverConnection.new
            x.acceptor.applicationKey).layer7ClientSayHello P connectionUuid timestamp
              optionsReq).2, []⟩] }
  | intrude (acceptor : InterserverAcceptor Φ)
      (hstep : InterserverAcceptor.Step P x.acceptor ⟨.onClientConnect, []⟩ acceptor) :
      Moved P x ⟨.intrude, []⟩ { x with acceptor := acceptor, clients := x.clients ++ [none] }
  | client (n : SessionId) (e : Event) (client : HonestClient Φ)
      (hclient : x.clients[n]? = some (some client)) :
      Moved P x ⟨.client n e, (client.connection.handle P postsNothing e ()).1⟩
        { x with
          clients := x.clients.set n (some ⟨(client.connection.handle P postsNothing e ()).2.1,
            client.channel ++
              (sends (client.connection.handle P postsNothing e ()).1).map Prod.snd⟩)
          recorded := x.recorded ++
            (sends (client.connection.handle P postsNothing e ()).1).map Prod.snd }
  | deliver (n : SessionId) (c : InterserverConnection Φ) (frame : Frame) (channel : List Frame)
      (hclient : x.clients[n]? = some (some ⟨c, frame :: channel⟩))
      (acceptor : InterserverAcceptor Φ)
      (hstep : InterserverAcceptor.Step P x.acceptor ⟨receiveData n frame, []⟩ acceptor) :
      Moved P x ⟨.deliver n, []⟩
        { x with acceptor := acceptor, clients := x.clients.set n (some ⟨c, channel⟩) }
  | replay (n : SessionId) (frame : Frame) (hintruder : x.clients[n]? = some none)
      (acceptor : InterserverAcceptor Φ)
      (hstep : InterserverAcceptor.Step P x.acceptor ⟨receiveData n frame, []⟩ acceptor) :
      Moved P x ⟨.replay n frame, []⟩ { x with acceptor := acceptor }
  | acceptor (e : AcceptorEvent) (hinternal : e.isInternal = true) (effects : List Effect)
      (acceptor : InterserverAcceptor Φ)
      (hstep : InterserverAcceptor.Step P x.acceptor ⟨e, effects⟩ acceptor) :
      Moved P x ⟨.acceptor e, effects⟩ { x with acceptor := acceptor }

theorem step_receiveData {n : SessionId} {frame : Frame}
    (h : x.acceptor.Enabled (receiveData n frame)) :
    InterserverAcceptor.Step P x.acceptor ⟨receiveData n frame, []⟩
      (x.acceptor.next P (receiveData n frame)).2 := by
  obtain ⟨session, hlock, -⟩ := id h
  have hlabel : (x.acceptor.next P (receiveData n frame)).1 = ⟨receiveData n frame, []⟩ := by
    rw [receiveData, InterserverAcceptor.next, Option.mem_def.mp hlock]
    rfl
  have hstep := InterserverAcceptor.step_next (P := P) h
  rwa [hlabel] at hstep

theorem Step.moved {l : NetworkLabel} (h : Step P x l y) : Moved P x l y := by
  obtain ⟨event, effects⟩ := l
  obtain ⟨henabled, hl, hy⟩ := h
  rw [hl, hy]
  cases event with
  | connect connectionUuid timestamp optionsReq =>
    exact .connect connectionUuid timestamp optionsReq henabled _ ⟨trivial, rfl, rfl⟩
  | intrude => exact .intrude _ ⟨trivial, rfl, rfl⟩
  | client n e =>
    obtain ⟨client, hclient, -⟩ := henabled
    have hjoin := Option.mem_def.mp hclient
    rw [next, hjoin]
    exact .client n e client (Option.join_eq_some_iff.mp hjoin)
  | deliver n =>
    obtain ⟨⟨c, channel⟩, hclient, frame, hframe, henabled⟩ := henabled
    obtain ⟨rest, hchannel⟩ := List.head?_eq_some_iff.mp (Option.mem_def.mp hframe)
    have hjoin := Option.mem_def.mp hclient
    dsimp only at hchannel
    rw [hchannel] at hjoin
    rw [next, hjoin]
    exact .deliver n c frame rest (Option.join_eq_some_iff.mp hjoin) _ (step_receiveData henabled)
  | replay n frame =>
    obtain ⟨hintruder, -, henabled⟩ := henabled
    exact .replay n frame (isIntruder_iff.mp hintruder) _ (step_receiveData henabled)
  | acceptor e =>
    obtain ⟨hinternal, henabled⟩ := henabled
    have hstep := InterserverAcceptor.step_next (P := P) henabled
    have hevent : (x.acceptor.next P e).1 = ⟨e, (x.acceptor.next P e).1.effects⟩ := by
      exact congrArg (AcceptorLabel.mk · _) (InterserverAcceptor.event_next P x.acceptor e)
    rw [hevent] at hstep
    exact .acceptor e hinternal _ _ hstep

variable {InStep : Φ → Φ → Prop} {h : P.filter.KeepsInStep InStep} {history : List NetworkLabel}

/-- **What holds along every run that refuses replays.** -/
structure Sound (h : P.filter.KeepsInStep InStep) (history : List NetworkLabel) (x : Network Φ) :
    Prop where
  registered : x.acceptor.Registered
  length : x.clients.length = x.acceptor.sessions.length
  fresh : ∀ n, x.clients.length ≤ n → sentOn n history = [] ∧ readOn n history = []
  linked : ∀ {n client session}, x.clients[n]? = some client →
    x.acceptor.sessions[n]? = some session →
      Linked h x.acceptor.applicationKey (sentOn n history) (readOn n history) client
        session.connection

/-- A connection is opened. -/
theorem Sound.opened {client₀ : Option (HonestClient Φ)} {acceptor : InterserverAcceptor Φ}
    {l : NetworkLabel} (hx : x.Sound h history) (halike : DecodesAlike P.filter InStep)
    (hnew : Linked h x.acceptor.applicationKey [] [] client₀ (.new x.acceptor.applicationKey))
    (hstep : InterserverAcceptor.Step P x.acceptor ⟨.onClientConnect, []⟩ acceptor)
    (hsent : ∀ n, sentOn n [l] = []) (hread : ∀ n, readOn n [l] = []) :
    Sound h (history ++ [l])
      { x with acceptor := acceptor, clients := x.clients ++ [client₀] } := by
  have hlength : acceptor.sessions.length = x.acceptor.sessions.length + 1 := by
    rcases hstep.length with ⟨-, hlength⟩ | ⟨hne, -⟩
    · exact hlength
    · exact absurd rfl hne
  refine ⟨hx.registered.step hstep, by simp [hx.length, hlength], fun n hn => ?_, ?_⟩
  · rw [sentOn_concat, readOn_concat, hsent, hread, List.append_nil, List.append_nil]
    exact hx.fresh n ((List.length_append ▸ Nat.le_add_right _ _).trans hn)
  · intro n client session hclient hsession
    rw [sentOn_concat, readOn_concat, hsent, hread, List.append_nil, List.append_nil,
      hstep.applicationKey]
    rcases hstep.sessionMoved hsession with ⟨-, hn, hconnection⟩ | ⟨session₀, hsession₀, hmoved⟩
    · rw [hn, ← hx.length, List.getElem?_concat_length] at hclient
      obtain rfl := Option.some.inj hclient
      obtain ⟨hsent, hread⟩ := hx.fresh n (hn ▸ hx.length.le)
      rwa [hsent, hread, hconnection]
    · obtain ⟨hlt, -⟩ := List.getElem?_eq_some_iff.mp hsession₀
      have hold := (List.getElem?_append_left (hx.length ▸ hlt)).symm.trans hclient
      exact (hx.linked hold hsession₀).of_sessionMoved halike (fun e he => by cases he) hmoved

/-- What is refused according to the condition is refused by the session. -/
theorem RefusesReplay.refused {n : SessionId} {e : Event} {session : InterserverSession Φ}
    (hx : x.Sound h history) (hrefuses : x.RefusesReplay P (.acceptor (.session n e)))
    (hintruder : x.clients[n]? = some none) (hlock : x.acceptor.lock n = some session) :
    Refused P x.acceptor.applicationKey session.connection e
      (x.acceptor.layer7PostSetConnectionUuid n) x.acceptor.weakSessions := by
  have hframe := hrefuses (isIntruder_iff.mpr hintruder) session hlock
  have hkey := (hx.linked hintruder (InterserverAcceptor.lock_eq_some.mp hlock).1).1
  refine ⟨fun encodedPayload msg hhello hverifies => ?_, fun frame hhandled huser => ?_⟩
  · have hrefused := hframe _ hhello
    obtain ⟨rest, hread⟩ := hverifies.reads
    have hchecksum := hverifies.checksum
    rw [hkey] at hchecksum
    simp only [refusesFrame, if_true, hread, hchecksum, bne_self_eq_false,
      Bool.false_or] at hrefused
    have hregistered := hrefused
    obtain ⟨found, hfound, hiff⟩ := hx.registered.getSession msg.connectionUuid
    rw [isRegistered, hfound] at hregistered
    rcases found with _ | m
    · cases hregistered
    · obtain ⟨hmem, hlive⟩ := (hiff m).mp rfl
      exact InterserverAcceptor.post_ne_ok_of_mem hmem hlive
  · have hrefused := hframe _ hhandled
    have hclient := (ne_hello_of_isUser huser).1
    rw [refusesFrame, if_neg hclient, if_pos huser] at hrefused
    split at hrefused
    case h_1 e he => exact ⟨e, he⟩
    case h_2 => cases hrefused

/-- An acceptor goes on: what its sessions do, each on its own connection. -/
theorem Sound.accepted {e : AcceptorEvent} {effects : List Effect}
    {acceptor : InterserverAcceptor Φ} {l : NetworkLabel} {clients : List (Option (HonestClient Φ))}
    (hx : x.Sound h history) (halike : DecodesAlike P.filter InStep)
    (hstep : InterserverAcceptor.Step P x.acceptor ⟨e, effects⟩ acceptor)
    (hne : e ≠ .onClientConnect) (hlength : clients.length = x.clients.length)
    (hsent : ∀ n, sentOn n [l] = [])
    (hother : ∀ n, (∀ e', e ≠ .session n e') →
      readOn n [l] = [] ∧ clients[n]? = x.clients[n]?)
    (hsession : ∀ {n e' session client}, e = .session n e' → x.acceptor.lock n = some session →
      clients[n]? = some client →
      effects = (session.connection.handle P (x.acceptor.layer7PostSetConnectionUuid n) e'
        x.acceptor.weakSessions).1 →
      Linked h x.acceptor.applicationKey (sentOn n history)
        (readOn n history ++ readOn n [l]) client
        (session.connection.handle P (x.acceptor.layer7PostSetConnectionUuid n) e'
          x.acceptor.weakSessions).2.1) :
    Sound h (history ++ [l]) { x with acceptor := acceptor, clients := clients } := by
  have hsame : acceptor.sessions.length = x.acceptor.sessions.length := by
    rcases hstep.length with ⟨hconnect, -⟩ | ⟨-, hlength⟩
    · exact absurd hconnect hne
    · exact hlength
  refine ⟨hx.registered.step hstep, by rw [hlength, hx.length, hsame], fun n hn => ?_, ?_⟩
  · rw [hlength] at hn
    have hfree : ∀ e', e ≠ .session n e' := by
      rintro e' rfl
      obtain ⟨session, hlock, -⟩ := hstep.1
      obtain ⟨hlt, -⟩ := List.getElem?_eq_some_iff.mp
        (InterserverAcceptor.lock_eq_some.mp (Option.mem_def.mp hlock)).1
      exact absurd (hx.length ▸ hlt) (not_lt.mpr hn)
    rw [sentOn_concat, readOn_concat, hsent, (hother n hfree).1]
    simpa using hx.fresh n hn
  · intro n client session hclient hafter
    rw [sentOn_concat, readOn_concat, hsent, List.append_nil, hstep.applicationKey]
    rcases hstep.sessionMoved hafter with ⟨hconnect, -⟩ | ⟨session₀, hsession₀, hmoved⟩
    · exact absurd hconnect hne
    by_cases hfree : ∀ e', e ≠ .session n e'
    · obtain ⟨hread, hsameClient⟩ := hother n hfree
      rw [hread, List.append_nil]
      rw [hsameClient] at hclient
      exact (hx.linked hclient hsession₀).of_sessionMoved halike hfree hmoved
    · obtain ⟨e', he⟩ := not_forall_not.mp hfree
      generalize session.connection = c' at hmoved
      generalize session₀.connection = c at hmoved
      rcases hmoved with ⟨_, hkept⟩ | ⟨_, _, _, hkept⟩ | ⟨session₁, e₁, hlock, hevent, heffects⟩
      · exact absurd he (hkept e')
      · exact absurd he (hkept e')
      · exact hsession hevent hlock hclient heffects

/-- **One step that refuses replays.** -/
theorem Sound.step {l : NetworkLabel} (hx : x.Sound h history)
    (halike : DecodesAlike P.filter InStep) (hrefuses : x.RefusesReplay P l.event)
    (hstep : Step P x l y) : y.Sound h (history ++ [l]) := by
  rcases hstep.moved with ⟨connectionUuid, timestamp, optionsReq, hset, acceptor, hacceptor⟩ |
    ⟨acceptor, hacceptor⟩ | ⟨n, e, client, hclient⟩ |
    ⟨n, c, frame, channel, hclient, acceptor, hacceptor⟩ |
    ⟨n, frame, hintruder, acceptor, hacceptor⟩ | ⟨e, hinternal, effects, acceptor, hacceptor⟩
  · exact hx.opened halike (.connect hset timestamp optionsReq) hacceptor
      (fun n => sentOn_of_ne (by simp)) fun n => readOn_of_ne (by simp)
  · exact hx.opened halike .intrude hacceptor (fun n => sentOn_of_ne (by simp))
      fun n => readOn_of_ne (by simp)
  · refine ⟨hx.registered, by simp [hx.length], fun m hm => ?_,
      fun {m client' session} hm hsession => ?_⟩
    · rw [List.length_set] at hm
      obtain ⟨hlt, -⟩ := List.getElem?_eq_some_iff.mp hclient
      rw [sentOn_concat, readOn_concat, readOn_of_ne (by simp),
        sentOn_of_ne fun e' he => by cases he; exact absurd hlt (not_lt.mpr hm)]
      simpa using hx.fresh m hm
    · rw [sentOn_concat, readOn_concat, readOn_of_ne (by simp), List.append_nil]
      rcases eq_or_ne n m with rfl | hnm
      · obtain ⟨hlt, -⟩ := List.getElem?_eq_some_iff.mp hclient
        rw [List.getElem?_set_self hlt] at hm
        obtain rfl := Option.some.inj hm
        rw [sentOn_client]
        exact (hx.linked hclient hsession).client postsNothing e ()
      · rw [List.getElem?_set_ne hnm] at hm
        rw [sentOn_of_ne fun e' he => by cases he; exact hnm rfl, List.append_nil]
        exact hx.linked hm hsession
  · refine hx.accepted halike hacceptor (by simp [receiveData]) List.length_set
      (fun m => sentOn_of_ne (by simp)) (fun m hm => ⟨readOn_of_ne (by simp), ?_⟩) ?_
    · exact List.getElem?_set_ne fun hnm => hm _ (by rw [receiveData, hnm])
    · intro m e session client he hlock hset heffects
      obtain ⟨rfl, rfl⟩ := AcceptorEvent.session.inj he
      obtain ⟨hlt, -⟩ := List.getElem?_eq_some_iff.mp hclient
      rw [List.getElem?_set_self hlt] at hset
      obtain rfl := Option.some.inj hset
      rw [readOn_of_ne (by simp), List.append_nil]
      exact (hx.linked hclient (InterserverAcceptor.lock_eq_some.mp hlock).1).deliver
  · refine hx.accepted halike hacceptor (by simp [receiveData]) rfl
      (fun m => sentOn_of_ne (by simp)) (fun m hm => ⟨readOn_of_ne (by simp), rfl⟩) ?_
    intro m e session client he hlock hclient heffects
    obtain ⟨rfl, rfl⟩ := AcceptorEvent.session.inj he
    obtain rfl := Option.some.inj (hintruder.symm.trans hclient)
    rw [readOn_of_ne (by simp), List.append_nil]
    exact (hx.linked hclient (InterserverAcceptor.lock_eq_some.mp hlock).1).replay
  · refine hx.accepted halike hacceptor ?_ rfl (fun m => sentOn_of_ne (by simp)) ?_ ?_
    · rintro rfl
      cases hinternal
    · exact fun m hm => ⟨readOn_of_ne fun e' he => hm e' (NetworkEvent.acceptor.inj he), rfl⟩
    · intro n e' session client he hlock hclient heffects
      subst he
      rw [readOn_session, heffects]
      refine (hx.linked hclient (InterserverAcceptor.lock_eq_some.mp hlock).1).session halike _ _ _
        ?_ ?_
      · rintro magicNumber encodedPayload rfl
        cases hinternal
      · rintro rfl
        exact RefusesReplay.refused hx hrefuses hclient hlock

end Network

/-- Lists of messages that are beginnings of each other on every connection. -/
theorem subperm_of_onConnection {read sent : List (SessionId × Frame)}
    (h : ∀ n, onConnection n read <+: onConnection n sent) : read.Subperm sent := by
  have hcount (n : SessionId) (message : Frame) (l : List (SessionId × Frame)) :
      l.count (n, message) = (onConnection n l).count message := by
    rw [onConnection, List.count_eq_countP, List.count_eq_countP, List.countP_map,
      List.countP_filter]
    refine List.countP_congr fun e _ => ?_
    simp only [beq_iff_eq, Prod.ext_iff, Function.comp_apply, Bool.and_eq_true, decide_eq_true_eq]
    exact and_comm
  refine List.subperm_ext_iff.mpr ?_
  rintro ⟨n, message⟩ -
  rw [hcount, hcount]
  exact (h n).sublist.count_le message

theorem onConnection_filter (n : SessionId) (p : Frame → Bool) (l : List (SessionId × Frame)) :
    onConnection n (l.filter fun m => p m.2) = (onConnection n l).filter p := by
  rw [onConnection, onConnection, List.filter_map, List.filter_filter, List.filter_filter]
  exact congrArg _ (List.filter_congr fun m _ => Bool.and_comm _ _)

namespace Network

variable {Φ : Type} {P : Platform Φ} {InStep : Φ → Φ → Prop} {h : P.filter.KeepsInStep InStep}
  {history : List NetworkLabel} {x : Network Φ}

theorem Sound.noReplay (hx : x.Sound h history) : NoReplay P history := by
  have hinOrder (n : SessionId) : (onConnection n (readMessages history)).filter
    (isDispatched P) <+:
      (onConnection n (sentMessages history)).filter (isDispatched P) := by
    change (readOn n history).filter (isDispatched P) <+: (sentOn n history).filter (isDispatched P)
    rcases lt_or_ge n x.clients.length with hlt | hge
    · have hlt' : n < x.acceptor.sessions.length := hx.length ▸ hlt
      have hlinked := hx.linked (List.getElem?_eq_getElem hlt) (List.getElem?_eq_getElem hlt')
      generalize x.clients[n] = client at hlinked
      obtain ⟨-, -, hend⟩ := hlinked
      cases client with
      | some client => exact hend.2.2.isPrefix.filter _
      | none =>
        rw [hend.1]
        exact List.nil_prefix
    · rw [(hx.fresh n hge).2]
      exact List.nil_prefix
  refine ⟨hinOrder, subperm_of_onConnection fun n => ?_⟩
  rw [onConnection_filter, onConnection_filter]
  exact hinOrder n

end Network

/-- Two decoders in step with one encoder give the same. -/
theorem MessageFilter.decodesAlike (aes : AesEncrypt) (z : Zlib) :
    DecodesAlike (interface aes z) (InStep z) := by
  intro s r r' encodedPayload h h'
  simp only [interface, decode, h.cipher, h.stream, h'.cipher, h'.stream]

/-- **Without an accepted replay nothing is replayed.**  In every run in which every frame that
comes up on a connection of the adversary is refused, what each session dispatches was sent by the
client on that same connection, and each message sent is dispatched at most once. -/
theorem noReplay_of_refusing (aes : AesEncrypt) (z : Zlib) (P : Platform MessageFilter)
    {applicationKey : Bytes} {history : List NetworkLabel} {x : Network MessageFilter}
    (hrun : Lts.Run (Lts.Guarded (Network.Step (P.withFilter aes z)) fun x l =>
      x.RefusesReplay (P.withFilter aes z) l.event) (.new applicationKey) history x) :
    NoReplay (P.withFilter aes z) history := by
  have hkeeps : (P.withFilter aes z).filter.KeepsInStep (MessageFilter.InStep z) :=
    MessageFilter.keepsInStep aes z
  have hsound : x.Sound hkeeps history := by
    refine hrun.historyInvariant (J := fun history x => x.Sound hkeeps history)
      (fun hx hstep => hx.step (MessageFilter.decodesAlike aes z) hstep.1 hstep.2) ?_
    exact ⟨InterserverAcceptor.registered_new applicationKey, rfl, fun _ _ => ⟨rfl, rfl⟩,
      fun h => by simp [Network.new] at h⟩
  exact hsound.noReplay

/-! ## A session recorded and replayed -/

namespace Network

variable {Φ : Type} {P : Platform Φ} {x : Network Φ} {event : NetworkEvent}

theorem event_next : (x.next P event).1.event = event := by
  cases event with
  | client n e =>
    rw [next]
    split <;> rfl
  | deliver n =>
    rw [next]
    split <;> rfl
  | _ => rfl

theorem step_next (h : x.Enabled event) : Step P x (x.next P event).1 (x.next P event).2 :=
  ⟨event_next.symm ▸ h, by rw [event_next], by rw [event_next]⟩

theorem guarded_next (hrefuses : x.RefusesReplay P event) (h : x.Enabled event) :
    Lts.Guarded (Step P) (fun x l => x.RefusesReplay P l.event) x (x.next P event).1
      (x.next P event).2 := by
  refine ⟨?_, step_next h⟩
  change x.RefusesReplay P (x.next P event).1.event
  rwa [event_next]

end Network

def trialNotification : Frame :=
  (0x0005, [0xd6, 0x38, 0xea, 0x70, 0xa2, 0xcd, 0xf7, 0x43, 0xf1, 0xf4])

/-- A client says hello and sends a notification, which its session dispatches. -/
def trialConnection : List NetworkEvent :=
  [.connect trialUuid trialTimestamp [], .client 0 (.sendNotification ⟨5, [1, 1]⟩ none),
    .client 0 .work, .client 0 .work, .deliver 0, .deliver 0, .acceptor (.session 0 .work),
    .acceptor (.session 0 .work), .acceptor (.session 0 .work)]

/-- The adversary sends the two frames again. -/
def trialReplay : List NetworkEvent :=
  [.intrude, .replay 1 (ClientHello.id, trialHello), .replay 1 trialNotification,
    .acceptor (.session 1 .work), .acceptor (.session 1 .work)]

def trialHangUp : List NetworkEvent :=
  [.acceptor (.session 0 (.shutdown 0 "")), .acceptor (.session 0 .close), .acceptor (.expire 0)]

def trialNetwork (events : List NetworkEvent) : List NetworkLabel :=
  Lts.trace (Network.next trialPlatform) (.new trialKey) events

/-- **A replay that is accepted**: the session is gone when the adversary sends its frames again. -/
theorem not_noReplay :
    (∃ x, Lts.Run (Network.Step trialPlatform) (.new trialKey)
        (trialNetwork (trialConnection ++ trialHangUp ++ trialReplay)) x) ∧
      ¬ NoReplay trialPlatform (trialNetwork (trialConnection ++ trialHangUp ++ trialReplay)) := by
  refine ⟨⟨_, Lts.Run.of_admits (Network.next trialPlatform) (fun x event => x.Enabled event)
    Network.step_next (.new trialKey) _ (by decide +kernel)⟩, fun h => ?_⟩
  have hread : (onConnection 1 (readMessages (trialNetwork (trialConnection ++ trialHangUp ++
      trialReplay)))).filter (isDispatched trialPlatform) = [(0x0005, [1, 1])] := by decide +kernel
  have hsent : (onConnection 1 (sentMessages (trialNetwork (trialConnection ++ trialHangUp ++
      trialReplay)))).filter (isDispatched trialPlatform) = [] := by decide +kernel
  have hinOrder := h.onItsConnection 1
  rw [hread, hsent] at hinOrder
  exact absurd hinOrder (by simp)

/-- **A replay that is refused**: the session is still there. -/
theorem noReplay_trial :
    NoReplay trialPlatform (trialNetwork (trialConnection ++ trialReplay)) ∧
      onConnection 0 (readMessages (trialNetwork (trialConnection ++ trialReplay)))
        = [(ClientHello.id, trialHello), (0x0005, [1, 1])] :=
  ⟨noReplay_of_refusing trialAes storedZlib trialPlatform
    (Lts.Run.of_admits (Network.next trialPlatform)
      (fun x event => x.RefusesReplay trialPlatform event ∧ x.Enabled event)
      (fun h => Network.guarded_next h.1 h.2) (.new trialKey) _ (by decide +kernel)),
    by decide +kernel⟩

end Circe.Common
