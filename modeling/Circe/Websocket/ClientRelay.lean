import Circe.Websocket.MessageRelay

/-!
# Websocket/ClientRelay — the messages of a box on their way to the client

The way back of `MessageRelay`: a shadow session's delivery queue sends batches to a foyer server,
which passes them on to the gate; there the servlet of `Websocket_packed_message_request` calls
`send` message by message.  Where a call throws, the rest of the batch is skipped and the client's
session is shut down.  On this way that is enough, whatever `Poseidon::Websocket::Session` does
besides, if nothing is sent on a session that was shut down (`WebsocketLibrary.Keeps`): the batches
that follow are skipped too and the client sees no gap (`reachesClientInOrder`).

The first `shutdown` of a shadow session enqueues a `Shutdown_job`, and its kill notification goes
the same way without waiting for the messages (`killsOnce`).
-/

namespace Circe.Websocket

/-! ## The first shutdown of a session -/

section FirstShutdown

variable {μ : Type} {y z : Session μ} {kill : ℕ × String}

theorem hasBeenShutdown_iff : y.hasBeenShutdown = true ↔ ∃ kill, y.shutdownWith = some kill :=
  Option.isSome_iff_exists

theorem Prepared.shutdownWith (hz : Prepared y z) : z.shutdownWith = y.shutdownWith := by
  cases hz <;> rfl

theorem shutdownWith_submit (host : Host) (message : μ) (fault : Option SubmitFault)
    (y : Session μ) : (y.submit host message fault).2.shutdownWith = y.shutdownWith := by
  obtain ⟨z, hz, hrefused | ⟨-, -, haccepted⟩⟩ := submit_cases host message fault y
  · rw [hrefused]
    exact hz.shutdownWith
  · rw [haccepted]
    exact hz.shutdownWith

theorem shutdownWith_takeMessages (job : ℕ) (y : Session μ) :
    (y.takeMessages job).2.shutdownWith = y.shutdownWith := by
  rw [Session.takeMessages]
  split <;> rfl

theorem shutdownWith_shutdown (hdown : y.shutdownWith = some kill) (statusCode : ℕ)
    (reason : String) : (y.shutdown statusCode reason).shutdownWith = some kill := by
  simp [Session.shutdown, hdown]

/-- **The first shutdown of a session counts.** -/
theorem shutdownWith_handle (host : Host) (hdown : y.shutdownWith = some kill)
    (event : DeliveryEvent μ) : (y.handle host event).2.shutdownWith = some kill := by
  cases event with
  | onSyncDataMessage message fault =>
    exact (shutdownWith_submit host message fault y).trans hdown
  | send message =>
    simp only [Session.handle]
    split <;> exact hdown
  | sendLocked call fault =>
    simp only [Session.handle]
    split
    · exact (shutdownWith_submit host _ fault _).trans hdown
    · exact hdown
  | lock job =>
    simp only [Session.handle]
    repeat' split
    · exact (shutdownWith_takeMessages job y).trans hdown
    · exact hdown
    · exact (shutdownWith_takeMessages job y).trans hdown
    · exact hdown
  | sendRequest job thrown | waitForResponse job thrown =>
    simp only [Session.handle]
    split <;> exact hdown
  | catchException job =>
    simp only [Session.handle]
    split
    · exact shutdownWith_shutdown hdown _ _
    · exact hdown
  | perform foyerConn => exact hdown
  | shutdown statusCode reason => exact shutdownWith_shutdown hdown statusCode reason

end FirstShutdown

/-! ## The three servers -/

/-- What a client is sent: a message of the box, a message of someone else (an auth server, a
broadcast), or the closure frame. -/
inductive ClientFrame (μ : Type)
  | relayed (message : μ)
  | other (message : μ)
  | close (statusCode : ℕ) (reason : String)
deriving DecidableEq

variable {Ω μ : Type}

/-- The messages of the box among the frames. -/
def relayedIn (frames : List (ClientFrame μ)) : List μ :=
  frames.filterMap fun
    | .relayed message => some message
    | _ => none

/-- What the servlets of a gate use of `Poseidon::Websocket::Session`, and what becomes of it when
it is torn down; `frames` are what it has sent. -/
structure WebsocketLibrary (Ω μ : Type) where
  frames : Ω → List (ClientFrame μ)
  hasBeenShutdown : Ω → Bool
  send : Ω → ClientFrame μ → Ω
  shutdown : Ω → ℕ → String → Ω
  forceShutdown : Ω → Ω

/-- **What the relay asks of a session**: `send` sends a message, unless the session has been shut
down; a shutdown is for good, and sends a closure frame at most. -/
structure WebsocketLibrary.Keeps (L : WebsocketLibrary Ω μ) : Prop where
  frames_send : ∀ w frame, L.hasBeenShutdown w = false →
    L.frames (L.send w frame) = L.frames w ++ [frame]
  frames_send_down : ∀ w frame, L.hasBeenShutdown w = true → L.frames (L.send w frame) = L.frames w
  hasBeenShutdown_send : ∀ w frame, L.hasBeenShutdown (L.send w frame) = L.hasBeenShutdown w
  frames_shutdown : ∀ w statusCode reason, L.frames (L.shutdown w statusCode reason) = L.frames w ∨
    L.frames (L.shutdown w statusCode reason) = L.frames w ++ [.close statusCode reason]
  hasBeenShutdown_shutdown : ∀ w statusCode reason,
    L.hasBeenShutdown (L.shutdown w statusCode reason) = true
  frames_forceShutdown : ∀ w, L.frames (L.forceShutdown w) = L.frames w
  hasBeenShutdown_forceShutdown : ∀ w, L.hasBeenShutdown (L.forceShutdown w) = true

/-- A shadow session on a box, its client's session on the gate, and what is on its way. -/
structure ClientRelay (Ω μ : Type) where
  box : Session μ
  /-- The requests that the foyer server and the gate have not seen. -/
  toFoyer : List (List μ)
  toGate : List (List μ)
  /-- The messages that the loop of the servlet still has to go through. -/
  handling : Option (List μ)
  /-- The responses that the foyer server and the box have not seen. -/
  answersToFoyer : ℕ
  answersToBox : ℕ
  /-- `get_websocket_session` finds the client's session. -/
  connected : Bool
  client : Ω
  /-- The kill notifications not yet sent, those that the foyer server and the gate have not seen,
  and those that found the client's session. -/
  shutdownJobs : List (ℕ × String)
  killsToFoyer : List (ℕ × String)
  killsToGate : List (ℕ × String)
  killed : List (ℕ × String)
deriving DecidableEq

inductive ClientRelayEvent (μ : Type)
  | box (event : DeliveryEvent μ)
  /-- `Websocket_closure_notification` on the box: the shadow session is marked. -/
  | markShutdown (statusCode : ℕ) (reason : String)
  /-- `Websocket_packed_message_request_to_gate`, with a connection to the gate or without. -/
  | foyerRequest (gateConn : Bool)
  /-- `Websocket_packed_message_request`, up to its loop. -/
  | gateRequest
  /-- The next call of `send` in the loop. -/
  | send (thrown : Option String)
  | gateResponse
  | foyerResponse
  /-- A `Shutdown_job` is performed; the notification is not sent where a connection is missing. -/
  | shutdownJob (foyerConn : Bool)
  /-- `Websocket_kill_notification_to_gate`. -/
  | foyerKill (gateConn : Bool)
  /-- `Websocket_kill_notification`. -/
  | killNotification (badNumericCast : Bool)
  /-- Someone else sends the client a message. -/
  | sendOther (message : μ)
  /-- The client's session is shut down by something else, with a closure frame or without. -/
  | shutdown (closure : Option (ℕ × String))
  /-- The client's session is gone. -/
  | disconnect
deriving DecidableEq

namespace ClientRelay

/-- A shadow session just made. -/
def start (deliveryJobActive connected : Bool) (client : Ω) : ClientRelay Ω μ :=
  { box := .new deliveryJobActive
    toFoyer := []
    toGate := []
    handling := none
    answersToFoyer := 0
    answersToBox := 0
    connected := connected
    client := client
    shutdownJobs := []
    killsToFoyer := []
    killsToGate := []
    killed := [] }

def Enabled (x : ClientRelay Ω μ) : ClientRelayEvent μ → Prop
  | .box event => x.box.Enabled .box event ∧ (event.takesResponse = true → 0 < x.answersToBox)
  | .foyerRequest _ => x.toFoyer ≠ []
  | .gateRequest => x.toGate ≠ []
  | .send _ => x.handling.any fun messages => !messages.isEmpty
  | .gateResponse => x.handling.any List.isEmpty
  | .foyerResponse => 0 < x.answersToFoyer
  | .shutdownJob _ => x.shutdownJobs ≠ []
  | .foyerKill _ => x.killsToFoyer ≠ []
  | .killNotification _ => x.killsToGate ≠ []
  | .markShutdown .. | .sendOther _ | .shutdown _ | .disconnect => True

instance [DecidableEq μ] (x : ClientRelay Ω μ) : DecidablePred x.Enabled
  | .box _ => inferInstanceAs (Decidable (_ ∧ _))
  | .foyerRequest _ | .gateRequest | .shutdownJob _ | .foyerKill _ | .killNotification _ =>
    inferInstanceAs (Decidable (_ ≠ []))
  | .send _ | .gateResponse => inferInstanceAs (Decidable (_ = true))
  | .foyerResponse => inferInstanceAs (Decidable (_ < _))
  | .markShutdown .. | .sendOther _ | .shutdown _ | .disconnect =>
    inferInstanceAs (Decidable True)

variable (L : WebsocketLibrary Ω μ)

/-- One event: what the delivery queue of the box did, and the three servers afterwards. -/
def handle (x : ClientRelay Ω μ) : ClientRelayEvent μ → List (DeliveryEffect μ) × ClientRelay Ω μ
  | .box event =>
    let (effects, box) := x.box.handle .box event
    (effects, { x with
      box := box
      toFoyer := x.toFoyer ++ requestsOf effects
      answersToBox := if event.takesResponse then x.answersToBox - 1 else x.answersToBox
      -- `Websocket_shadow_session::shutdown`: only the first call enqueues a job.
      shutdownJobs :=
        if x.box.hasBeenShutdown then x.shutdownJobs
        else x.shutdownJobs ++ box.shutdownWith.toList })
  | .markShutdown statusCode reason => ([], { x with box := x.box.shutdown statusCode reason })
  | .foyerRequest gateConn =>
    ([], { x with
      toFoyer := x.toFoyer.tail
      -- Without the connection the servlet throws; the box gets an error.
      toGate := if gateConn then x.toGate ++ x.toFoyer.head?.toList else x.toGate })
  | .gateRequest =>
    let x' := { x with toGate := x.toGate.tail }
    if x.connected then ([], { x' with handling := x.toGate.head? })
    else ([], { x' with answersToFoyer := x.answersToFoyer + 1 })
  | .send thrown =>
    match x.handling with
    | some (message :: messages) =>
      match thrown with
      | none =>
        ([], { x with
          client := L.send x.client (.relayed message)
          handling := some messages })
      | some what =>
        ([], { x with
          client := L.shutdown x.client statusInternalError what
          handling := none
          answersToFoyer := x.answersToFoyer + 1 })
    | _ => ([], x)
  | .gateResponse => ([], { x with handling := none, answersToFoyer := x.answersToFoyer + 1 })
  | .foyerResponse =>
    ([], { x with
      answersToFoyer := x.answersToFoyer - 1
      answersToBox := x.answersToBox + 1 })
  | .shutdownJob foyerConn =>
    ([], { x with
      shutdownJobs := x.shutdownJobs.tail
      killsToFoyer :=
        if foyerConn then x.killsToFoyer ++ x.shutdownJobs.head?.toList else x.killsToFoyer })
  | .foyerKill gateConn =>
    ([], { x with
      killsToFoyer := x.killsToFoyer.tail
      killsToGate :=
        if gateConn then x.killsToGate ++ x.killsToFoyer.head?.toList else x.killsToGate })
  | .killNotification badNumericCast =>
    match x.killsToGate with
    | (statusCode, reason) :: kills =>
      if x.connected ∧ badNumericCast = false then
        ([], { x with
          client := L.shutdown x.client statusCode reason
          killsToGate := kills
          killed := x.killed ++ [(statusCode, reason)] })
      else ([], { x with killsToGate := kills })
    | [] => ([], x)
  | .sendOther message => ([], { x with client := L.send x.client (.other message) })
  | .shutdown (some (statusCode, reason)) =>
    ([], { x with client := L.shutdown x.client statusCode reason })
  | .shutdown none => ([], { x with client := L.forceShutdown x.client })
  | .disconnect => ([], { x with connected := false })

end ClientRelay

/-- An event and what the delivery queue of the box did. -/
structure ClientRelayLabel (μ : Type) where
  event : ClientRelayEvent μ
  effects : List (DeliveryEffect μ)
deriving DecidableEq

namespace ClientRelay

variable (L : WebsocketLibrary Ω μ)

def next (x : ClientRelay Ω μ) (event : ClientRelayEvent μ) :
    ClientRelayLabel μ × ClientRelay Ω μ :=
  let (effects, y) := x.handle L event
  (⟨event, effects⟩, y)

def Step (x : ClientRelay Ω μ) (l : ClientRelayLabel μ) (y : ClientRelay Ω μ) : Prop :=
  x.Enabled l.event ∧ x.handle L l.event = (l.effects, y)

/-- What the delivery queue of the box did in a history. -/
def boxLog (history : List (ClientRelayLabel μ)) : DeliveryLog μ :=
  (history.flatMap ClientRelayLabel.effects).foldl DeliveryLog.add .empty

theorem boxLog_concat (history : List (ClientRelayLabel μ)) (l : ClientRelayLabel μ) :
    boxLog (history ++ [l]) = l.effects.foldl DeliveryLog.add (boxLog history) := by
  simp [boxLog]

/-! ## What the client is sent -/

/-- **The client is sent what the box accepted, without gaps**, and everything once the box has
nothing left to do. -/
structure ReachesClientInOrder (log : DeliveryLog μ) (x : ClientRelay Ω μ) : Prop where
  isPrefix : relayedIn (L.frames x.client) <+: log.accepted
  /-- A shadow session that no job is to work for, and that was not shut down. -/
  complete : x.box.enqueued = 0 → x.box.jobs = [] → x.box.hasBeenShutdown = false →
    x.connected = true → L.hasBeenShutdown x.client = false →
      relayedIn (L.frames x.client) = log.accepted

/-- What the gate has seen of what the box sent: `arrived`.  While the client's session can be sent
to, all of it was or is about to be. -/
structure ClientRelayed (log : DeliveryLog μ) (x : ClientRelay Ω μ) (arrived : List (List μ)) :
    Prop where
  inTransit : arrived ++ x.toGate ++ x.toFoyer <+: log.sent
  answers : log.answered.length + (x.handling.elim 0 fun _ => 1) + x.answersToFoyer
    + x.answersToBox ≤ arrived.length
  isPrefix : relayedIn (L.frames x.client) <+: arrived.flatten
  complete : L.hasBeenShutdown x.client = false → (x.connected || x.handling.isSome) = true →
    relayedIn (L.frames x.client) ++ x.handling.getD [] = arrived.flatten

/-- The kill notifications there are, in any place. -/
def kills (x : ClientRelay Ω μ) : List (ℕ × String) :=
  x.killed ++ x.killsToGate ++ x.killsToFoyer ++ x.shutdownJobs

structure ClientRelayInv (log : DeliveryLog μ) (x : ClientRelay Ω μ) : Prop where
  box : DeliveryInv .box log x.box
  relayed : ∃ arrived, ClientRelayed L log x arrived

/-! ### Frames -/

variable {L} {log : DeliveryLog μ} {x : ClientRelay Ω μ} {arrived : List (List μ)}

@[simp] theorem relayedIn_append (frames : List (ClientFrame μ)) (frame : ClientFrame μ) :
    relayedIn (frames ++ [frame]) = relayedIn frames ++ relayedIn [frame] := by
  simp [relayedIn]

/-- Nobody else sends a message of the box. -/
theorem relayedIn_send_other (hL : L.Keeps) (w : Ω) (message : μ) :
    relayedIn (L.frames (L.send w (.other message))) = relayedIn (L.frames w) := by
  cases hdown : L.hasBeenShutdown w with
  | true => rw [hL.frames_send_down w _ hdown]
  | false =>
    rw [hL.frames_send w _ hdown, relayedIn_append]
    exact List.append_nil _

theorem relayedIn_shutdown (hL : L.Keeps) (w : Ω) (statusCode : ℕ) (reason : String) :
    relayedIn (L.frames (L.shutdown w statusCode reason)) = relayedIn (L.frames w) := by
  rcases hL.frames_shutdown w statusCode reason with hsame | hclosed
  · rw [hsame]
  · rw [hclosed, relayedIn_append]
    exact List.append_nil _

/-- **Once the client's session is shut down** only the batches on their way matter. -/
theorem ClientRelayed.of_down {w : Ω} (h : ClientRelayed L log x arrived)
    (hframes : relayedIn (L.frames w) = relayedIn (L.frames x.client))
    (hdown : L.hasBeenShutdown w = true) :
    ClientRelayed L log { x with client := w } arrived := by
  obtain ⟨htransit, hanswers, hprefix, -⟩ := h
  refine ⟨htransit, hanswers, hframes.symm ▸ hprefix, fun hopen => ?_⟩
  exact absurd (hdown.symm.trans hopen) (by simp)

theorem ClientRelayed.shutdown (h : ClientRelayed L log x arrived) (hL : L.Keeps) (statusCode : ℕ)
    (reason : String) :
    ClientRelayed L log { x with client := L.shutdown x.client statusCode reason } arrived :=
  h.of_down (relayedIn_shutdown hL _ _ _) (hL.hasBeenShutdown_shutdown _ _ _)

theorem ClientRelayed.sendOther (h : ClientRelayed L log x arrived) (hL : L.Keeps) (message : μ) :
    ClientRelayed L log { x with client := L.send x.client (.other message) } arrived := by
  obtain ⟨htransit, hanswers, hprefix, hcomplete⟩ := h
  have hframes := relayedIn_send_other hL x.client message
  refine ⟨htransit, hanswers, hframes.symm ▸ hprefix, fun hopen => ?_⟩
  rw [hL.hasBeenShutdown_send] at hopen
  simpa only [hframes] using hcomplete hopen

/-! ### Steps -/

/-- At most one request or response is on its way. -/
theorem ClientRelayed.length_le (h : ClientRelayed L log x arrived) (hbehind : Behind log) :
    x.toGate.length + x.toFoyer.length + (x.handling.elim 0 fun _ => 1) + x.answersToFoyer
      + x.answersToBox ≤ 1 := by
  have hsent := h.inTransit.length_le
  have htaken := hbehind.sent_taken.length_le
  have hlength := hbehind.length
  have hanswers := h.answers
  simp only [List.length_append] at hsent
  omega

/-- When every batch was answered, all of them arrived and nothing is on its way. -/
theorem ClientRelayed.of_settled (h : ClientRelayed L log x arrived)
    (hsent : log.sent = log.answered) :
    arrived = log.sent ∧ x.toGate = [] ∧ x.toFoyer = [] ∧ x.handling = none := by
  have hle := h.inTransit.length_le
  have hanswers := h.answers
  rw [hsent] at hle
  simp only [List.length_append] at hle
  have htoGate : x.toGate = [] := List.length_eq_zero_iff.mp (by omega)
  have htoFoyer : x.toFoyer = [] := List.length_eq_zero_iff.mp (by omega)
  have htransit := h.inTransit
  rw [htoGate, htoFoyer, List.append_nil, List.append_nil] at htransit
  refine ⟨htransit.eq_of_length_le ?_, htoGate, htoFoyer, ?_⟩
  · rw [hsent]
    omega
  · cases hhandling : x.handling with
    | none => rfl
    | some messages =>
      rw [hhandling, Option.elim_some] at hanswers
      omega

/-- **A step of the box's delivery queue.** -/
theorem ClientRelayed.box (h : ClientRelayed L log x arrived) (hbox : DeliveryInv .box log x.box)
    {event : DeliveryEvent μ} (hresponse : event.takesResponse = true → 0 < x.answersToBox) :
    ClientRelayed L ((x.box.handle .box event).1.foldl DeliveryLog.add log)
      (x.handle L (.box event)).2 arrived := by
  have hsettled := h.of_settled
  obtain ⟨htransit, hanswers, hprefix, hcomplete⟩ := h
  have hdid := did_handle .box x.box event
  simp only [handle]
  generalize x.box.handle .box event = r at hdid ⊢
  obtain ⟨effects, box⟩ := r
  dsimp only at hdid ⊢
  have hfewer : (if event.takesResponse = true then x.answersToBox - 1 else x.answersToBox)
      ≤ x.answersToBox := by
    split <;> omega
  cases hdid with
  | nothing | accepted | took =>
    refine ⟨?_, ?_, hprefix, hcomplete⟩
    · simpa [requestsOf, DeliveryLog.add] using htransit
    · simp only [List.foldl_cons, List.foldl_nil, DeliveryLog.add]
      omega
  | sent job batch hjob =>
    obtain ⟨hall, htoGate, htoFoyer, -⟩ := hsettled (hbox.phase.of_job hjob).2.2.2.2.2
    refine ⟨?_, ?_, hprefix, hcomplete⟩
    · simp [requestsOf, DeliveryLog.add, hall, htoGate, htoFoyer]
    · simp only [List.foldl_cons, List.foldl_nil, DeliveryLog.add]
      omega
  | answered batch hevent =>
    have hpositive := hresponse hevent
    refine ⟨?_, ?_, hprefix, hcomplete⟩
    · simpa [requestsOf, DeliveryLog.add] using htransit
    · simp only [List.foldl_cons, List.foldl_nil, DeliveryLog.add, List.length_append,
        List.length_singleton, if_pos hevent]
      omega

/-- **A batch comes up at the gate.** -/
theorem ClientRelayed.gateRequest (h : ClientRelayed L log x arrived) (hbehind : Behind log)
    (henabled : x.toGate ≠ []) :
    ∃ arrived, ClientRelayed L log (x.handle L .gateRequest).2 arrived := by
  obtain ⟨batch, rest, htoGate⟩ := List.exists_cons_of_ne_nil henabled
  have hlength := h.length_le hbehind
  rw [htoGate, List.length_cons] at hlength
  obtain rfl : rest = [] := List.length_eq_zero_iff.mp (by omega)
  have htoFoyer : x.toFoyer = [] := List.length_eq_zero_iff.mp (by omega)
  have hidle : x.handling = none := by
    cases hhandling : x.handling with
    | none => rfl
    | some messages =>
      rw [hhandling, Option.elim_some] at hlength
      omega
  obtain ⟨htransit, hanswers, hprefix, hcomplete⟩ := h
  rw [htoGate, htoFoyer, List.append_nil] at htransit
  rw [hidle, Option.elim_none] at hanswers
  simp only [hidle, Option.isSome_none, Bool.or_false, Option.getD_none,
    List.append_nil] at hcomplete
  refine ⟨arrived ++ [batch], ?_⟩
  have hlonger : relayedIn (L.frames x.client) <+: (arrived ++ [batch]).flatten := by
    rw [List.flatten_append]
    exact hprefix.trans (List.prefix_append _ _)
  simp only [handle]
  split
  case isTrue hconnected =>
    refine ⟨?_, ?_, hlonger, fun hopen _ => ?_⟩
    · simpa [htoGate, htoFoyer] using htransit
    · simp only [htoGate, List.head?_cons, Option.elim_some, List.length_append,
        List.length_singleton]
      omega
    · simp [htoGate, hcomplete hopen hconnected]
  case isFalse hgone =>
    refine ⟨?_, ?_, hlonger, fun _ hsome => ?_⟩
    · simpa [htoGate, htoFoyer] using htransit
    · simp only [hidle, Option.elim_none, List.length_append, List.length_singleton]
      omega
    · simp [hgone, hidle] at hsome

/-- **The loop of the servlet goes on.** -/
theorem ClientRelayed.send (h : ClientRelayed L log x arrived) (hL : L.Keeps)
    (thrown : Option String) : ClientRelayed L log (x.handle L (.send thrown)).2 arrived := by
  simp only [handle]
  split
  case h_2 => exact h
  case h_1 message messages hmessages =>
    cases thrown with
    | none =>
      obtain ⟨htransit, hanswers, hprefix, hcomplete⟩ := h
      simp only [hmessages, Option.elim_some, Option.isSome_some, Bool.or_true,
        Option.getD_some, forall_const] at hanswers hcomplete
      cases hdown : L.hasBeenShutdown x.client with
      | true =>
        refine ⟨htransit, hanswers, ?_, fun hopen => ?_⟩
        · rwa [hL.frames_send_down _ _ hdown]
        · rw [hL.hasBeenShutdown_send] at hopen
          exact absurd (hdown.symm.trans hopen) (by simp)
      | false =>
        have hframes : relayedIn (L.frames (L.send x.client (.relayed message))) ++ messages
            = arrived.flatten := by
          rw [hL.frames_send _ _ hdown, relayedIn_append, List.append_assoc]
          exact hcomplete hdown
        exact ⟨htransit, hanswers, ⟨messages, hframes⟩, fun _ _ => hframes⟩
    | some what =>
      obtain ⟨htransit, hanswers, hprefix, -⟩ := h.shutdown hL statusInternalError what
      refine ⟨htransit, ?_, hprefix, fun hopen => ?_⟩
      · simp only [hmessages, Option.elim_some] at hanswers
        simp only [Option.elim_none]
        omega
      · exact absurd ((hL.hasBeenShutdown_shutdown _ _ _).symm.trans hopen) (by simp)

/-- **Every event keeps the invariant.** -/
theorem ClientRelayInv.handle (h : ClientRelayInv L log x) (hL : L.Keeps)
    {event : ClientRelayEvent μ} (henabled : x.Enabled event) :
    ClientRelayInv L ((x.handle L event).1.foldl DeliveryLog.add log) (x.handle L event).2 := by
  obtain ⟨hbox, arrived, hrelayed⟩ := h
  cases event with
  | box event => exact ⟨hbox.handle henabled.1, arrived, hrelayed.box hbox henabled.2⟩
  | markShutdown statusCode reason =>
    have hdown := hbox.handle (show x.box.Enabled .box (.shutdown statusCode reason) from trivial)
    obtain ⟨htransit, hanswers, hprefix, hcomplete⟩ := hrelayed
    exact ⟨hdown, arrived, htransit, hanswers, hprefix, hcomplete⟩
  | foyerRequest gateConn =>
    obtain ⟨batch, rest, htoFoyer⟩ := List.exists_cons_of_ne_nil henabled
    have hlength := hrelayed.length_le hbox.behind
    obtain ⟨htransit, hanswers, hprefix, hcomplete⟩ := hrelayed
    rw [htoFoyer, List.length_cons] at hlength
    obtain rfl : rest = [] := List.length_eq_zero_iff.mp (by omega)
    refine ⟨hbox, arrived, ?_, hanswers, hprefix, hcomplete⟩
    cases gateConn with
    | true => simpa [ClientRelay.handle, htoFoyer] using htransit
    | false =>
      refine List.IsPrefix.trans ?_ htransit
      simp [ClientRelay.handle, htoFoyer]
  | gateRequest =>
    have hrelayed' := hrelayed.gateRequest hbox.behind henabled
    simp only [ClientRelay.handle] at hrelayed' ⊢
    split
    case isTrue hconnected =>
      rw [if_pos hconnected] at hrelayed'
      exact ⟨hbox, hrelayed'⟩
    case isFalse hgone =>
      rw [if_neg hgone] at hrelayed'
      exact ⟨hbox, hrelayed'⟩
  | send thrown =>
    have hrelayed' := hrelayed.send hL thrown
    simp only [ClientRelay.handle] at hrelayed' ⊢
    split at hrelayed'
    case h_2 => exact ⟨hbox, arrived, hrelayed'⟩
    case h_1 =>
      cases thrown <;> exact ⟨hbox, arrived, hrelayed'⟩
  | gateResponse =>
    obtain ⟨htransit, hanswers, hprefix, hcomplete⟩ := hrelayed
    obtain ⟨messages, hmessages, hempty⟩ :
        ∃ messages, x.handling = some messages ∧ messages = [] := by
      cases hx : x.handling with
      | none => exact absurd henabled (by simp [ClientRelay.Enabled, hx])
      | some messages => exact ⟨messages, rfl, by simpa [ClientRelay.Enabled, hx] using henabled⟩
    subst hempty
    simp only [hmessages, Option.elim_some, Option.isSome_some, Bool.or_true, Option.getD_some,
      forall_const] at hanswers hcomplete
    refine ⟨hbox, arrived, htransit, ?_, hprefix, fun hopen _ => hcomplete hopen⟩
    simp only [ClientRelay.handle, Option.elim_none, List.foldl_nil]
    omega
  | foyerResponse =>
    obtain ⟨htransit, hanswers, hprefix, hcomplete⟩ := hrelayed
    refine ⟨hbox, arrived, htransit, ?_, hprefix, hcomplete⟩
    have hpositive : 0 < x.answersToFoyer := henabled
    simp only [ClientRelay.handle, List.foldl_nil]
    omega
  | shutdownJob foyerConn | foyerKill gateConn =>
    obtain ⟨htransit, hanswers, hprefix, hcomplete⟩ := hrelayed
    exact ⟨hbox, arrived, htransit, hanswers, hprefix, hcomplete⟩
  | killNotification badNumericCast =>
    simp only [ClientRelay.handle]
    split
    case h_2 => exact ⟨hbox, arrived, hrelayed⟩
    case h_1 statusCode reason kills hkills =>
      split
      case isTrue =>
        obtain ⟨htransit, hanswers, hprefix, hcomplete⟩ := hrelayed.shutdown hL statusCode reason
        exact ⟨hbox, arrived, htransit, hanswers, hprefix, hcomplete⟩
      case isFalse =>
        obtain ⟨htransit, hanswers, hprefix, hcomplete⟩ := hrelayed
        exact ⟨hbox, arrived, htransit, hanswers, hprefix, hcomplete⟩
  | sendOther message => exact ⟨hbox, arrived, hrelayed.sendOther hL message⟩
  | shutdown closure =>
    cases closure with
    | some closure => exact ⟨hbox, arrived, hrelayed.shutdown hL closure.1 closure.2⟩
    | none =>
      refine ⟨hbox, arrived, hrelayed.of_down ?_ (hL.hasBeenShutdown_forceShutdown _)⟩
      rw [hL.frames_forceShutdown]
  | disconnect =>
    obtain ⟨htransit, hanswers, hprefix, hcomplete⟩ := hrelayed
    refine ⟨hbox, arrived, htransit, hanswers, hprefix, fun hopen hfound => ?_⟩
    exact hcomplete hopen (Bool.or_eq_true_iff.mpr (.inr hfound))

theorem clientRelayInv_start (deliveryJobActive connected : Bool) {client : Ω}
    (hfresh : relayedIn (L.frames client) = []) :
    ClientRelayInv L .empty (start deliveryJobActive connected client) := by
  refine ⟨deliveryInv_new .box deliveryJobActive, [], List.prefix_rfl, le_rfl, ?_, fun _ _ => ?_⟩
  · exact hfresh ▸ List.prefix_rfl
  · exact (List.append_nil _).trans hfresh

/-! ## Kill notifications -/

/-- **The one kill notification** says what the shadow session was first shut down with. -/
def KillsOnce (x : ClientRelay Ω μ) : Prop := x.kills.Sublist x.box.shutdownWith.toList

/-- A notification that goes on, or is lost. -/
theorem sublist_passOn {α : Type} (before after : List α) (goesOn : Bool) :
    (if goesOn then after ++ before.head?.toList else after) ++ before.tail
      |>.Sublist (after ++ before) := by
  cases before with
  | nil => cases goesOn <;> simp
  | cons a rest => cases goesOn <;> simp

/-- **A step of the box** makes a kill notification only where it shuts the session down first. -/
theorem kills_box (x : ClientRelay Ω μ) (event : DeliveryEvent μ) :
    (x.handle L (.box event)).2.kills
      = if x.box.hasBeenShutdown then x.kills
        else x.kills ++ (x.box.handle .box event).2.shutdownWith.toList := by
  simp only [kills, handle]
  split
  · rfl
  · simp only [List.append_assoc]

/-- **No other event makes one.** -/
theorem kills_handle (x : ClientRelay Ω μ) {event : ClientRelayEvent μ}
    (hother : ∀ e, event ≠ .box e) : (x.handle L event).2.kills.Sublist x.kills := by
  cases event with
  | box e => exact absurd rfl (hother e)
  | send thrown =>
    simp only [handle]
    split
    case h_2 => exact List.Sublist.refl _
    case h_1 => cases thrown <;> exact List.Sublist.refl _
  | gateRequest =>
    simp only [handle]
    split <;> exact List.Sublist.refl _
  | shutdownJob foyerConn =>
    simp only [kills, handle, List.append_assoc]
    refine List.Sublist.append_left (List.Sublist.append_left ?_ _) _
    exact sublist_passOn x.shutdownJobs x.killsToFoyer foyerConn
  | foyerKill gateConn =>
    simp only [kills, handle, List.append_assoc]
    refine List.Sublist.append_left ?_ _
    rw [← List.append_assoc, ← List.append_assoc]
    exact (sublist_passOn x.killsToFoyer x.killsToGate gateConn).append_right _
  | killNotification badNumericCast =>
    simp only [handle]
    split
    case h_2 => exact List.Sublist.refl _
    case h_1 statusCode reason rest hrest =>
      split
      case isTrue => simp [kills, hrest]
      case isFalse => simp [kills, hrest]
  | shutdown closure => cases closure <;> exact List.Sublist.refl _
  | sendOther | markShutdown | foyerRequest | gateResponse | foyerResponse | disconnect =>
    exact List.Sublist.refl _

theorem shutdownWith_step {kill : ℕ × String} (hdown : x.box.shutdownWith = some kill)
    (event : ClientRelayEvent μ) : (x.handle L event).2.box.shutdownWith = some kill := by
  cases event with
  | box event => exact shutdownWith_handle .box hdown event
  | markShutdown statusCode reason => exact shutdownWith_shutdown hdown statusCode reason
  | send thrown =>
    simp only [handle]
    split
    case h_2 => exact hdown
    case h_1 => cases thrown <;> exact hdown
  | gateRequest =>
    simp only [handle]
    split <;> exact hdown
  | killNotification badNumericCast =>
    simp only [handle]
    split
    case h_2 => exact hdown
    case h_1 => split <;> exact hdown
  | shutdown closure => cases closure <;> exact hdown
  | sendOther | foyerRequest | gateResponse | foyerResponse | shutdownJob | foyerKill
  | disconnect => exact hdown

/-- **No event makes one for a session that was shut down or marked.** -/
theorem kills_step (hdown : x.box.hasBeenShutdown = true) (event : ClientRelayEvent μ) :
    (x.handle L event).2.kills.Sublist x.kills := by
  by_cases hbox : ∃ e, event = .box e
  · obtain ⟨e, rfl⟩ := hbox
    have hsame : (x.handle L (.box e)).2.kills = x.kills := by rw [kills_box, if_pos hdown]
    exact hsame ▸ List.Sublist.refl _
  · exact kills_handle x fun e he => hbox ⟨e, he⟩

theorem KillsOnce.handle (h : x.KillsOnce) (event : ClientRelayEvent μ) :
    (x.handle L event).2.KillsOnce := by
  cases hdown : x.box.shutdownWith with
  | some kill =>
    have hless := kills_step (L := L) (hasBeenShutdown_iff.mpr ⟨kill, hdown⟩) event
    rw [KillsOnce, shutdownWith_step hdown event, ← hdown]
    exact hless.trans h
  | none =>
    have hnone : x.kills = [] := by simpa [KillsOnce, hdown] using h
    by_cases hbox : ∃ e, event = .box e
    · obtain ⟨e, rfl⟩ := hbox
      have hopen : x.box.hasBeenShutdown = false := by simp [Session.hasBeenShutdown, hdown]
      rw [KillsOnce, kills_box, hopen, hnone, if_neg Bool.false_ne_true, List.nil_append]
      exact List.Sublist.refl _
    · have hless : (x.handle L event).2.kills.Sublist x.kills :=
        kills_handle x fun e he => hbox ⟨e, he⟩
      rw [hnone] at hless
      rw [KillsOnce, List.sublist_nil.mp hless]
      exact List.nil_sublist _

end ClientRelay

/-! ## Runs -/

open ClientRelay

section Runs

variable {L : WebsocketLibrary Ω μ} {deliveryJobActive connected : Bool} {client : Ω}
  {history later : List (ClientRelayLabel μ)} {x y : ClientRelay Ω μ}

/-- **A client is sent what the box accepted, in order and without gaps**, whatever is interleaved,
lost or thrown on the way; and everything, once the shadow session is at rest. -/
theorem reachesClientInOrder (hL : L.Keeps) (hfresh : relayedIn (L.frames client) = [])
    (hrun : Lts.Run (Step L) (start deliveryJobActive connected client) history x) :
    ReachesClientInOrder L (boxLog history) x := by
  have hinv : ClientRelayInv L (boxLog history) x := by
    refine hrun.historyInvariant (J := fun history x => ClientRelayInv L (boxLog history) x) ?_
      (clientRelayInv_start deliveryJobActive connected hfresh)
    intro ls s l t h hstep
    have hhandle := h.handle hL hstep.1
    rw [hstep.2] at hhandle
    rwa [boxLog_concat]
  obtain ⟨hbox, arrived, hrelayed⟩ := hinv
  have hlost := hbox.nothingLost
  have harrived : arrived.flatten <+: (boxLog history).accepted := by
    obtain ⟨rest, hrest⟩ := hrelayed.inTransit
    obtain ⟨rest', hrest'⟩ := hbox.behind.sent_taken
    rw [← hlost, ← hrest', ← hrest]
    simp only [List.flatten_append, List.append_assoc]
    exact List.prefix_append _ _
  refine ⟨hrelayed.isPrefix.trans harrived, ?_⟩
  intro hnone hnojobs hup hconnected hopen
  cases hbox.phase with
  | enqueued _ hone => exact absurd (hone.symm.trans hnone) Nat.one_ne_zero
  | running _ _ job hjobs => exact absurd (hjobs.symm.trans hnojobs) (List.cons_ne_nil _ _)
  | stopped _ _ _ hdown => exact absurd (hdown.symm.trans hup) (by simp)
  | idle _ _ _ hempty hsettled =>
    obtain ⟨hall, -, -, hidle⟩ := hrelayed.of_settled hsettled.sent
    have hcomplete := hrelayed.complete hopen (by simp [hconnected])
    rw [hidle, Option.getD_none, List.append_nil, hall, hsettled.sent, ← hsettled.taken]
      at hcomplete
    rw [← hlost, hempty, List.append_nil, hcomplete]

/-- **A client is killed at most once**, with what its shadow session was first shut down with; and
it is not killed where the session was marked without that. -/
theorem killed_once
    (hrun : Lts.Run (Step L) (start deliveryJobActive connected client) history x)
    (hlater : Lts.Run (Step L) x later y) :
    (y.killed = [] ∨ ∃ kill, y.killed = [kill] ∧ y.box.shutdownWith = some kill) ∧
      (x.box.hasBeenShutdown = true → y.kills.Sublist x.kills) := by
  have hstep : ∀ {s : ClientRelay Ω μ} {l t}, s.KillsOnce → Step L s l t → t.KillsOnce := by
    intro s l t h hstep
    have hhandle := h.handle (L := L) l.event
    rwa [hstep.2] at hhandle
  have hx : x.KillsOnce := hrun.invariant hstep (List.Sublist.refl _)
  have hy : y.KillsOnce := hlater.invariant hstep hx
  constructor
  · have hkilled : y.killed.Sublist y.box.shutdownWith.toList := by
      refine List.Sublist.trans ?_ hy
      rw [kills, List.append_assoc, List.append_assoc]
      exact List.sublist_append_left _ _
    cases hdown : y.box.shutdownWith with
    | none =>
      rw [hdown] at hkilled
      exact .inl (List.sublist_nil.mp hkilled)
    | some kill =>
      rw [hdown] at hkilled
      rcases List.sublist_cons_iff.mp hkilled with hnone | ⟨rest, hone, hrest⟩
      · exact .inl (List.sublist_nil.mp hnone)
      · exact .inr ⟨kill, by rw [hone, List.sublist_nil.mp hrest], rfl⟩
  · intro hdown
    have hboth := hlater.invariant
      (I := fun z => z.box.hasBeenShutdown = true ∧ z.kills.Sublist x.kills) ?_
      ⟨hdown, List.Sublist.refl _⟩
    · exact hboth.2
    · rintro s l t ⟨hdown, hless⟩ hstep
      obtain ⟨kill, hkill⟩ := hasBeenShutdown_iff.mp hdown
      have hkill' := shutdownWith_step (L := L) hkill l.event
      have hless' := kills_step (L := L) hdown l.event
      rw [hstep.2] at hkill' hless'
      exact ⟨hasBeenShutdown_iff.mpr ⟨kill, hkill'⟩, hless'.trans hless⟩

end Runs

/-! ## A client that is sent two messages and killed before the third -/

/-- Two messages go out as one batch, and all responses come back. -/
def clientTrip : List (ClientRelayEvent ℕ) :=
  [.box (.send 1), .box (.sendLocked 0 none), .box (.send 2), .box (.sendLocked 0 none),
    .box (.perform true), .box (.lock 0), .box (.sendRequest 0 none), .foyerRequest true,
    .gateRequest, .send none, .sendOther 9, .send none, .gateResponse, .foyerResponse,
    .box (.waitForResponse 0 none), .box (.lock 0)]

/-- A third is sent, but the kill notification of the first `shutdown` comes before it. -/
def clientKill : List (ClientRelayEvent ℕ) :=
  [.box (.send 3), .box (.sendLocked 0 none), .box (.perform true), .box (.lock 0),
    .box (.sendRequest 0 none), .box (.shutdown 1000 "bye"), .box (.shutdown 1011 "late"),
    .shutdownJob true, .foyerKill true, .killNotification false, .foyerRequest true, .gateRequest,
    .send none, .gateResponse]

/-- A session that does no more than it has to: what it sent, and whether it was shut down. -/
def plainWebsocket : WebsocketLibrary (List (ClientFrame ℕ) × Bool) ℕ where
  frames w := w.1
  hasBeenShutdown w := w.2
  send w frame := if w.2 then w else (w.1 ++ [frame], w.2)
  shutdown w statusCode reason := (if w.2 then w.1 else w.1 ++ [.close statusCode reason], true)
  forceShutdown w := (w.1, true)

theorem keeps_plainWebsocket : plainWebsocket.Keeps where
  frames_send w frame hopen := congrArg Prod.fst (if_neg (Bool.eq_false_iff.mp hopen))
  frames_send_down w frame hdown := congrArg Prod.fst (if_pos hdown)
  hasBeenShutdown_send w frame := by
    simp only [plainWebsocket]
    split <;> rfl
  frames_shutdown w statusCode reason := by
    simp only [plainWebsocket]
    split
    · exact .inl rfl
    · exact .inr rfl
  hasBeenShutdown_shutdown _ _ _ := rfl
  frames_forceShutdown _ := rfl
  hasBeenShutdown_forceShutdown _ := rfl

def clientStart : ClientRelay (List (ClientFrame ℕ) × Bool) ℕ := start false true ([], false)

theorem reachesClientInOrder_trial :
    ReachesClientInOrder plainWebsocket
        (boxLog (Lts.trace (next plainWebsocket) clientStart (clientTrip ++ clientKill)))
        (Lts.final (next plainWebsocket) clientStart (clientTrip ++ clientKill)) ∧
      relayedIn (Lts.final (next plainWebsocket) clientStart clientTrip).client.1 = [1, 2] ∧
      (Lts.final (next plainWebsocket) clientStart (clientTrip ++ clientKill)).client.1
        = [.relayed 1, .other 9, .relayed 2, .close 1000 "bye"] := by
  have hrun : Lts.Run (Step plainWebsocket) clientStart
      (Lts.trace (next plainWebsocket) clientStart (clientTrip ++ clientKill)) _ :=
    Lts.Run.of_admits (next plainWebsocket) Enabled (fun h => ⟨h, rfl⟩) clientStart
      (clientTrip ++ clientKill) (by decide +kernel)
  exact ⟨reachesClientInOrder keeps_plainWebsocket rfl hrun, by decide +kernel, by decide +kernel⟩

theorem killed_once_trial :
    (Lts.final (next plainWebsocket) clientStart (clientTrip ++ clientKill)).killed
        = [(1000, "bye")] ∧
      ∃ kill, (Lts.final (next plainWebsocket) clientStart (clientTrip ++ clientKill)).killed
          = [kill] ∧
        (Lts.final (next plainWebsocket) clientStart
          (clientTrip ++ clientKill)).box.shutdownWith = some kill := by
  have hrun : Lts.Run (Step plainWebsocket) clientStart
      (Lts.trace (next plainWebsocket) clientStart (clientTrip ++ clientKill)) _ :=
    Lts.Run.of_admits (next plainWebsocket) Enabled (fun h => ⟨h, rfl⟩) clientStart
      (clientTrip ++ clientKill) (by decide +kernel)
  have hkilled : (Lts.final (next plainWebsocket) clientStart (clientTrip ++ clientKill)).killed
      = [(1000, "bye")] := by decide +kernel
  exact ⟨hkilled, (killed_once hrun (.nil _)).1.resolve_left (by simp [hkilled])⟩

end Circe.Websocket
