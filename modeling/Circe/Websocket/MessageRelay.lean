import Circe.Websocket.Delivery

/-!
# Websocket/MessageRelay — the messages of a client on their way to the box

A gate's delivery queue sends batches to a foyer server, which passes them on to the box; there the
servlet of `Websocket_packed_message_request` calls `handle_websocket_message` message by message.
Where a call throws, the rest of the batch is skipped and the shadow session is shut down, but the
response is a success: the gate sends the next batch, and the servlet, which does not look at
`has_been_shutdown`, handles it.  So nothing is skipped in the runs in which no batch comes up at a
session that an exception shut down (`reachesHandlerInOrder_of_spares`).
-/

namespace Circe.Websocket

/-! ## The three servers -/

/-- A client's session on the gate, its shadow session on the box, and what is on its way. -/
structure MessageRelay (μ : Type) where
  gate : Session μ
  /-- The requests that the foyer server and the box have not seen. -/
  toFoyer : List (List μ)
  toBox : List (List μ)
  /-- The messages that the loop of the servlet still has to go through. -/
  handling : Option (List μ)
  /-- The responses that the foyer server and the gate have not seen. -/
  answersToFoyer : ℕ
  answersToGate : ℕ
  /-- The shadow session is in the container, and what it was shut down with. -/
  attached : Bool
  shutdownWith : Option (ℕ × String)
  /-- The kill notifications that the gate has not seen. -/
  kills : List (ℕ × String)
  /-- The calls of `handle_websocket_message`, and whether they threw. -/
  calls : List (μ × Bool)
deriving DecidableEq

inductive RelayEvent (μ : Type)
  | gate (event : DeliveryEvent μ)
  /-- `Websocket_packed_message_request_to_box`, with a connection to the box or without. -/
  | foyerRequest (boxConn : Bool)
  /-- `Websocket_packed_message_request`, up to its loop. -/
  | boxRequest
  | handleWebsocketMessage (thrown : Option SessionException)
  | boxResponse
  | foyerResponse
  /-- `Websocket_kill_notification`. -/
  | killNotification
  /-- The shadow session is detached, or shut down by something else. -/
  | detach
  | shutdown (statusCode : ℕ) (reason : String)
deriving DecidableEq

variable {μ : Type}

/-- The requests that a step of a delivery job sends. -/
def requestsOf (effects : List (DeliveryEffect μ)) : List (List μ) :=
  effects.filterMap fun
    | .sent batch => some batch
    | _ => none

namespace MessageRelay

/-- The client was accepted; its shadow session may be attached, and may have been shut down. -/
def start (deliveryJobActive attached : Bool) (shutdownWith : Option (ℕ × String)) :
    MessageRelay μ :=
  ⟨.new deliveryJobActive, [], [], none, 0, 0, attached, shutdownWith, [], []⟩

def hasBeenShutdown (x : MessageRelay μ) : Bool := x.shutdownWith.isSome

/-- `Websocket_shadow_session::shutdown`: the first time, a kill notification goes out. -/
def shutdownSession (x : MessageRelay μ) (statusCode : ℕ) (reason : String) : MessageRelay μ :=
  if x.hasBeenShutdown then x
  else
    { x with
      shutdownWith := some (statusCode, reason)
      kills := x.kills ++ [(statusCode, reason)] }

def Enabled (host : Host) (x : MessageRelay μ) : RelayEvent μ → Prop
  | .gate event => x.gate.Enabled host event ∧ (event.takesResponse = true → 0 < x.answersToGate)
  | .foyerRequest _ => x.toFoyer ≠ []
  | .boxRequest => x.toBox ≠ []
  | .handleWebsocketMessage _ => x.handling.any fun messages => !messages.isEmpty
  | .boxResponse => x.handling.any List.isEmpty
  | .foyerResponse => 0 < x.answersToFoyer
  | .killNotification => x.kills ≠ []
  | .detach | .shutdown .. => True

instance [DecidableEq μ] (host : Host) (x : MessageRelay μ) : DecidablePred (x.Enabled host)
  | .gate _ => inferInstanceAs (Decidable (_ ∧ _))
  | .foyerRequest _ | .boxRequest | .killNotification => inferInstanceAs (Decidable (_ ≠ []))
  | .handleWebsocketMessage _ | .boxResponse => inferInstanceAs (Decidable (_ = true))
  | .foyerResponse => inferInstanceAs (Decidable (_ < _))
  | .detach | .shutdown .. => inferInstanceAs (Decidable True)

/-- One event: what the delivery queue of the gate did, and the three servers afterwards. -/
def handle (host : Host) (x : MessageRelay μ) :
    RelayEvent μ → List (DeliveryEffect μ) × MessageRelay μ
  | .gate event =>
    let (effects, gate) := x.gate.handle host event
    (effects, { x with
      gate := gate
      toFoyer := x.toFoyer ++ requestsOf effects
      answersToGate := if event.takesResponse then x.answersToGate - 1 else x.answersToGate })
  | .foyerRequest boxConn =>
    ([], { x with
      toFoyer := x.toFoyer.tail
      -- Without the connection the servlet throws; the gate gets an error.
      toBox := if boxConn then x.toBox ++ x.toFoyer.head?.toList else x.toBox })
  | .boxRequest =>
    let x' := { x with toBox := x.toBox.tail }
    if x.attached then ([], { x' with handling := x.toBox.head? })
    else ([], { x' with answersToFoyer := x.answersToFoyer + 1 })
  | .handleWebsocketMessage thrown =>
    match x.handling with
    | some (message :: messages) =>
      match thrown with
      | none =>
        ([], { x with handling := some messages, calls := x.calls ++ [(message, false)] })
      | some e =>
        ([], { x.shutdownSession e.statusCode e.what with
          handling := none
          calls := x.calls ++ [(message, true)]
          answersToFoyer := x.answersToFoyer + 1 })
    | _ => ([], x)
  | .boxResponse => ([], { x with handling := none, answersToFoyer := x.answersToFoyer + 1 })
  | .foyerResponse =>
    ([], { x with
      answersToFoyer := x.answersToFoyer - 1
      answersToGate := x.answersToGate + 1 })
  | .killNotification =>
    match x.kills with
    | (statusCode, reason) :: kills =>
      ([], { x with gate := x.gate.shutdown statusCode reason, kills := kills })
    | [] => ([], x)
  | .detach => ([], { x with attached := false })
  | .shutdown statusCode reason => ([], x.shutdownSession statusCode reason)

end MessageRelay

/-- An event and what the delivery queue of the gate did. -/
structure RelayLabel (μ : Type) where
  event : RelayEvent μ
  effects : List (DeliveryEffect μ)
deriving DecidableEq

namespace MessageRelay

def next (host : Host) (x : MessageRelay μ) (event : RelayEvent μ) :
    RelayLabel μ × MessageRelay μ :=
  let (effects, y) := x.handle host event
  (⟨event, effects⟩, y)

def Step (host : Host) (x : MessageRelay μ) (l : RelayLabel μ) (y : MessageRelay μ) : Prop :=
  x.Enabled host l.event ∧ x.handle host l.event = (l.effects, y)

/-- What the delivery queue of the gate did in a history. -/
def gateLog (history : List (RelayLabel μ)) : DeliveryLog μ :=
  (history.flatMap RelayLabel.effects).foldl DeliveryLog.add .empty

theorem gateLog_concat (history : List (RelayLabel μ)) (l : RelayLabel μ) :
    gateLog (history ++ [l]) = l.effects.foldl DeliveryLog.add (gateLog history) := by
  simp [gateLog]

/-! ## The condition and the property -/

/-- **The condition**: no batch comes up at a shadow session that an exception of a handler shut
down. -/
def SparesThrown (x : MessageRelay μ) (event : RelayEvent μ) : Prop :=
  event = .boxRequest → x.attached = true → ∀ call ∈ x.calls, call.2 = false

instance [DecidableEq μ] (x : MessageRelay μ) : DecidablePred x.SparesThrown := fun _ =>
  inferInstanceAs (Decidable (_ → _ → _))

/-- **The handler gets what the gate accepted, without gaps**, and nothing once a call threw. -/
structure ReachesHandlerInOrder (log : DeliveryLog μ) (x : MessageRelay μ) : Prop where
  isPrefix : x.calls.map Prod.fst <+: log.accepted
  noneAfterThrow : ∀ call ∈ x.calls.dropLast, call.2 = false

/-! ## The invariant -/

/-- **What the box has seen** of what the gate sent: `arrived`, and the handler was called for it in
order, as far as the loop got. -/
structure Relayed (log : DeliveryLog μ) (x : MessageRelay μ) (arrived : List (List μ)) : Prop where
  inTransit : arrived ++ x.toBox ++ x.toFoyer <+: log.sent
  answers : log.answered.length + (x.handling.elim 0 fun _ => 1) + x.answersToFoyer
    + x.answersToGate ≤ arrived.length
  called : x.calls.map Prod.fst ++ x.handling.getD [] <+: arrived.flatten
  complete : x.attached = true → (∀ call ∈ x.calls, call.2 = false) →
    x.calls.map Prod.fst ++ x.handling.getD [] = arrived.flatten
  handling : x.handling.isSome = true → ∀ call ∈ x.calls, call.2 = false
  noneAfterThrow : ∀ call ∈ x.calls.dropLast, call.2 = false

structure RelayInv (host : Host) (log : DeliveryLog μ) (x : MessageRelay μ) : Prop where
  gate : DeliveryInv host log x.gate
  relayed : ∃ arrived, Relayed log x arrived

variable {host : Host} {log : DeliveryLog μ} {x : MessageRelay μ} {arrived : List (List μ)}

/-- What the box has handled, and what it was sent. -/
theorem Relayed.called_sent (h : Relayed log x arrived) :
    x.calls.map Prod.fst <+: log.sent.flatten := by
  have hcalled : x.calls.map Prod.fst <+: arrived.flatten :=
    (List.prefix_append _ _).trans h.called
  obtain ⟨rest, hrest⟩ := h.inTransit
  rw [← hrest, List.append_assoc, List.append_assoc, List.flatten_append]
  exact hcalled.trans (List.prefix_append _ _)

/-- At most one request or response is on its way. -/
theorem Relayed.length_le (h : Relayed log x arrived) (hbehind : Behind log) :
    x.toBox.length + x.toFoyer.length + (x.handling.elim 0 fun _ => 1) + x.answersToFoyer
      + x.answersToGate ≤ 1 := by
  have hsent := h.inTransit.length_le
  have htaken := hbehind.sent_taken.length_le
  have hlength := hbehind.length
  have hanswers := h.answers
  simp only [List.length_append] at hsent
  omega

/-- When every batch was answered, all of them arrived. -/
theorem Relayed.of_settled (h : Relayed log x arrived) (hsent : log.sent = log.answered) :
    arrived ++ x.toBox ++ x.toFoyer = log.sent := by
  refine h.inTransit.eq_of_length_le ?_
  have hanswers := h.answers
  rw [hsent]
  simp only [List.length_append]
  omega

/-- **A step of the gate's delivery queue.** -/
theorem Relayed.gate (h : Relayed log x arrived) (hgate : DeliveryInv host log x.gate)
    {event : DeliveryEvent μ} (hresponse : event.takesResponse = true → 0 < x.answersToGate) :
    Relayed ((x.gate.handle host event).1.foldl DeliveryLog.add log)
      (x.handle host (.gate event)).2 arrived := by
  obtain ⟨htransit, hanswers, hcalled, hcomplete, hhandling, hnone⟩ := h
  have hdid := did_handle host x.gate event
  simp only [handle]
  generalize x.gate.handle host event = r at hdid ⊢
  obtain ⟨effects, gate⟩ := r
  dsimp only at hdid ⊢
  have hfewer : (if event.takesResponse = true then x.answersToGate - 1 else x.answersToGate)
      ≤ x.answersToGate := by
    split <;> omega
  cases hdid with
  | nothing | accepted | took =>
    refine ⟨?_, ?_, hcalled, hcomplete, hhandling, hnone⟩
    · simpa [requestsOf, DeliveryLog.add] using htransit
    · simp only [List.foldl_cons, List.foldl_nil, DeliveryLog.add]
      omega
  | sent job batch hjob =>
    have hsent : log.sent = log.answered := (hgate.phase.of_job hjob).2.2.2.2.2
    have hall := Relayed.of_settled ⟨htransit, hanswers, hcalled, hcomplete, hhandling, hnone⟩ hsent
    refine ⟨?_, ?_, hcalled, hcomplete, hhandling, hnone⟩
    · simp only [requestsOf, List.filterMap_cons, List.filterMap_nil, List.foldl_cons,
        List.foldl_nil, DeliveryLog.add]
      exact (List.append_assoc .. ▸ hall ▸ List.prefix_rfl)
    · simp only [List.foldl_cons, List.foldl_nil, DeliveryLog.add]
      omega
  | answered batch hevent =>
    have hpositive := hresponse hevent
    refine ⟨?_, ?_, hcalled, hcomplete, hhandling, hnone⟩
    · simpa [requestsOf, DeliveryLog.add] using htransit
    · simp only [List.foldl_cons, List.foldl_nil, DeliveryLog.add, List.length_append,
        List.length_singleton, if_pos hevent]
      omega

/-- A request that comes up at the box is the only one there is. -/
theorem Relayed.toBox_cons (h : Relayed log x arrived) (hbehind : Behind log) {batch : List μ}
    {rest : List (List μ)} (htoBox : x.toBox = batch :: rest) :
    rest = [] ∧ x.toFoyer = [] ∧ x.handling = none := by
  have hlength := h.length_le hbehind
  rw [htoBox, List.length_cons] at hlength
  refine ⟨List.length_eq_zero_iff.mp (by omega), List.length_eq_zero_iff.mp (by omega), ?_⟩
  cases hhandling : x.handling with
  | none => rfl
  | some messages =>
    rw [hhandling] at hlength
    dsimp only [Option.elim] at hlength
    omega

/-- **A batch comes up at the box.** -/
theorem Relayed.boxRequest (h : Relayed log x arrived) (hbehind : Behind log)
    (henabled : x.toBox ≠ []) (hspares : x.attached = true → ∀ call ∈ x.calls, call.2 = false) :
    ∃ arrived, Relayed log (x.handle host .boxRequest).2 arrived := by
  obtain ⟨batch, rest, htoBox⟩ := List.exists_cons_of_ne_nil henabled
  obtain ⟨rfl, htoFoyer, hidle⟩ := h.toBox_cons hbehind htoBox
  obtain ⟨htransit, hanswers, hcalled, hcomplete, hhandling, hnone⟩ := h
  rw [htoBox, htoFoyer, List.append_nil] at htransit
  rw [hidle, Option.elim_none] at hanswers
  rw [hidle, Option.getD_none, List.append_nil] at hcalled
  simp only [hidle, Option.getD_none, List.append_nil] at hcomplete
  refine ⟨arrived ++ [batch], ?_⟩
  simp only [handle]
  cases hattached : x.attached with
  | true =>
    have hquiet := hspares hattached
    have hall := hcomplete hattached hquiet
    rw [if_pos rfl]
    refine ⟨?_, ?_, ?_, fun _ _ => ?_, fun _ => hquiet, hnone⟩
    · simpa [htoBox, htoFoyer] using htransit
    · simp only [htoBox, List.head?_cons, Option.elim_some, List.length_append,
        List.length_singleton]
      omega
    · simp [htoBox, hall]
    · simp [htoBox, hall]
  | false =>
    rw [if_neg (by decide)]
    refine ⟨?_, ?_, ?_, fun h => absurd h Bool.false_ne_true, hhandling, hnone⟩
    · simpa [htoBox, htoFoyer] using htransit
    · simp only [hidle, Option.elim_none, List.length_append, List.length_singleton]
      omega
    · simp only [hidle, Option.getD_none, List.append_nil, List.flatten_append]
      exact hcalled.trans (List.prefix_append _ _)

theorem shutdownSession_same (x : MessageRelay μ) (statusCode : ℕ) (reason : String) :
    ∃ shutdownWith kills, x.shutdownSession statusCode reason
      = { x with shutdownWith := shutdownWith, kills := kills } := by
  rw [shutdownSession]
  split
  · exact ⟨x.shutdownWith, x.kills, rfl⟩
  · exact ⟨_, _, rfl⟩

/-- **The handler is called for the next message.** -/
theorem Relayed.handleWebsocketMessage (h : Relayed log x arrived)
    (thrown : Option SessionException) :
    Relayed log (x.handle host (.handleWebsocketMessage thrown)).2 arrived := by
  simp only [handle]
  split
  case h_2 => exact h
  case h_1 message messages hmessages =>
    obtain ⟨htransit, hanswers, hcalled, hcomplete, hhandling, hnone⟩ := h
    rw [hmessages, Option.elim_some] at hanswers
    rw [hmessages, Option.getD_some] at hcalled
    simp only [hmessages, Option.getD_some] at hcomplete
    have hquiet := hhandling (by rw [hmessages]; rfl)
    have hdropLast {call : μ × Bool} : ∀ c ∈ (x.calls ++ [call]).dropLast, c.2 = false := by
      rw [List.dropLast_concat]
      exact hquiet
    cases thrown with
    | none =>
      refine ⟨htransit, hanswers, ?_, fun hattached _ => ?_, fun _ => ?_, hdropLast⟩
      · simpa using hcalled
      · simpa using hcomplete hattached hquiet
      · simpa using hquiet
    | some e =>
      obtain ⟨shutdownWith, kills, hshutdown⟩ := shutdownSession_same x e.statusCode e.what
      simp only [hshutdown]
      refine ⟨htransit, ?_, ?_, fun _ hcalls => ?_, fun hsome => absurd hsome (by simp), hdropLast⟩
      · simp only [Option.elim_none]
        omega
      · refine List.IsPrefix.trans ?_ hcalled
        simp only [List.map_append, List.map_cons, List.map_nil, Option.getD_none, List.append_nil]
        exact (List.prefix_append_right_inj _).mpr ⟨messages, rfl⟩
      · exact absurd (hcalls (message, true) (by simp)) (by simp)

theorem gate_handleWebsocketMessage (host : Host) (x : MessageRelay μ)
    (thrown : Option SessionException) :
    (x.handle host (.handleWebsocketMessage thrown)).1 = [] ∧
      (x.handle host (.handleWebsocketMessage thrown)).2.gate = x.gate := by
  simp only [handle]
  split
  case h_2 => exact ⟨rfl, rfl⟩
  case h_1 =>
    cases thrown with
    | none => exact ⟨rfl, rfl⟩
    | some e =>
      obtain ⟨shutdownWith, kills, hshutdown⟩ := shutdownSession_same x e.statusCode e.what
      simp [hshutdown]

/-- **Every event keeps the invariant**, in the runs that spare sessions an exception shut down. -/
theorem RelayInv.handle (h : RelayInv host log x) {event : RelayEvent μ}
    (henabled : x.Enabled host event) (hspares : x.SparesThrown event) :
    RelayInv host ((x.handle host event).1.foldl DeliveryLog.add log) (x.handle host event).2 := by
  obtain ⟨hgate, arrived, hrelayed⟩ := h
  cases event with
  | gate event =>
    exact ⟨hgate.handle henabled.1, arrived, hrelayed.gate hgate henabled.2⟩
  | foyerRequest boxConn =>
    obtain ⟨batch, rest, htoFoyer⟩ := List.exists_cons_of_ne_nil henabled
    have hlength := hrelayed.length_le hgate.behind
    obtain ⟨htransit, hanswers, hcalled, hcomplete, hhandling, hnone⟩ := hrelayed
    rw [htoFoyer, List.length_cons] at hlength
    obtain rfl : rest = [] := List.length_eq_zero_iff.mp (by omega)
    refine ⟨hgate, arrived, ?_, hanswers, hcalled, hcomplete, hhandling, hnone⟩
    cases boxConn with
    | true => simpa [MessageRelay.handle, htoFoyer] using htransit
    | false =>
      refine List.IsPrefix.trans ?_ htransit
      simp [MessageRelay.handle, htoFoyer]
  | boxRequest =>
    have hboxRequest : ((x.handle host .boxRequest).1 : List (DeliveryEffect μ)) = [] := by
      simp only [MessageRelay.handle]
      split <;> rfl
    have hgate' : (x.handle host .boxRequest).2.gate = x.gate := by
      simp only [MessageRelay.handle]
      split <;> rfl
    rw [hboxRequest]
    exact ⟨hgate' ▸ hgate, hrelayed.boxRequest hgate.behind henabled (hspares rfl)⟩
  | handleWebsocketMessage thrown =>
    obtain ⟨heffects, hsame⟩ := gate_handleWebsocketMessage host x thrown
    rw [heffects]
    exact ⟨hsame ▸ hgate, arrived, hrelayed.handleWebsocketMessage thrown⟩
  | boxResponse =>
    obtain ⟨htransit, hanswers, hcalled, hcomplete, hhandling, hnone⟩ := hrelayed
    obtain ⟨messages, hmessages, hempty⟩ :
        ∃ messages, x.handling = some messages ∧ messages = [] := by
      cases hx : x.handling with
      | none => exact absurd henabled (by simp [MessageRelay.Enabled, hx])
      | some messages => exact ⟨messages, rfl, by simpa [MessageRelay.Enabled, hx] using henabled⟩
    subst hempty
    rw [hmessages, Option.elim_some] at hanswers
    simp only [hmessages, Option.getD_some] at hcalled hcomplete
    refine ⟨hgate, arrived, htransit, ?_, hcalled, hcomplete, fun h => absurd h Bool.false_ne_true,
      hnone⟩
    simp only [MessageRelay.handle, Option.elim_none, List.foldl_nil]
    omega
  | foyerResponse =>
    obtain ⟨htransit, hanswers, hcalled, hcomplete, hhandling, hnone⟩ := hrelayed
    refine ⟨hgate, arrived, htransit, ?_, hcalled, hcomplete, hhandling, hnone⟩
    have hpositive : 0 < x.answersToFoyer := henabled
    simp only [MessageRelay.handle, List.foldl_nil]
    omega
  | killNotification =>
    obtain ⟨htransit, hanswers, hcalled, hcomplete, hhandling, hnone⟩ := hrelayed
    simp only [MessageRelay.handle]
    split
    case h_1 statusCode reason kills hkills =>
      have hdown := hgate.handle
        (show x.gate.Enabled host (.shutdown statusCode reason) from trivial)
      exact ⟨hdown, arrived, htransit, hanswers, hcalled, hcomplete, hhandling, hnone⟩
    case h_2 => exact ⟨hgate, arrived, htransit, hanswers, hcalled, hcomplete, hhandling, hnone⟩
  | detach =>
    obtain ⟨htransit, hanswers, hcalled, hcomplete, hhandling, hnone⟩ := hrelayed
    exact ⟨hgate, arrived, htransit, hanswers, hcalled,
      fun h => absurd h Bool.false_ne_true, hhandling, hnone⟩
  | shutdown statusCode reason =>
    obtain ⟨htransit, hanswers, hcalled, hcomplete, hhandling, hnone⟩ := hrelayed
    obtain ⟨shutdownWith, kills, hshutdown⟩ := shutdownSession_same x statusCode reason
    simp only [MessageRelay.handle, hshutdown]
    exact ⟨hgate, arrived, htransit, hanswers, hcalled, hcomplete, hhandling, hnone⟩

theorem relayInv_start (deliveryJobActive attached : Bool) (shutdownWith : Option (ℕ × String)) :
    RelayInv host .empty (start (μ := μ) deliveryJobActive attached shutdownWith) :=
  ⟨deliveryInv_new host deliveryJobActive, [], List.prefix_rfl, le_rfl, List.prefix_rfl,
    fun _ _ => rfl, fun h => absurd h Bool.false_ne_true, List.forall_mem_nil _⟩

end MessageRelay

/-! ## Runs -/

open MessageRelay

/-- **A box handles what the gate accepted, without gaps**, in every run in which no batch comes up
at a session that an exception of a handler shut down. -/
theorem reachesHandlerInOrder_of_spares {μ : Type} {host : Host} {deliveryJobActive attached : Bool}
    {shutdownWith : Option (ℕ × String)} {history : List (RelayLabel μ)} {x : MessageRelay μ}
    (hrun : Lts.Run (Lts.Guarded (Step host) fun x l => x.SparesThrown l.event)
      (start deliveryJobActive attached shutdownWith) history x) :
    ReachesHandlerInOrder (gateLog history) x := by
  have hinv : RelayInv host (gateLog history) x := by
    refine hrun.historyInvariant (J := fun history x => RelayInv host (gateLog history) x) ?_
      (relayInv_start deliveryJobActive attached shutdownWith)
    intro ls s l t h hstep
    have hhandle := h.handle hstep.2.1 hstep.1
    rw [hstep.2.2] at hhandle
    rwa [gateLog_concat]
  obtain ⟨hgate, arrived, hrelayed⟩ := hinv
  refine ⟨?_, hrelayed.noneAfterThrow⟩
  have hlost := hgate.nothingLost
  refine hrelayed.called_sent.trans (List.IsPrefix.trans ?_ ⟨x.gate.messagesPending, hlost⟩)
  obtain ⟨rest, hrest⟩ := hgate.behind.sent_taken
  rw [← hrest, List.flatten_append]
  exact List.prefix_append _ _

/-! ## A message handled after one that threw -/

/-- Messages come in and reach the box as one batch; the handler throws on the first or not. -/
def relayTrip (messages : List ℕ) (thrown : Option SessionException) : List (RelayEvent ℕ) :=
  (messages.map fun message => .gate (.onSyncDataMessage message none)) ++
    [.gate (.perform true), .gate (.lock 0), .gate (.sendRequest 0 none), .foyerRequest true,
      .boxRequest, .handleWebsocketMessage thrown]

/-- The response travels back, and the job finds nothing more to do. -/
def relayAnswer : List (RelayEvent ℕ) :=
  [.foyerResponse, .gate (.waitForResponse 0 none), .gate (.lock 0)]

def relayFailing : List (RelayEvent ℕ) :=
  relayTrip [1, 2] (some (.std "bad message")) ++ relayAnswer ++ relayTrip [3] none

theorem not_reachesHandlerInOrder :
    (∃ x, Lts.Run (Step (.gate 100)) (start false true none)
        (Lts.trace (next (.gate 100)) (start false true none) relayFailing) x ∧
      ¬ ReachesHandlerInOrder
        (gateLog (Lts.trace (next (.gate 100)) (start false true none) relayFailing)) x) := by
  refine ⟨_, Lts.Run.of_admits (next (.gate 100)) (fun x event => x.Enabled (.gate 100) event)
    (fun h => ⟨h, rfl⟩) (start false true none) relayFailing (by decide +kernel), fun h => ?_⟩
  exact absurd h.isPrefix (by decide +kernel)

/-- A message that is handled, and one whose handler throws after all others. -/
def relayTrial : List (RelayEvent ℕ) :=
  relayTrip [1] none ++ .boxResponse :: relayAnswer ++ relayTrip [2] (some (.std "bad message"))

theorem reachesHandlerInOrder_of_spares_trial :
    ReachesHandlerInOrder (gateLog (Lts.trace (next (.gate 100))
      (start false true none) relayTrial))
        (Lts.final (next (.gate 100)) (start false true none) relayTrial) ∧
      (Lts.final (next (.gate 100)) (start false true none) relayTrial).calls
        = [(1, false), (2, true)] := by
  have hrun : Lts.Run (Lts.Guarded (Step (.gate 100)) fun x l => x.SparesThrown l.event)
      (start false true none) (Lts.trace (next (.gate 100)) (start false true none) relayTrial) _ :=
    Lts.Run.of_admits (next (.gate 100))
      (fun x event => x.SparesThrown event ∧ x.Enabled (.gate 100) event)
      (fun h => ⟨h.1, h.2, rfl⟩) (start false true none) relayTrial (by decide +kernel)
  exact ⟨reachesHandlerInOrder_of_spares hrun, by decide +kernel⟩

end Circe.Websocket
