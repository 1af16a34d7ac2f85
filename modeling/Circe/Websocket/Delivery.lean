import Circe.Foundations.Run
import Mathlib.Tactic.Linarith

/-!
# Websocket/Delivery — the delivery queue of a WebSocket session

`Client_websocket_session` on a gate and `Websocket_shadow_session` on a box each keep the messages
that are to go to the other side in `m_messages_pending`, and have a `Delivery_job` take them off in
batches.  `m_delivery_mutex` is held while a message is put in and while a batch is taken out, and
released while the batch is on its way: what happens is cut into steps there.

`delivers_in_order` says what comes of it, on both sides, whatever is interleaved and whatever
throws.
-/

namespace Circe.Websocket

/-! ## The session -/

/-- What a `catch` clause of a job gets. -/
inductive SessionException
  | websocket (statusCode : ℕ) (what : String)
  | std (what : String)
deriving DecidableEq

def statusGoingAway : ℕ := 1001
def statusInternalError : ℕ := 1011

def SessionException.statusCode : SessionException → ℕ
  | websocket statusCode _ => statusCode
  | std _ => statusInternalError

def SessionException.what : SessionException → String
  | websocket _ what | std what => what

/-- Where a `Delivery_job` is in `perform`. -/
inductive DeliveryJob (μ : Type)
  /-- It has the connection to the foyer server, and is about to lock. -/
  | performing
  | sending (messagesPending : List μ)
  | waiting (messagesPending : List μ)
  /-- The response is there, and it is about to lock again. -/
  | locking
  | thrown (e : SessionException)
deriving DecidableEq

/-- A session: its delivery queue, the jobs waiting to be performed and those being performed, and
the calls of `send` that are past its first check. -/
structure Session (μ : Type) where
  deliveryJobSpare : Bool
  deliveryJobActive : Bool
  messagesPending : List μ
  enqueued : ℕ
  jobs : List (DeliveryJob μ)
  sends : List μ
  shutdownWith : Option (ℕ × String)
deriving DecidableEq

/-- Whose session it is: one on a gate takes a limited number of messages
(`client_websocket_max_requests_pending`). -/
inductive Host
  | gate (maxRequestsPending : ℕ)
  | box
deriving DecidableEq

/-- What can throw while a message is put in. -/
inductive SubmitFault
  | makeShared
  | enqueue
  | emplaceBack
deriving DecidableEq

/-- What a step did. -/
inductive DeliveryEffect (μ : Type)
  | accepted (message : μ)
  | took (batch : List μ)
  | sent (batch : List μ)
  | answered (batch : List μ)
deriving DecidableEq

variable {μ : Type}

namespace Session

/-- A session just made; nothing has set `m_delivery_job_active`. -/
def new (deliveryJobActive : Bool) : Session μ := ⟨false, deliveryJobActive, [], 0, [], [], none⟩

def hasBeenShutdown (x : Session μ) : Bool := x.shutdownWith.isSome

/-- The first shutdown counts. -/
def shutdown (x : Session μ) (statusCode : ℕ) (reason : String) : Session μ :=
  { x with shutdownWith := x.shutdownWith <|> some (statusCode, reason) }

/-- `if(!m_delivery_job_spare)`: the job is made on its first use. -/
def requireDeliveryJobSpare (x : Session μ) : Session μ :=
  if x.deliveryJobSpare then x else { x with deliveryJobSpare := true, deliveryJobActive := false }

/-- `if(!m_delivery_job_active)`. -/
def activateDeliveryJob (x : Session μ) : Session μ :=
  if x.deliveryJobActive then x
  else { x with enqueued := x.enqueued + 1, deliveryJobActive := true }

/-- There is room for another message. -/
def HasRoom (host : Host) (x : Session μ) : Prop :=
  ∀ maxRequestsPending, host = .gate maxRequestsPending →
    x.messagesPending.length < maxRequestsPending

instance (host : Host) (x : Session μ) : Decidable (x.HasRoom host) :=
  match host with
  | .gate maxRequestsPending =>
    decidable_of_iff (x.messagesPending.length < maxRequestsPending) (by simp [HasRoom])
  | .box => isTrue (by simp [HasRoom])

/-- The part of `on_sync_data_message` and `send` under `m_delivery_mutex`. -/
def submit (host : Host) (message : μ) (fault : Option SubmitFault) (x : Session μ) :
    List (DeliveryEffect μ) × Session μ :=
  if x.deliveryJobSpare = false ∧ fault = some .makeShared then ([], x)
  else
    let x := x.requireDeliveryJobSpare
    if x.deliveryJobActive = false ∧ fault = some .enqueue then ([], x)
    else
      let x := x.activateDeliveryJob
      if x.HasRoom host ∧ fault ≠ some .emplaceBack then
        ([.accepted message], { x with messagesPending := x.messagesPending ++ [message] })
      else ([], x)

/-- The part of the loop of `perform` under `m_delivery_mutex`: the queue is swapped, and the job
goes on with what was in it, or is done. -/
def takeMessages (job : ℕ) (x : Session μ) : List (DeliveryEffect μ) × Session μ :=
  if x.messagesPending.isEmpty then
    ([], { x with deliveryJobActive := false, jobs := x.jobs.eraseIdx job })
  else
    ([.took x.messagesPending],
      { x with messagesPending := [], jobs := x.jobs.set job (.sending x.messagesPending) })

end Session

/-! ## The session as a machine -/

inductive DeliveryEvent (μ : Type)
  /-- `on_sync_data_message`, on a gate. -/
  | onSyncDataMessage (message : μ) (fault : Option SubmitFault)
  /-- `send`, on a box, before it locks. -/
  | send (message : μ)
  /-- The rest of a call of `send`. -/
  | sendLocked (call : ℕ) (fault : Option SubmitFault)
  /-- An enqueued job is performed, and finds the connection to the foyer server. -/
  | perform (foyerConn : Bool)
  | lock (job : ℕ)
  /-- `send_request`. -/
  | sendRequest (job : ℕ) (thrown : Option SessionException)
  /-- `wait_for_response`. -/
  | waitForResponse (job : ℕ) (thrown : Option SessionException)
  | catchException (job : ℕ)
  | shutdown (statusCode : ℕ) (reason : String)
deriving DecidableEq

/-- A wait that a response ends. -/
def DeliveryEvent.takesResponse : DeliveryEvent μ → Bool
  | .waitForResponse _ none => true
  | _ => false

namespace Session

/-- The calls and jobs that an event goes on with are there. -/
def Enabled (host : Host) (x : Session μ) : DeliveryEvent μ → Prop
  | .onSyncDataMessage .. => host ≠ .box
  | .send _ => host = .box
  | .sendLocked call _ => call < x.sends.length
  | .perform _ => 0 < x.enqueued
  | .lock job => x.jobs[job]?.any (fun | .performing | .locking => true | _ => false)
  | .sendRequest job _ => x.jobs[job]?.any (fun | .sending _ => true | _ => false)
  | .waitForResponse job _ => x.jobs[job]?.any (fun | .waiting _ => true | _ => false)
  | .catchException job => x.jobs[job]?.any (fun | .thrown _ => true | _ => false)
  | .shutdown .. => True

instance (host : Host) (x : Session μ) : DecidablePred (x.Enabled host)
  | .onSyncDataMessage .. => inferInstanceAs (Decidable (_ ≠ _))
  | .send _ => inferInstanceAs (Decidable (_ = _))
  | .sendLocked .. | .perform _ => inferInstanceAs (Decidable (_ < _))
  | .lock _ | .sendRequest .. | .waitForResponse .. | .catchException _ =>
    inferInstanceAs (Decidable (_ = true))
  | .shutdown .. => inferInstanceAs (Decidable True)

def foyerConnectionLost : SessionException :=
  .websocket statusGoingAway "Connection to foyer server was lost"

def handle (host : Host) (x : Session μ) : DeliveryEvent μ → List (DeliveryEffect μ) × Session μ
  | .onSyncDataMessage message fault => x.submit host message fault
  | .send message =>
    if x.hasBeenShutdown then ([], x) else ([], { x with sends := x.sends ++ [message] })
  | .sendLocked call fault =>
    match x.sends[call]? with
    | some message => submit host message fault { x with sends := x.sends.eraseIdx call }
    | none => ([], x)
  | .perform foyerConn =>
    let job := if foyerConn then .performing else .thrown foyerConnectionLost
    ([], { x with enqueued := x.enqueued - 1, jobs := x.jobs ++ [job] })
  | .lock job =>
    match x.jobs[job]? with
    | some .performing =>
      if x.deliveryJobActive then x.takeMessages job
      else
        ([], { x with
          jobs := x.jobs.set job (.thrown (.std "session->m_delivery_job_active")) })
    | some .locking => x.takeMessages job
    | _ => ([], x)
  | .sendRequest job thrown =>
    match x.jobs[job]?, thrown with
    | some (.sending batch), none =>
      ([.sent batch], { x with jobs := x.jobs.set job (.waiting batch) })
    | some (.sending _), some e => ([], { x with jobs := x.jobs.set job (.thrown e) })
    | _, _ => ([], x)
  | .waitForResponse job thrown =>
    match x.jobs[job]?, thrown with
    | some (.waiting batch), none => ([.answered batch], { x with jobs := x.jobs.set job .locking })
    | some (.waiting _), some e => ([], { x with jobs := x.jobs.set job (.thrown e) })
    | _, _ => ([], x)
  | .catchException job =>
    match x.jobs[job]? with
    | some (.thrown e) => ([], { x.shutdown e.statusCode e.what with jobs := x.jobs.eraseIdx job })
    | _ => ([], x)
  | .shutdown statusCode reason => ([], x.shutdown statusCode reason)

end Session

/-- An event and what came of it. -/
structure DeliveryLabel (μ : Type) where
  event : DeliveryEvent μ
  effects : List (DeliveryEffect μ)
deriving DecidableEq

def Session.next (host : Host) (x : Session μ) (event : DeliveryEvent μ) :
    DeliveryLabel μ × Session μ :=
  let (effects, y) := x.handle host event
  (⟨event, effects⟩, y)

def Session.Step (host : Host) (x : Session μ) (l : DeliveryLabel μ) (y : Session μ) : Prop :=
  x.Enabled host l.event ∧ x.handle host l.event = (l.effects, y)

/-! ## What a history says -/

/-- The messages taken in, and the batches that jobs took, sent, and had answered, each in their
order. -/
structure DeliveryLog (μ : Type) where
  accepted : List μ
  taken : List (List μ)
  sent : List (List μ)
  answered : List (List μ)
deriving DecidableEq

namespace DeliveryLog

def empty : DeliveryLog μ := ⟨[], [], [], []⟩

def add (log : DeliveryLog μ) : DeliveryEffect μ → DeliveryLog μ
  | .accepted message => { log with accepted := log.accepted ++ [message] }
  | .took batch => { log with taken := log.taken ++ [batch] }
  | .sent batch => { log with sent := log.sent ++ [batch] }
  | .answered batch => { log with answered := log.answered ++ [batch] }

end DeliveryLog

def logOf (history : List (DeliveryLabel μ)) : DeliveryLog μ :=
  (history.flatMap DeliveryLabel.effects).foldl DeliveryLog.add .empty

theorem logOf_concat (history : List (DeliveryLabel μ)) (l : DeliveryLabel μ) :
    logOf (history ++ [l]) = l.effects.foldl DeliveryLog.add (logOf history) := by
  simp [logOf]

/-! ## The invariant -/

/-- Every batch taken was sent and answered. -/
structure Settled (log : DeliveryLog μ) : Prop where
  taken : log.taken = log.answered
  sent : log.sent = log.answered

/-- At most the last batch was not sent or not answered. -/
structure Behind (log : DeliveryLog μ) : Prop where
  answered_sent : log.answered <+: log.sent
  sent_taken : log.sent <+: log.taken
  length : log.taken.length ≤ log.answered.length + 1

/-- What the one job knows of the batches. -/
def DeliveryJob.Knows (log : DeliveryLog μ) : DeliveryJob μ → Prop
  | performing | locking => Settled log
  | sending batch => log.taken = log.answered ++ [batch] ∧ log.sent = log.answered
  | waiting batch => log.taken = log.answered ++ [batch] ∧ log.sent = log.taken
  | thrown _ => Behind log

theorem Settled.behind {log : DeliveryLog μ} (h : Settled log) : Behind log := by
  obtain ⟨htaken, hsent⟩ := h
  refine ⟨hsent ▸ List.prefix_rfl, ?_, ?_⟩
  · exact htaken ▸ hsent ▸ List.prefix_rfl
  · rw [htaken]
    exact Nat.le_succ _

theorem DeliveryJob.Knows.behind {log : DeliveryLog μ} {job : DeliveryJob μ} (h : job.Knows log) :
    Behind log := by
  cases job with
  | performing | locking => exact Settled.behind h
  | thrown => exact h
  | sending batch =>
    obtain ⟨htaken, hsent⟩ := h
    refine ⟨hsent ▸ List.prefix_rfl, ?_, ?_⟩
    · rw [hsent, htaken]
      exact List.prefix_append _ _
    · rw [htaken, List.length_append]
      rfl
  | waiting batch =>
    obtain ⟨htaken, hsent⟩ := h
    refine ⟨?_, hsent ▸ List.prefix_rfl, ?_⟩
    · rw [hsent, htaken]
      exact List.prefix_append _ _
    · rw [htaken, List.length_append]
      rfl

/-- **Where the one job of a session is**, if there is one. -/
inductive Phase (log : DeliveryLog μ) (x : Session μ) : Prop
  | idle (hactive : (x.deliveryJobSpare && x.deliveryJobActive) = false)
    (henqueued : x.enqueued = 0)
      (hjobs : x.jobs = []) (hpending : x.messagesPending = []) (hsettled : Settled log)
  | enqueued (hactive : (x.deliveryJobSpare && x.deliveryJobActive) = true)
      (henqueued : x.enqueued = 1) (hjobs : x.jobs = []) (hsettled : Settled log)
  | running (hactive : (x.deliveryJobSpare && x.deliveryJobActive) = true)
      (henqueued : x.enqueued = 0) (job : DeliveryJob μ) (hjobs : x.jobs = [job])
      (hknows : job.Knows log)
  /-- An exception left `m_delivery_job_active` set: there will be no job any more. -/
  | stopped (hactive : (x.deliveryJobSpare && x.deliveryJobActive) = true)
      (henqueued : x.enqueued = 0) (hjobs : x.jobs = []) (hdown : x.hasBeenShutdown = true)
      (hbehind : Behind log)

structure DeliveryInv (host : Host) (log : DeliveryLog μ) (x : Session μ) : Prop where
  nothingLost : log.taken.flatten ++ x.messagesPending = log.accepted
  bounded : ∀ maxRequestsPending, host = .gate maxRequestsPending →
    x.messagesPending.length ≤ maxRequestsPending
  phase : Phase log x

/-! ## One step -/

section Steps

variable {host : Host} {log : DeliveryLog μ} {x y z : Session μ}

/-- The fields that a phase is about, all but the messages. -/
structure SamePhase (x y : Session μ) : Prop where
  deliveryJobSpare : y.deliveryJobSpare = x.deliveryJobSpare
  deliveryJobActive : y.deliveryJobActive = x.deliveryJobActive
  enqueued : y.enqueued = x.enqueued
  jobs : y.jobs = x.jobs
  hasBeenShutdown : x.hasBeenShutdown = true → y.hasBeenShutdown = true

/-- A busy session stays in its phase whatever is put in. -/
theorem Phase.of_same {log' : DeliveryLog μ} (h : Phase log x) (hsame : SamePhase x y)
    (hbatches : log'.taken = log.taken ∧ log'.sent = log.sent ∧ log'.answered = log.answered)
    (hpending : y.messagesPending = x.messagesPending ∨
      (x.deliveryJobSpare && x.deliveryJobActive) = true) : Phase log' y := by
  obtain ⟨hspare, hactive, henqueued, hjobs, hdown⟩ := hsame
  obtain ⟨accepted', taken', sent', answered'⟩ := log'
  obtain ⟨accepted, taken, sent, answered⟩ := log
  dsimp only at hbatches
  obtain ⟨rfl, rfl, rfl⟩ := hbatches
  rw [← hspare, ← hactive] at hpending
  cases h with
  | idle hidle hnone hnojobs hempty hsettled =>
    rw [← hspare, ← hactive] at hidle
    rcases hpending with hpending | hbusy
    · exact .idle hidle (henqueued.trans hnone) (hjobs.trans hnojobs) (hpending.trans hempty)
        ⟨hsettled.taken, hsettled.sent⟩
    · exact absurd (hbusy.symm.trans hidle) (by decide)
  | enqueued hbusy hone hnojobs hsettled =>
    rw [← hspare, ← hactive] at hbusy
    exact .enqueued hbusy (henqueued.trans hone) (hjobs.trans hnojobs)
      ⟨hsettled.taken, hsettled.sent⟩
  | running hbusy hnone job hjob hknows =>
    rw [← hspare, ← hactive] at hbusy
    refine .running hbusy (henqueued.trans hnone) job (hjobs.trans hjob) ?_
    cases job with
    | performing | locking => exact ⟨hknows.taken, hknows.sent⟩
    | sending | waiting => exact hknows
    | thrown => exact ⟨hknows.answered_sent, hknows.sent_taken, hknows.length⟩
  | stopped hbusy hnone hnojobs hstopped hbehind =>
    rw [← hspare, ← hactive] at hbusy
    exact .stopped hbusy (henqueued.trans hnone) (hjobs.trans hnojobs) (hdown hstopped)
      ⟨hbehind.answered_sent, hbehind.sent_taken, hbehind.length⟩

/-! ### Messages put in -/

/-- What becomes of the job while a message is put in. -/
inductive Prepared (x : Session μ) : Session μ → Prop
  | same : Prepared x x
  | spare (hidle : (x.deliveryJobSpare && x.deliveryJobActive) = false) :
      Prepared x { x with deliveryJobSpare := true, deliveryJobActive := false }
  | enqueued (hidle : (x.deliveryJobSpare && x.deliveryJobActive) = false) :
      Prepared x { x with
        deliveryJobSpare := true, deliveryJobActive := true, enqueued := x.enqueued + 1 }

theorem Prepared.phase (hz : Prepared x z) (h : Phase log x) : Phase log z := by
  cases hz with
  | same => exact h
  | spare hidle =>
    cases h with
    | idle _ hnone hnojobs hempty hsettled => exact .idle rfl hnone hnojobs hempty hsettled
    | enqueued hbusy | running hbusy | stopped hbusy =>
      exact absurd (hbusy.symm.trans hidle) (by decide)
  | enqueued hidle =>
    cases h with
    | idle _ hnone hnojobs hempty hsettled =>
      exact .enqueued rfl (congrArg (· + 1) hnone) hnojobs hsettled
    | enqueued hbusy | running hbusy | stopped hbusy =>
      exact absurd (hbusy.symm.trans hidle) (by decide)

/-- The job is there and active before a message is put in. -/
theorem activate_require (x : Session μ) :
    Prepared x x.requireDeliveryJobSpare ∧
      Prepared x x.requireDeliveryJobSpare.activateDeliveryJob ∧
      (x.requireDeliveryJobSpare.activateDeliveryJob.deliveryJobSpare &&
        x.requireDeliveryJobSpare.activateDeliveryJob.deliveryJobActive) = true := by
  obtain ⟨spare, active, messagesPending, enqueued, jobs, sends, shutdownWith⟩ := x
  cases spare with
  | false => exact ⟨.spare rfl, .enqueued rfl, rfl⟩
  | true =>
    cases active with
    | true => exact ⟨.same, .same, rfl⟩
    | false => exact ⟨.same, .enqueued rfl, rfl⟩

/-- **What `submit` does.** -/
theorem submit_cases (host : Host) (message : μ) (fault : Option SubmitFault) (x : Session μ) :
    ∃ z, Prepared x z ∧ (x.submit host message fault = ([], z) ∨
      (z.deliveryJobSpare && z.deliveryJobActive) = true ∧ z.HasRoom host ∧
        x.submit host message fault
          = ([.accepted message],
            { z with messagesPending := z.messagesPending ++ [message] })) := by
  obtain ⟨hspare, hactive, hbusy⟩ := activate_require x
  rw [Session.submit]
  split
  case isTrue => exact ⟨x, .same, .inl rfl⟩
  case isFalse =>
    dsimp only
    split
    case isTrue => exact ⟨_, hspare, .inl rfl⟩
    case isFalse =>
      split
      case isTrue hroom => exact ⟨_, hactive, .inr ⟨hbusy, hroom.1, rfl⟩⟩
      case isFalse => exact ⟨_, hactive, .inl rfl⟩

theorem Prepared.messagesPending (hz : Prepared x z) : z.messagesPending = x.messagesPending := by
  cases hz <;> rfl

theorem DeliveryInv.submit (h : DeliveryInv host log x) (message : μ)
    (fault : Option SubmitFault) :
    DeliveryInv host ((x.submit host message fault).1.foldl DeliveryLog.add log)
      (x.submit host message fault).2 := by
  obtain ⟨z, hz, hrefused | ⟨hbusy, hroom, haccepted⟩⟩ := submit_cases host message fault x
  · rw [hrefused]
    refine ⟨?_, ?_, hz.phase h.phase⟩
    · rw [hz.messagesPending]
      exact h.nothingLost
    · rw [hz.messagesPending]
      exact h.bounded
  · rw [haccepted]
    refine ⟨?_, fun maxRequestsPending hhost => ?_, ?_⟩
    · have hlost := h.nothingLost
      rw [← hz.messagesPending] at hlost
      rw [List.foldl_cons, List.foldl_nil, DeliveryLog.add, ← List.append_assoc, hlost]
    · rw [List.length_append]
      exact hroom maxRequestsPending hhost
    · exact (hz.phase h.phase).of_same ⟨rfl, rfl, rfl, rfl, id⟩ ⟨rfl, rfl, rfl⟩ (.inr hbusy)

/-! ### The job -/

/-- A job that is being performed is the only one. -/
theorem Phase.of_job (h : Phase log x) {i : ℕ} {job : DeliveryJob μ}
    (hjob : x.jobs[i]? = some job) :
    i = 0 ∧ x.jobs = [job] ∧ (x.deliveryJobSpare && x.deliveryJobActive) = true ∧ x.enqueued = 0 ∧
      job.Knows log := by
  cases h with
  | idle _ _ hnojobs | enqueued _ _ hnojobs | stopped _ _ hnojobs =>
    rw [hnojobs] at hjob
    cases hjob
  | running hbusy hnone job' hjobs hknows =>
    rw [hjobs] at hjob
    cases i with
    | zero =>
      obtain rfl := Option.some.inj hjob
      exact ⟨rfl, hjobs, hbusy, hnone, hknows⟩
    | succ i => cases hjob

/-- **The queue is swapped** when every batch before was answered. -/
theorem DeliveryInv.takeMessages (h : DeliveryInv host log x) {i : ℕ} {job : DeliveryJob μ}
    (hjob : x.jobs[i]? = some job) (hsettled : Settled log) :
    DeliveryInv host ((x.takeMessages i).1.foldl DeliveryLog.add log) (x.takeMessages i).2 := by
  obtain ⟨rfl, hjobs, hbusy, hnone, -⟩ := h.phase.of_job hjob
  rw [Session.takeMessages]
  split
  case isTrue hempty =>
    refine ⟨h.nothingLost, h.bounded, .idle (Bool.and_false _) hnone ?_ ?_ hsettled⟩
    · simp [hjobs]
    · exact List.isEmpty_iff.mp hempty
  case isFalse hmessages =>
    refine ⟨?_, fun _ _ => Nat.zero_le _, .running hbusy hnone (.sending x.messagesPending) ?_ ?_⟩
    · simpa [DeliveryLog.add] using h.nothingLost
    · simp [hjobs]
    · exact ⟨congrArg (· ++ [x.messagesPending]) hsettled.taken, hsettled.sent⟩

/-- A job goes on to its next phase, the queue being left alone. -/
theorem DeliveryInv.goOn (h : DeliveryInv host log x) {i : ℕ} {job job' : DeliveryJob μ}
    (hjob : x.jobs[i]? = some job) {log' : DeliveryLog μ}
    (hlog : log'.accepted = log.accepted ∧ log'.taken = log.taken) (hknows : job'.Knows log') :
    DeliveryInv host log' { x with jobs := x.jobs.set i job' } := by
  obtain ⟨rfl, hjobs, hbusy, hnone, -⟩ := h.phase.of_job hjob
  refine ⟨?_, h.bounded, .running hbusy hnone job' ?_ hknows⟩
  · rw [hlog.1, hlog.2]
    exact h.nothingLost
  · simp [hjobs]

/-- **Every event keeps the invariant.** -/
theorem DeliveryInv.handle (h : DeliveryInv host log x) {event : DeliveryEvent μ}
    (henabled : x.Enabled host event) :
    DeliveryInv host ((x.handle host event).1.foldl DeliveryLog.add log)
      (x.handle host event).2 := by
  cases event with
  | onSyncDataMessage message fault => exact h.submit message fault
  | send message =>
    simp only [Session.handle]
    split
    case isTrue => exact h
    case isFalse =>
      exact ⟨h.nothingLost, h.bounded,
        h.phase.of_same ⟨rfl, rfl, rfl, rfl, id⟩ ⟨rfl, rfl, rfl⟩ (.inl rfl)⟩
  | sendLocked call fault =>
    simp only [Session.handle]
    split
    case h_1 message hcall =>
      have hx : DeliveryInv host log { x with sends := x.sends.eraseIdx call } :=
        ⟨h.nothingLost, h.bounded,
          h.phase.of_same ⟨rfl, rfl, rfl, rfl, id⟩ ⟨rfl, rfl, rfl⟩ (.inl rfl)⟩
      exact hx.submit message fault
    case h_2 => exact h
  | perform foyerConn =>
    refine ⟨h.nothingLost, h.bounded, ?_⟩
    have hpositive : 0 < x.enqueued := henabled
    cases h.phase with
    | idle _ hnone | running _ hnone | stopped _ hnone =>
      exact absurd hpositive (by rw [hnone]; exact lt_irrefl 0)
    | enqueued hbusy hone hnojobs hsettled =>
      have hnone : x.enqueued - 1 = 0 := by rw [hone]
      cases foyerConn with
      | true =>
        exact .running hbusy hnone .performing (by simp [Session.handle, hnojobs]) hsettled
      | false =>
        exact .running hbusy hnone (.thrown Session.foyerConnectionLost)
          (by simp [Session.handle, hnojobs]) hsettled.behind
  | lock i =>
    simp only [Session.handle]
    split
    case h_1 hjob =>
      obtain ⟨-, -, hbusy, -, hknows⟩ := h.phase.of_job hjob
      rw [if_pos (Bool.and_eq_true_iff.mp hbusy).2]
      exact h.takeMessages hjob hknows
    case h_2 hjob => exact h.takeMessages hjob (h.phase.of_job hjob).2.2.2.2
    case h_3 => exact h
  | sendRequest i thrown =>
    simp only [Session.handle]
    split
    case h_1 batch hjob =>
      obtain ⟨htaken, hsent⟩ := (h.phase.of_job hjob).2.2.2.2
      exact h.goOn hjob ⟨rfl, rfl⟩ ⟨htaken, (congrArg (· ++ [batch]) hsent).trans htaken.symm⟩
    case h_2 batch e hjob =>
      exact h.goOn hjob ⟨rfl, rfl⟩ (h.phase.of_job hjob).2.2.2.2.behind
    case h_3 => exact h
  | waitForResponse i thrown =>
    simp only [Session.handle]
    split
    case h_1 batch hjob =>
      obtain ⟨htaken, hsent⟩ := (h.phase.of_job hjob).2.2.2.2
      exact h.goOn hjob ⟨rfl, rfl⟩ ⟨htaken, hsent.trans htaken⟩
    case h_2 batch e hjob =>
      exact h.goOn hjob ⟨rfl, rfl⟩ (h.phase.of_job hjob).2.2.2.2.behind
    case h_3 => exact h
  | catchException i =>
    simp only [Session.handle]
    split
    case h_1 e hjob =>
      obtain ⟨rfl, hjobs, hbusy, hnone, hknows⟩ := h.phase.of_job hjob
      refine ⟨h.nothingLost, h.bounded, .stopped hbusy hnone ?_ ?_ hknows⟩
      · simp [hjobs]
      · simp [Session.hasBeenShutdown, Session.shutdown]
    case h_2 => exact h
  | shutdown statusCode reason =>
    refine ⟨h.nothingLost, h.bounded, h.phase.of_same ⟨rfl, rfl, rfl, rfl, ?_⟩ ⟨rfl, rfl, rfl⟩
      (.inl rfl)⟩
    intro hdown
    rw [Session.hasBeenShutdown, Option.isSome_iff_exists] at hdown
    obtain ⟨with', hwith⟩ := hdown
    simp [Session.hasBeenShutdown, Session.handle, Session.shutdown, hwith]

theorem deliveryInv_new (host : Host) (deliveryJobActive : Bool) :
    DeliveryInv host .empty (Session.new (μ := μ) deliveryJobActive) :=
  ⟨rfl, fun _ _ => Nat.zero_le _, .idle rfl rfl rfl rfl ⟨rfl, rfl⟩⟩

end Steps

/-! ## Whole runs -/

variable {host : Host} {history : List (DeliveryLabel μ)} {x : Session μ}

theorem deliveryInv_of_run {deliveryJobActive : Bool}
    (hrun : Lts.Run (Session.Step host) (.new deliveryJobActive) history x) :
    DeliveryInv host (logOf history) x := by
  refine hrun.historyInvariant (J := fun history x => DeliveryInv host (logOf history) x) ?_
    (deliveryInv_new host deliveryJobActive)
  intro ls s l t h hstep
  have hhandle := h.handle hstep.1
  rw [hstep.2] at hhandle
  rwa [logOf_concat]

theorem DeliveryInv.behind {log : DeliveryLog μ} (h : DeliveryInv host log x) : Behind log := by
  cases h.phase with
  | idle _ _ _ _ hsettled | enqueued _ _ _ hsettled => exact hsettled.behind
  | running _ _ job _ hknows => exact hknows.behind
  | stopped _ _ _ _ hbehind => exact hbehind

/-- **A delivery queue**, after some history: what it lost, what its job sent and when, and whether
someone sees to the messages that wait. -/
structure DeliversInOrder (host : Host) (history : List (DeliveryLabel μ)) (x : Session μ) :
    Prop where
  nothingLost : (logOf history).taken.flatten ++ x.messagesPending = (logOf history).accepted
  sentOnce : (logOf history).sent <+: (logOf history).taken
  /-- When a batch is sent, all those before it were, and were answered. -/
  answeredFirst : ∀ pre l rest, history = pre ++ l :: rest → ∀ batch, .sent batch ∈ l.effects →
    (logOf pre).taken = (logOf pre).answered ++ [batch] ∧ (logOf pre).sent = (logOf pre).answered
  oneOutstanding : (logOf history).answered <+: (logOf history).sent ∧
    (logOf history).sent.length ≤ (logOf history).answered.length + 1
  woken : x.messagesPending ≠ [] →
    x.deliveryJobActive = true ∧ (0 < x.enqueued ∨ x.jobs ≠ []) ∨ x.hasBeenShutdown = true
  bounded : ∀ maxRequestsPending, host = .gate maxRequestsPending →
    x.messagesPending.length ≤ maxRequestsPending

/-- A batch is sent by a job that took it, and a response ends a wait. -/
inductive Did (x : Session μ) (event : DeliveryEvent μ) : List (DeliveryEffect μ) → Prop
  | nothing : Did x event []
  | accepted (message : μ) : Did x event [.accepted message]
  | took (batch : List μ) : Did x event [.took batch]
  | sent (job : ℕ) (batch : List μ) (hjob : x.jobs[job]? = some (.sending batch)) :
      Did x event [.sent batch]
  | answered (batch : List μ) (hevent : event.takesResponse = true) : Did x event [.answered batch]

theorem did_submit (z : Session μ) (event : DeliveryEvent μ) (message : μ)
    (fault : Option SubmitFault) : Did z event (x.submit host message fault).1 := by
  obtain ⟨z, -, hrefused | ⟨-, -, haccepted⟩⟩ := submit_cases host message fault x
  · rw [hrefused]
    exact .nothing
  · rw [haccepted]
    exact .accepted message

theorem did_takeMessages (event : DeliveryEvent μ) (job : ℕ) :
    Did x event (x.takeMessages job).1 := by
  rw [Session.takeMessages]
  split
  · exact .nothing
  · exact .took _

/-- **What a step did.** -/
theorem did_handle (host : Host) (x : Session μ) (event : DeliveryEvent μ) :
    Did x event (x.handle host event).1 := by
  cases event with
  | onSyncDataMessage message fault => exact did_submit x _ message fault
  | send message =>
    simp only [Session.handle]
    split <;> exact .nothing
  | sendLocked call fault =>
    simp only [Session.handle]
    split
    case h_1 message hcall => exact did_submit x _ message fault
    case h_2 => exact .nothing
  | lock job =>
    simp only [Session.handle]
    repeat' split
    · exact did_takeMessages _ job
    · exact .nothing
    · exact did_takeMessages _ job
    · exact .nothing
  | sendRequest job thrown =>
    simp only [Session.handle]
    split
    case h_1 batch hjob => exact .sent job batch hjob
    case h_2 => exact .nothing
    case h_3 => exact .nothing
  | waitForResponse job thrown =>
    simp only [Session.handle]
    split
    case h_1 batch hjob => exact .answered batch rfl
    case h_2 => exact .nothing
    case h_3 => exact .nothing
  | catchException job =>
    simp only [Session.handle]
    split <;> exact .nothing
  | perform | shutdown => exact .nothing

/-- A batch that is sent is one that a job is about to send. -/
theorem sending_of_sent {event : DeliveryEvent μ} {batch : List μ}
    (hsent : .sent batch ∈ (x.handle host event).1) :
    ∃ i : ℕ, x.jobs[i]? = some (.sending batch) := by
  have hdid := did_handle host x event
  generalize (x.handle host event).1 = effects at hdid hsent
  cases hdid with
  | nothing => cases hsent
  | accepted | took | answered => simp at hsent
  | sent job batch' hjob =>
    obtain rfl : batch = batch' := by simpa using hsent
    exact ⟨job, hjob⟩

/-- **The delivery queues lose, duplicate and reorder nothing**, on a gate and on a box. -/
theorem delivers_in_order {deliveryJobActive : Bool}
    (hrun : Lts.Run (Session.Step host) (.new deliveryJobActive) history x) :
    DeliversInOrder host history x := by
  have hbehind := (deliveryInv_of_run hrun).behind
  obtain ⟨hlost, hbounded, hphase⟩ := deliveryInv_of_run hrun
  refine ⟨hlost, hbehind.sent_taken, ?_, ⟨hbehind.answered_sent, ?_⟩, fun hwaiting => ?_, hbounded⟩
  · rintro pre l rest rfl batch hsent
    obtain ⟨y, z, hpre, hstep, -⟩ := hrun.split
    have hsent : .sent batch ∈ (y.handle host l.event).1 := by rwa [hstep.2]
    obtain ⟨i, hjob⟩ := sending_of_sent hsent
    exact ((deliveryInv_of_run hpre).phase.of_job hjob).2.2.2.2
  · exact hbehind.sent_taken.length_le.trans hbehind.length
  · cases hphase with
    | idle _ _ _ hempty => exact absurd hempty hwaiting
    | enqueued hbusy hone =>
      exact .inl ⟨(Bool.and_eq_true_iff.mp hbusy).2, .inl (hone ▸ Nat.zero_lt_one)⟩
    | running hbusy _ job hjobs =>
      exact .inl ⟨(Bool.and_eq_true_iff.mp hbusy).2, .inr (by simp [hjobs])⟩
    | stopped _ _ _ hdown => exact .inr hdown

/-! ## A gate that takes two messages at most -/

/-- The job takes the first message, two more come in while it waits, a third is refused; the
answer comes and the job goes on with the two. -/
def deliveryTrial : List (DeliveryEvent ℕ) :=
  [.onSyncDataMessage 1 none, .perform true, .lock 0, .onSyncDataMessage 2 none,
    .sendRequest 0 none, .onSyncDataMessage 3 none, .onSyncDataMessage 4 none,
    .waitForResponse 0 none, .lock 0, .sendRequest 0 none, .onSyncDataMessage 5 none,
    .waitForResponse 0 (some (.std "Connection was lost")), .catchException 0]

theorem delivers_in_order_trial :
    DeliversInOrder (.gate 2) (Lts.trace (Session.next (.gate 2)) (.new false) deliveryTrial)
        (Lts.final (Session.next (.gate 2)) (.new false) deliveryTrial) ∧
      logOf (Lts.trace (Session.next (.gate 2)) (.new false) deliveryTrial)
        = ⟨[1, 2, 3, 5], [[1], [2, 3]], [[1], [2, 3]], [[1]]⟩ :=
  ⟨delivers_in_order (Lts.Run.of_admits (Session.next (.gate 2)) (Session.Enabled (.gate 2))
    (fun h => ⟨h, rfl⟩) (.new false) deliveryTrial (by decide +kernel)), by decide +kernel⟩

end Circe.Websocket
