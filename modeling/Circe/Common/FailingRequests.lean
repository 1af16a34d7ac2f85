import Circe.Common.Transport
import Circe.Common.WireFormat
import Circe.Foundations.Run

/-!
# Common/FailingRequests — the response of a request that failed

`Request_message_job::perform` launches the response, and then shuts the connection down where the
status code is negative.  The response is compressed and sent by the workhorse thread, which leaves
it aside if the connection has been shut down by then, and which may still be compressing it when
the connection is shut down.  So a request that failed is answered exactly if the workhorse thread
is done with its response first (`answersFailures_iff`).

`Threads` cuts the steps of `InterserverConnection.handle` in two where the threads can interleave:
a job between `send_response` and `shutdown` (`perform_eq_respond_finish`), a `deflate_and_send`
after its look at `has_been_shutdown` (`work_eq_take_send`).
-/

namespace Circe.Common

instance : Nontrivial UserResponseHeader :=
  ⟨⟨0, 0, ""⟩, ⟨1, 0, ""⟩, by decide⟩

/-! ## A connection and its threads -/

/-- A job that has called `send_response`: the response by the number of its task, if it launched
one, and the status code it goes on with. -/
structure Answer where
  response : Option (ℕ × Frame)
  statusCode : Int64
deriving DecidableEq

/-- A connection with its threads: the `deflate_and_send` under way, by the number of its task, the
jobs that have called `send_response`, how many tasks the workhorse thread has taken, and what was
passed to `layer5_send_data`. -/
structure Threads (Φ σ : Type) where
  connection : InterserverConnection Φ
  surroundings : σ
  sending : Option (ℕ × Frame)
  performing : List Answer
  taken : ℕ
  passed : List (ℕ × Frame)

inductive ThreadEvent
  /-- The workhorse thread takes its next task, and looks at `has_been_shutdown`. -/
  | take
  /-- It goes on with a `deflate_and_send`. -/
  | send
  /-- A job runs its servlet and calls `send_response`. -/
  | respond (job : RequestMessageJob) (handled : Except Exception InterserverResponse)
  /-- It goes on to its end. -/
  | finish (answer : Answer)
  | other (event : Event)

/-- Neither the workhorse thread nor a job has a part in it. -/
def Event.isOther : Event → Bool
  | .work | .perform .. => false
  | _ => true

/-- A filter that encodes whatever is not empty. -/
def FilterInterface.Encodes {Φ : Type} (F : FilterInterface Φ) : Prop :=
  ∀ f magicPayload, magicPayload ≠ [] →
    ∃ encodedPayload f', F.encode f magicPayload = (.ok encodedPayload, f')

namespace Threads

variable {Φ σ : Type} (P : Platform Φ) (post : Uuid → σ → Except Exception Unit × σ)

def take (x : Threads Φ σ) : Threads Φ σ :=
  match x.connection.workhorse with
  | [] => x
  | .inflateAndDispatch magicNumber encodedPayload :: rest =>
    let (_, c, s) := InterserverConnection.inflateAndDispatch P post magicNumber encodedPayload
      { x.connection with workhorse := rest } x.surroundings
    { x with connection := c, surroundings := s, taken := x.taken + 1 }
  | .deflateAndSend magicNumber magicPayload :: rest =>
    { x with
      connection := { x.connection with workhorse := rest }
      sending :=
        if x.connection.hasBeenShutdown then none else some (x.taken, magicNumber, magicPayload)
      taken := x.taken + 1 }

def send (x : Threads Φ σ) : Threads Φ σ :=
  match x.sending with
  | none => x
  | some (number, magicNumber, magicPayload) =>
    let (result, c, effects) := x.connection.tryDeflateAndSend P magicNumber magicPayload
    { x with
      connection := InterserverConnection.shutdownIfThrown result c
      sending := none
      passed := x.passed ++ (sends effects).map fun message => (number, message.1) }

def respond (job : RequestMessageJob) (handled : Except Exception InterserverResponse)
    (x : Threads Φ σ) : Threads Φ σ :=
  let c := { x.connection with jobs := x.connection.jobs.erase job }
  let resp := InterserverResponse.ofHandled handled
  let response := (responseOf P job resp).map fun message =>
    (x.taken + c.workhorse.length, message)
  let (responded, c) := if job.sendResponse then c.sendResponse P job.serial resp else (.ok (), c)
  match responded with
  | .error e => { x with connection := c.shutdown Protocol.errorInternalError e.what }
  | .ok () =>
    { x with connection := c, performing := x.performing ++ [⟨response, resp.errCode⟩] }

def finish (answer : Answer) (x : Threads Φ σ) : Threads Φ σ :=
  { x with
    connection :=
      if answer.statusCode < 0 then
        x.connection.shutdown Protocol.errorInternalError
          ("Fatal error " ++ toString answer.statusCode)
      else x.connection
    performing := x.performing.erase answer }

def next (event : ThreadEvent) (x : Threads Φ σ) : Threads Φ σ :=
  match event with
  | .take => x.take P post
  | .send => x.send P
  | .respond job handled => x.respond P job handled
  | .finish answer => x.finish answer
  | .other event =>
    let (_, c, s) := x.connection.handle P post event x.surroundings
    { x with connection := c, surroundings := s }

/-- The workhorse thread does one task after the other. -/
def Enabled (x : Threads Φ σ) : ThreadEvent → Prop
  | .take => x.sending = none ∧ x.connection.workhorse ≠ []
  | .send => x.sending ≠ none
  | .respond job _ => job ∈ x.connection.jobs
  | .finish answer => answer ∈ x.performing
  | .other event => event.isOther = true ∧ x.connection.Enabled event

instance (x : Threads Φ σ) : DecidablePred x.Enabled
  | .take => inferInstanceAs (Decidable (_ ∧ _))
  | .send => inferInstanceAs (Decidable (_ ≠ _))
  | .respond .. | .finish _ => inferInstanceAs (Decidable (_ ∈ _))
  | .other _ => inferInstanceAs (Decidable (_ ∧ _))

def Step (x : Threads Φ σ) (event : ThreadEvent) (y : Threads Φ σ) : Prop :=
  x.Enabled event ∧ y = x.next P post event

/-- What some events lead to, if they are enabled when they come up. -/
def after (x : Threads Φ σ) (events : List ThreadEvent) : Threads Φ σ :=
  Lts.final (fun x event => (event, next P post event x)) x events

def Admits (x : Threads Φ σ) (events : List ThreadEvent) : Prop :=
  Lts.Admits (fun x event => (event, next P post event x)) Enabled x events

instance (x : Threads Φ σ) (events : List ThreadEvent) : Decidable (x.Admits P post events) :=
  Lts.decidableAdmits _ _ x events

theorem run_after {x : Threads Φ σ} {events : List ThreadEvent} (h : x.Admits P post events) :
    Lts.Run (Step P post) x events (x.after P post events) := by
  have htrace (x : Threads Φ σ) (events : List ThreadEvent) :
      Lts.trace (fun x event => (event, next P post event x)) x events = events := by
    induction events generalizing x with
    | nil => rfl
    | cons event events ih => exact congrArg (event :: ·) (ih _)
  have hrun : Lts.Run (Step P post) x _ (x.after P post events) :=
    Lts.Run.of_admits _ _ (fun h => ⟨h, rfl⟩) x events h
  rwa [htrace] at hrun

/-- No thread has begun anything. -/
structure Started (x : Threads Φ σ) : Prop where
  sending : x.sending = none
  performing : x.performing = []
  passed : x.passed = []

/-! ### The steps put together -/

variable {P post} {x y : Threads Φ σ}

/-- A `deflate_and_send` that nothing interrupts is a step of the workhorse thread. -/
theorem work_eq_take_send {magicNumber : UInt16} {magicPayload : Bytes} {rest : List Task}
    (hhead : x.connection.workhorse = .deflateAndSend magicNumber magicPayload :: rest) :
    ((x.take P post).send P).connection
      = (x.connection.handle P post .work x.surroundings).2.1 := by
  simp only [take, hhead, InterserverConnection.handle, InterserverConnection.work,
    InterserverConnection.deflateAndSend]
  by_cases hdown : x.connection.hasBeenShutdown = true
  · rw [if_pos hdown, if_pos (by exact hdown)]
    rfl
  · rw [if_neg hdown, if_neg (by exact hdown)]
    rfl

/-- A job that nothing interrupts is a step of the connection. -/
theorem perform_eq_respond_finish (job : RequestMessageJob)
    (handled : Except Exception InterserverResponse) :
    (x.respond P job handled).performing = x.performing ∧
        (x.respond P job handled).connection
          = (x.connection.handle P post (.perform job handled) x.surroundings).2.1 ∨
      ∃ answer, (x.respond P job handled).performing = x.performing ++ [answer] ∧
        ((x.respond P job handled).finish answer).connection
          = (x.connection.handle P post (.perform job handled) x.surroundings).2.1 := by
  simp only [respond, InterserverConnection.handle, InterserverConnection.performJob]
  generalize (if job.sendResponse then _ else _ :
    Except Exception Unit × InterserverConnection Φ) = r
  obtain ⟨responded, c⟩ := r
  cases responded with
  | error e => exact .inl ⟨rfl, rfl⟩
  | ok => exact .inr ⟨_, rfl, rfl⟩

/-! ## What a step does -/

/-- A response, which is a user-defined message that is not empty. -/
def IsResponse (message : Frame) : Prop := isUser message.1 = true ∧ message.2 ≠ []

/-- **What a step does to the messages on their way.** -/
inductive Moved (P : Platform Φ) (x y : Threads Φ σ) : Prop
  /-- A message that is taken will be sent, unless the connection has been shut down. -/
  | took (task : Task) (rest : List Task) (hidle : x.sending = none)
      (hhead : x.connection.workhorse = task :: rest) (hrest : rest <+: y.connection.workhorse)
      (htaken : y.taken = x.taken + 1) (hpassed : y.passed = x.passed)
      (hsending : ∀ r, y.sending = some r ↔ x.connection.hasBeenShutdown = false ∧
        r.1 = x.taken ∧ task = .deflateAndSend r.2.1 r.2.2)
  /-- It is passed on, if the filter encodes it. -/
  | sent (r : ℕ × Frame) (hsending : x.sending = some r) (hidle : y.sending = none)
      (htaken : y.taken = x.taken) (hworkhorse : y.connection.workhorse = x.connection.workhorse)
      (hkept : ∀ r' ∈ x.passed, r' ∈ y.passed) (hpassed : ∀ r' ∈ y.passed, r' ∈ x.passed ∨ r' = r)
      (hsent : P.filter.Encodes → IsResponse r.2 → r ∈ y.passed)
  | still (hsending : y.sending = x.sending) (htaken : y.taken = x.taken)
      (hworkhorse : x.connection.workhorse <+: y.connection.workhorse)
      (hpassed : y.passed = x.passed)

variable {event : ThreadEvent} {r : ℕ × Frame} {answer : Answer}

/-- Sending touches nothing of a connection but its filter. -/
theorem connection_tryDeflateAndSend (magicNumber : UInt16) (magicPayload : Bytes)
    (c : InterserverConnection Φ) : ∃ filter,
      (c.tryDeflateAndSend P magicNumber magicPayload).2.1
        = { c with messageFilter := filter } := by
  rw [InterserverConnection.tryDeflateAndSend]
  repeat' split
  all_goals exact ⟨_, rfl⟩

/-- What is sent is what was given. -/
theorem eq_of_mem_sends {magicNumber : UInt16} {magicPayload : Bytes}
    {c : InterserverConnection Φ} {message : Frame × Frame}
    (h : message ∈ sends (c.tryDeflateAndSend P magicNumber magicPayload).2.2) :
    message.1 = (magicNumber, magicPayload) := by
  rw [InterserverConnection.tryDeflateAndSend] at h
  repeat' split at h
  all_goals simp_all [sends]

/-- A response is sent, where the filter encodes it. -/
theorem mem_sends (hencodes : P.filter.Encodes) {message : Frame} (h : IsResponse message)
    (c : InterserverConnection Φ) :
    ∃ frame, (message, frame) ∈ sends (c.tryDeflateAndSend P message.1 message.2).2.2 := by
  obtain ⟨encodedPayload, filter, hencode⟩ := hencodes (c.requireMessageFilter P) message.2 h.2
  obtain ⟨hclient, hserver⟩ := ne_hello_of_isUser h.1
  rw [InterserverConnection.tryDeflateAndSend_of_ok P hclient hserver h.1 hencode]
  exact ⟨_, List.mem_singleton_self _⟩

theorem workhorse_shutdownIfThrown (result : Except Exception Unit) (c : InterserverConnection Φ) :
    (InterserverConnection.shutdownIfThrown result c).workhorse = c.workhorse := by
  cases result <;> rfl

/-- **What a job does up to `send_response`.** -/
inductive Responded (x : Threads Φ σ) : Threads Φ σ → Prop
  | refused (c : InterserverConnection Φ) (hworkhorse : c.workhorse = x.connection.workhorse)
      (hdown : c.hasBeenShutdown = true) : Responded x { x with connection := c }
  | silent (c : InterserverConnection Φ) (statusCode : Int64)
      (hworkhorse : c.workhorse = x.connection.workhorse)
      (hdown : c.hasBeenShutdown = x.connection.hasBeenShutdown) :
      Responded x { x with connection := c, performing := x.performing ++ [⟨none, statusCode⟩] }
  | launched (c : InterserverConnection Φ) (statusCode : Int64) (message : Frame)
      (hmessage : IsResponse message)
      (hworkhorse : c.workhorse = x.connection.workhorse ++ [.deflateAndSend message.1 message.2])
      (hdown : c.hasBeenShutdown = x.connection.hasBeenShutdown) :
      Responded x { x with
        connection := c
        performing := x.performing ++
          [⟨some (x.taken + x.connection.workhorse.length, message), statusCode⟩] }

theorem responded_respond (job : RequestMessageJob)
    (handled : Except Exception InterserverResponse) (x : Threads Φ σ) :
    Responded x (x.respond P job handled) := by
  simp only [respond]
  generalize InterserverResponse.ofHandled handled = resp
  cases hsend : job.sendResponse with
  | false =>
    have hnone : responseOf P job resp = none := by simp [responseOf, hsend]
    rw [hnone]
    exact .silent _ _ rfl rfl
  | true =>
    simp only [if_true, InterserverConnection.sendResponse]
    by_cases hvalid : (resp.messageId = 0 || isMessageIdValid resp.messageId) = true
    case neg =>
      rw [if_neg hvalid]
      exact .refused _ rfl (InterserverConnection.hasBeenShutdown_shutdown ..)
    case pos =>
      have hresponse : responseOf P job resp
          = some (resp.messageId.toUInt16 ||| magicFlagIsResponse,
            if resp.messageId = 0 then
              P.userResponseHeader.serialize ⟨job.serial, resp.errCode, resp.errMsg⟩
            else P.userResponseHeader.serialize ⟨job.serial, resp.errCode, resp.errMsg⟩
              ++ resp.payload) := by
        rw [responseOf, hsend, Bool.true_and, if_pos hvalid]
      rw [hresponse, if_pos hvalid]
      refine .launched _ _ _ ⟨?_, ?_⟩ rfl rfl
      · rcases Bool.or_eq_true_iff.mp hvalid with hzero | hvalid
        · rw [of_decide_eq_true hzero]
          exact isUser_response (by decide)
        · obtain ⟨heq, hlt⟩ := toNat_toUInt16_of_isMessageIdValid hvalid
          exact isUser_response (heq ▸ hlt)
      · have hserialize := P.userResponseHeader.serialize_ne_nil
          ⟨job.serial, resp.errCode, resp.errMsg⟩
        dsimp only
        split
        · exact hserialize
        · exact List.append_ne_nil_of_left_ne_nil hserialize _

theorem Step.moved (h : Step P post x event y) : Moved P x y := by
  obtain ⟨henabled, rfl⟩ := h
  cases event with
  | take =>
    obtain ⟨hidle, -⟩ := henabled
    simp only [next, take]
    split
    case h_1 => exact .still rfl rfl List.prefix_rfl rfl
    case h_2 magicNumber encodedPayload rest hhead =>
      refine .took _ rest hidle hhead ?_ rfl rfl fun r => ?_
      · exact InterserverConnection.workhorse_inflateAndDispatch P post magicNumber encodedPayload
          { x.connection with workhorse := rest } x.surroundings
      · simp [hidle]
    case h_3 magicNumber magicPayload rest hhead =>
      refine .took _ rest hidle hhead List.prefix_rfl rfl rfl fun r => ?_
      cases x.connection.hasBeenShutdown with
      | true => simp
      | false =>
        simp only [Bool.false_eq_true, if_false, Option.some_inj, true_and]
        constructor
        · rintro rfl
          exact ⟨rfl, rfl⟩
        · rintro ⟨hnumber, htask⟩
          cases htask
          exact Prod.ext hnumber.symm rfl
  | send =>
    obtain ⟨r, hsending⟩ := Option.ne_none_iff_exists'.mp henabled
    obtain ⟨filter, hconnection⟩ :=
      connection_tryDeflateAndSend (P := P) r.2.1 r.2.2 x.connection
    simp only [next, send, hsending]
    refine .sent r hsending rfl rfl ?_ (fun r' h => List.mem_append_left _ h) (fun r' h => ?_)
      fun hencodes hresponse => ?_
    · rw [workhorse_shutdownIfThrown, hconnection]
    · refine (List.mem_append.mp h).imp_right fun h => ?_
      obtain ⟨message, hmessage, rfl⟩ := List.mem_map.mp h
      exact Prod.ext rfl (eq_of_mem_sends hmessage)
    · obtain ⟨frame, hframe⟩ := mem_sends hencodes hresponse x.connection
      exact List.mem_append_right _ (List.mem_map.mpr ⟨_, hframe, rfl⟩)
  | respond job handled =>
    have hspec := responded_respond (P := P) job handled x
    change Moved P x (x.respond P job handled)
    generalize x.respond P job handled = y at hspec
    cases hspec with
    | refused c hworkhorse | silent c statusCode hworkhorse =>
      exact .still rfl rfl (hworkhorse ▸ List.prefix_rfl) rfl
    | launched c statusCode message hmessage hworkhorse =>
      exact .still rfl rfl (hworkhorse ▸ List.prefix_append _ _) rfl
  | finish answer =>
    simp only [next, finish]
    refine .still rfl rfl ?_ rfl
    split <;> exact List.prefix_rfl
  | other event =>
    refine .still rfl rfl (InterserverConnection.workhorse_handle P post ?_ x.surroundings) rfl
    rintro rfl
    cases henabled.1

/-- A shutdown is for good. -/
theorem Step.hasBeenShutdown (h : Step P post x event y)
    (hdown : x.connection.hasBeenShutdown = true) : y.connection.hasBeenShutdown = true := by
  obtain ⟨-, rfl⟩ := h
  cases event with
  | take =>
    simp only [next, take]
    split
    case h_1 => exact hdown
    case h_2 =>
      simp only [InterserverConnection.inflateAndDispatch]
      rw [if_pos (by exact hdown)]
      exact hdown
    case h_3 => exact hdown
  | send =>
    simp only [next, send]
    split
    case h_1 => exact hdown
    case h_2 number magicNumber magicPayload hsending =>
      obtain ⟨filter, hconnection⟩ :=
        connection_tryDeflateAndSend (P := P) magicNumber magicPayload x.connection
      dsimp only
      rw [hconnection]
      cases (x.connection.tryDeflateAndSend P magicNumber magicPayload).1 with
      | error e => exact InterserverConnection.hasBeenShutdown_of_error e _
      | ok => exact hdown
  | respond job handled =>
    have hspec := responded_respond (P := P) job handled x
    change (x.respond P job handled).connection.hasBeenShutdown = true
    generalize x.respond P job handled = y at hspec
    cases hspec with
    | refused c _ h => exact h
    | silent c _ _ h | launched c _ _ _ _ h => exact h.trans hdown
  | finish answer =>
    simp only [next, finish]
    split
    · exact InterserverConnection.hasBeenShutdown_shutdown ..
    · exact hdown
  | other event => exact InterserverConnection.hasBeenShutdown_handle P post hdown event _

/-- **What a job launches waits for the workhorse thread.** -/
theorem Step.launched (h : Step P post x event y) (hanswer : answer ∈ y.performing) :
    answer ∈ x.performing ∨ ∀ r, answer.response = some r → IsResponse r.2 ∧
      r.1 = y.taken + x.connection.workhorse.length ∧
      y.connection.workhorse = x.connection.workhorse ++ [.deflateAndSend r.2.1 r.2.2] := by
  obtain ⟨henabled, rfl⟩ := h
  cases event with
  | take =>
    refine .inl ?_
    simp only [next, take] at hanswer
    split at hanswer <;> exact hanswer
  | send =>
    refine .inl ?_
    simp only [next, send] at hanswer
    split at hanswer <;> exact hanswer
  | respond job handled =>
    have hspec := responded_respond (P := P) job handled x
    change answer ∈ (x.respond P job handled).performing at hanswer
    change _ ∨ ∀ r : ℕ × Frame, _ → _ ∧ r.1 = (x.respond P job handled).taken + _ ∧
      (x.respond P job handled).connection.workhorse = _
    generalize x.respond P job handled = y at hspec hanswer
    cases hspec with
    | refused c => exact .inl hanswer
    | silent c statusCode =>
      refine (List.mem_append.mp hanswer).imp_right fun h r hr => ?_
      rw [List.mem_singleton.mp h] at hr
      cases hr
    | launched c statusCode message hmessage hworkhorse =>
      refine (List.mem_append.mp hanswer).imp_right fun h r hr => ?_
      rw [List.mem_singleton.mp h] at hr
      cases hr
      exact ⟨hmessage, rfl, hworkhorse⟩
  | finish answer' => exact .inl (List.mem_of_mem_erase hanswer)
  | other event => exact .inl hanswer

/-! ## What becomes of a response -/

/-- `deflate_and_send` has not left a response aside: it is passed to `layer5_send_data`, or on its
way there past the look at `has_been_shutdown`. -/
def Cleared (x : Threads Φ σ) (r : ℕ × Frame) : Prop := r ∈ x.passed ∨ x.sending = some r

/-- A response waits for the workhorse thread, or was taken by it. -/
inductive OnItsWay (x : Threads Φ σ) (r : ℕ × Frame) : Prop
  | waiting (hle : x.taken ≤ r.1)
      (htask : x.connection.workhorse[r.1 - x.taken]? = some (.deflateAndSend r.2.1 r.2.2))
  | taken (hlt : r.1 < x.taken) (h : x.connection.hasBeenShutdown = false → x.Cleared r)

theorem Cleared.moved (hencodes : P.filter.Encodes) (hmessage : IsResponse r.2)
    (h : x.Cleared r) (hmoved : Moved P x y) : y.Cleared r := by
  cases hmoved with
  | took task rest hidle _ _ _ hpassed =>
    refine h.elim (fun h => .inl (hpassed ▸ h)) fun h => ?_
    rw [hidle] at h
    cases h
  | sent r' hsending _ _ _ hkept _ hsent =>
    refine .inl (h.elim (hkept r) fun h => ?_)
    obtain rfl : r' = r := Option.some_inj.mp (hsending.symm.trans h)
    exact hsent hencodes hmessage
  | still hsending _ _ hpassed => exact h.imp (hpassed ▸ ·) (hsending.trans ·)

/-- A task keeps its place when others are put behind it. -/
theorem getElem?_of_grown {tasks tasks' : List Task} {task : Task} {n : ℕ}
    (hgrown : tasks <+: tasks') (h : tasks[n]? = some task) : tasks'[n]? = some task := by
  obtain ⟨later, rfl⟩ := hgrown
  obtain ⟨hlt, -⟩ := List.getElem?_eq_some_iff.mp h
  rw [List.getElem?_append_left hlt, h]

theorem OnItsWay.step (hencodes : P.filter.Encodes) (hmessage : IsResponse r.2)
    (h : x.OnItsWay r) (hstep : Step P post x event y) : y.OnItsWay r := by
  have hup (hup : y.connection.hasBeenShutdown = false) : x.connection.hasBeenShutdown = false := by
    by_contra hdown
    have hdown := hstep.hasBeenShutdown (by simpa using hdown)
    exact absurd (hdown.symm.trans hup) (by decide)
  have hmoved := hstep.moved
  cases h with
  | taken hlt h =>
    refine .taken ?_ fun hy => (h (hup hy)).moved hencodes hmessage hmoved
    cases hmoved with
    | took _ _ _ _ _ htaken => omega
    | sent _ _ _ htaken | still _ htaken => omega
  | waiting hle htask =>
    cases hmoved with
    | sent _ _ _ htaken hworkhorse =>
      exact .waiting (htaken ▸ hle) (by rw [hworkhorse, htaken]; exact htask)
    | still _ htaken hworkhorse =>
      refine .waiting (htaken ▸ hle) ?_
      rw [htaken]
      exact getElem?_of_grown hworkhorse htask
    | took task rest _ hhead hrest htaken _ hsending =>
      rw [hhead] at htask
      rcases hle.eq_or_lt with heq | hlt
      · -- It is the response that is taken.
        refine .taken (by omega) fun hy => .inr ((hsending r).mpr ⟨hup hy, heq.symm, ?_⟩)
        rw [heq, Nat.sub_self, List.getElem?_cons_zero] at htask
        exact Option.some_inj.mp htask
      · refine .waiting (by omega) (getElem?_of_grown hrest ?_)
        rw [show r.1 - x.taken = (r.1 - y.taken) + 1 by omega, List.getElem?_cons_succ] at htask
        exact htask

/-- **Every response that was launched is on its way**, and the workhorse thread sends what it has
taken, one task after the other. -/
structure Inv (x : Threads Φ σ) : Prop where
  number : ∀ r, x.Cleared r → r.1 < x.taken
  order : ∀ r ∈ x.passed, ∀ r', x.sending = some r' → r.1 < r'.1
  launched : ∀ answer ∈ x.performing, ∀ r, answer.response = some r →
    IsResponse r.2 ∧ x.OnItsWay r

theorem Started.inv (h : x.Started) : x.Inv where
  number := by
    rintro r (hr | hr)
    · rw [h.passed] at hr
      cases hr
    · rw [h.sending] at hr
      cases hr
  order := by
    intro r hr
    rw [h.passed] at hr
    cases hr
  launched := by
    intro answer hanswer
    rw [h.performing] at hanswer
    cases hanswer

theorem Inv.step (hencodes : P.filter.Encodes) (h : x.Inv) (hstep : Step P post x event y) :
    y.Inv where
  number := by
    intro r hr
    cases hstep.moved with
    | took task rest hidle hhead hrest htaken hpassed hsending =>
      rcases hr with hr | hr
      · have hlt := h.number r (.inl (hpassed ▸ hr))
        omega
      · have heq := ((hsending r).mp hr).2.1
        omega
    | sent r' hsending hidle htaken _ _ hpassed =>
      rw [htaken]
      rcases hr with hr | hr
      · rcases hpassed r hr with hr | rfl
        · exact h.number r (.inl hr)
        · exact h.number r (.inr hsending)
      · rw [hidle] at hr
        cases hr
    | still hsending htaken _ hpassed =>
      rw [htaken]
      exact h.number r (hr.imp (hpassed ▸ ·) (hsending.symm.trans ·))
  order := by
    intro r hr r' hr'
    cases hstep.moved with
    | took task rest hidle hhead hrest htaken hpassed hsending =>
      rw [((hsending r').mp hr').2.1]
      exact h.number r (.inl (hpassed ▸ hr))
    | sent r'' hsending hidle =>
      rw [hidle] at hr'
      cases hr'
    | still hsending htaken _ hpassed =>
      exact h.order r (hpassed ▸ hr) r' (hsending.symm.trans hr')
  launched := by
    intro answer hanswer r hr
    rcases hstep.launched hanswer with hold | hnew
    · obtain ⟨hmessage, hway⟩ := h.launched answer hold r hr
      exact ⟨hmessage, hway.step hencodes hmessage hstep⟩
    · obtain ⟨hmessage, hnumber, hworkhorse⟩ := hnew r hr
      refine ⟨hmessage, .waiting (by omega) ?_⟩
      rw [hworkhorse, hnumber, Nat.add_sub_cancel_left, List.getElem?_concat_length]

/-! ## Whether a failing request is answered -/

/-- **A request that failed is answered**: when its job shuts the connection down, which nobody has
shut down before, its response has been passed to `layer5_send_data`. -/
def AnswersFailures (P : Platform Φ) (post : Uuid → σ → Except Exception Unit × σ)
    (x : Threads Φ σ) (events : List ThreadEvent) : Prop :=
  ∀ pre answer later, events = pre ++ .finish answer :: later → answer.statusCode < 0 →
    ∀ y, Lts.Run (Step P post) x pre y → y.connection.hasBeenShutdown = false →
      ∀ r, answer.response = some r → r ∈ y.passed

/-- The workhorse thread has taken the task of a response, and is not at work on it any more. -/
def DoneWith (x : Threads Φ σ) (r : ℕ × Frame) : Prop := r.1 < x.taken ∧ x.sending ≠ some r

instance (x : Threads Φ σ) (r : ℕ × Frame) : Decidable (x.DoneWith r) :=
  inferInstanceAs (Decidable (_ ∧ _))

/-- The workhorse thread is done with the response before the job shuts the connection down. -/
def SendsResponsesFirst (P : Platform Φ) (post : Uuid → σ → Except Exception Unit × σ)
    (x : Threads Φ σ) (events : List ThreadEvent) : Prop :=
  ∀ pre answer later, events = pre ++ .finish answer :: later → answer.statusCode < 0 →
    ∀ y, Lts.Run (Step P post) x pre y → y.connection.hasBeenShutdown = false →
      ∀ r, answer.response = some r → y.DoneWith r

variable {events : List ThreadEvent} {z : Threads Φ σ}

theorem Inv.run (hencodes : P.filter.Encodes) (h : x.Inv)
    (hrun : Lts.Run (Step P post) x events y) : y.Inv :=
  hrun.invariant (fun h hstep => h.step hencodes hstep) h

/-- **On a connection that is up, the workhorse thread is done with a response exactly when it has
passed it on.** -/
theorem Inv.doneWith_iff (h : x.Inv) (hup : x.connection.hasBeenShutdown = false)
    (hanswer : answer ∈ x.performing) (hr : answer.response = some r) :
    r ∈ x.passed ↔ x.DoneWith r := by
  constructor
  · intro hpassed
    exact ⟨h.number r (.inl hpassed), fun hsending => (h.order r hpassed r hsending).false⟩
  · rintro ⟨hlt, hsending⟩
    cases (h.launched answer hanswer r hr).2 with
    | waiting hle => omega
    | taken _ hcleared => exact (hcleared hup).resolve_right hsending

/-- Where a job finishes in a run, it had called `send_response`. -/
theorem mem_performing_of_run (hrun : Lts.Run (Step P post) x events z)
    {pre later : List ThreadEvent} (hevents : events = pre ++ .finish answer :: later)
    (hpre : Lts.Run (Step P post) x pre y) : answer ∈ y.performing := by
  obtain ⟨t, t', hpre', hstep, -⟩ := (hevents ▸ hrun).split
  obtain rfl : t = y := hpre'.unique (fun h h' => h.2.trans h'.2.symm) hpre
  exact hstep.1

/-- **A request that failed is answered exactly if its response is sent first**, where the filter
encodes it. -/
theorem answersFailures_iff_of_encodes (hencodes : P.filter.Encodes) (hinv : x.Inv)
    (hrun : Lts.Run (Step P post) x events z) :
    AnswersFailures P post x events ↔ SendsResponsesFirst P post x events := by
  constructor
  all_goals
    intro h pre answer later hevents hfails y hpre hup r hr
    have hiff := (hinv.run hencodes hpre).doneWith_iff hup
      (mem_performing_of_run hrun hevents hpre) hr
  · exact hiff.mp (h pre answer later hevents hfails y hpre hup r hr)
  · exact hiff.mpr (h pre answer later hevents hfails y hpre hup r hr)

end Threads

/-- **With the filter of the program.** -/
theorem answersFailures_iff {σ : Type} (P : Platform MessageFilter) (aes : AesEncrypt) (z : Zlib)
    (post : Uuid → σ → Except Exception Unit × σ) {x y : Threads MessageFilter σ}
    {events : List ThreadEvent} (hstarted : x.Started)
    (hrun : Lts.Run (Threads.Step (P.withFilter aes z) post) x events y) :
    Threads.AnswersFailures (P.withFilter aes z) post x events
      ↔ Threads.SendsResponsesFirst (P.withFilter aes z) post x events :=
  Threads.answersFailures_iff_of_encodes
    (fun f _ h => MessageFilter.encode_of_ne_nil aes z f h) hstarted.inv hrun

/-! ## A servlet that is not there

The request has a `message_id` that nobody handles. -/

def unhandledJob : RequestMessageJob := ⟨1, true, 7, []⟩

def notHandled : Except Exception InterserverResponse :=
  .error (.protocol Protocol.errorNotFound "message_id not handled")

def trialThreads : Threads MessageFilter Unit where
  connection := { InterserverConnection.new trialKey with
    authenticated := true
    connectionUuid := trialUuid
    jobs := [unhandledJob] }
  surroundings := ()
  sending := none
  performing := []
  taken := 0
  passed := []

def unhandledAnswer : Answer where
  response := some (0, magicFlagIsResponse,
    userResponseHeaderFormat.serialize ⟨7, Protocol.errorNotFound, "message_id not handled"⟩)
  statusCode := Protocol.errorNotFound

def postNothing (_ : Uuid) (s : Unit) : Except Exception Unit × Unit := (.ok (), s)

/-- The job is faster than the workhorse thread. -/
def jobFirst : List ThreadEvent := [.respond unhandledJob notHandled,
    .finish unhandledAnswer, .take]

/-- The response is left aside: it is not sent before the shutdown, nor afterwards. -/
theorem not_answersFailures :
    Lts.Run (Threads.Step trialPlatform postNothing) trialThreads jobFirst
        (trialThreads.after trialPlatform postNothing jobFirst) ∧
      (trialThreads.after trialPlatform postNothing jobFirst).passed = [] ∧
      ¬ Threads.AnswersFailures trialPlatform postNothing trialThreads jobFirst := by
  refine ⟨Threads.run_after _ _ (by decide +kernel), by decide +kernel, fun h => ?_⟩
  have hanswered := h [.respond unhandledJob notHandled] unhandledAnswer [.take] rfl
    (by decide +kernel) _ (Threads.run_after _ _ (by decide +kernel)) (by decide +kernel) _ rfl
  exact absurd hanswered (by decide +kernel)

/-- The workhorse thread is faster than the job. -/
def workhorseFirst : List ThreadEvent :=
  [.respond unhandledJob notHandled, .take, .send, .finish unhandledAnswer]

theorem answersFailures_iff_trial :
    Threads.AnswersFailures (trialPlatform.withFilter trialAes storedZlib) postNothing trialThreads
      workhorseFirst := by
  refine (answersFailures_iff trialPlatform trialAes storedZlib postNothing ⟨rfl, rfl, rfl⟩
    (Threads.run_after _ _ (by decide +kernel))).mpr ?_
  rintro pre answer later hevents - y hrun - r hr
  obtain ⟨rfl, rfl⟩ : pre = workhorseFirst.take 3 ∧ answer = unhandledAnswer := by
    rcases pre with _ | ⟨a, _ | ⟨b, _ | ⟨c, _ | ⟨d, pre⟩⟩⟩⟩ <;> simp_all [workhorseFirst]
  obtain rfl := hrun.unique (fun h h' => h.2.trans h'.2.symm)
    (Threads.run_after _ _ (by decide +kernel))
  obtain rfl := Option.some_inj.mp hr
  decide +kernel

end Circe.Common
