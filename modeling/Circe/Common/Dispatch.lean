import Circe.Common.Transport

/-!
# Common/Dispatch — what a connection hands to its servlets and to its requesters

A user-defined message that a connection reads becomes a job (`jobOf`) or settles a promise with
what it says (`answerOf`).  `dispatched_handle` says, for any event, which jobs are enqueued and
which are performed, where a promise's value comes from, and what becomes of the promise table.
-/

namespace Circe.Common

/-- A request made: its serial, its promise, its message. -/
structure Request where
  serial : UInt64
  promise : PromiseId
  msg : Message
deriving DecidableEq

section Effects

variable (effects : List Effect)

def requests : List Request :=
  effects.filterMap fun
    | .requested serial promise msg => some ⟨serial, promise, msg⟩
    | _ => none

def enqueues : List RequestMessageJob :=
  effects.filterMap fun
    | .enqueued job => some job
    | _ => none

/-- The jobs performed, each with the response made of what its servlet returned or threw. -/
def runs : List (RequestMessageJob × InterserverResponse) :=
  effects.filterMap fun
    | .ran job resp => some (job, resp)
    | _ => none

/-- The promises satisfied with a value. -/
def fulfils : List (PromiseId × InterserverResponse) :=
  effects.filterMap fun
    | .settled promise (.ok resp) => some (promise, resp)
    | _ => none

end Effects

section Messages

variable {Φ : Type} (P : Platform Φ)

/-- The job that a message becomes. -/
def jobOf (message : Frame) : Option RequestMessageJob :=
  if isUser message.1 then
    if hasAnyFlagsOf message.1 magicFlagIsResponse then none
    else if hasAnyFlagsOf message.1 magicFlagWantsResponse then
      match P.userRequestHeader.deserialize message.2 with
      | .error _ => none
      | .ok (hdr, payload) =>
        some ⟨message.1 &&& messageIdMax.toUInt16, true, hdr.serial, payload⟩
    else some ⟨message.1 &&& messageIdMax.toUInt16, false, 0xDEADBEEF, message.2⟩
  else none

/-- The serial and the response in a message. -/
def answerOf (message : Frame) : Option (UInt64 × InterserverResponse) :=
  if isUser message.1 && hasAnyFlagsOf message.1 magicFlagIsResponse then
    match P.userResponseHeader.deserialize message.2 with
    | .error _ => none
    | .ok (hdr, payload) =>
      some (hdr.serial, ⟨hdr.errCode, hdr.errMsg,
        (message.1 &&& messageIdMax.toUInt16).toUInt64, payload⟩)
  else none

/-- The job that a request is for the peer. -/
def Request.job (request : Request) : RequestMessageJob :=
  ⟨request.msg.id.toUInt16, true, request.serial, request.msg.payload⟩

/-- The jobs that requests and notifications are for the peer. -/
def jobsFor (effects : List Effect) : List RequestMessageJob :=
  effects.filterMap fun
    | .requested serial promise msg => some (Request.mk serial promise msg).job
    | .notified msg => some ⟨msg.id.toUInt16, false, 0xDEADBEEF, msg.payload⟩
    | _ => none

/-- What a requester is told: a response without a message has no payload. -/
def InterserverResponse.told (resp : InterserverResponse) : InterserverResponse :=
  { resp with payload := if resp.messageId = 0 then [] else resp.payload }

end Messages

/-! ## Messages read back -/

section ReadBack

variable {Φ : Type} {P : Platform Φ}

theorem toUInt16_messageIdMax : messageIdMax.toUInt16 = 0x0FFF := by decide

theorem jobOf_requestOf (serial : UInt64) {msg : Message} (hvalid : isMessageIdValid msg.id = true)
    (promise : PromiseId) :
    jobOf P (requestOf P serial msg) = some (Request.mk serial promise msg).job := by
  obtain ⟨hsame, hlt⟩ := toNat_toUInt16_of_isMessageIdValid hvalid
  rw [← hsame] at hlt
  obtain ⟨hresponse, hrequest⟩ := hasAnyFlagsOf_request hlt
  simp only [jobOf, requestOf, isUser_request hlt, hresponse, hrequest, if_true,
    Bool.false_eq_true, if_false, P.userRequestHeader.deserialize_serialize]
  rw [toUInt16_messageIdMax, and_messageIdMax hlt (by decide)]
  rfl

theorem jobOf_notification {msg : Message} (hvalid : isMessageIdValid msg.id = true) :
    jobOf P (msg.id.toUInt16, msg.payload)
      = some ⟨msg.id.toUInt16, false, 0xDEADBEEF, msg.payload⟩ := by
  obtain ⟨hsame, hlt⟩ := toNat_toUInt16_of_isMessageIdValid hvalid
  rw [← hsame] at hlt
  obtain ⟨hresponse, hrequest⟩ := hasAnyFlagsOf_notification hlt
  simp only [jobOf, isUser_notification hlt, hresponse, hrequest, if_true, Bool.false_eq_true,
    if_false]
  rw [toUInt16_messageIdMax, and_low hlt]

/-- A response is no job, and answers the job it was made for. -/
theorem answerOf_responseOf {job : RequestMessageJob} {resp : InterserverResponse} {message : Frame}
    (h : responseOf P job resp = some message) :
    jobOf P message = none ∧ answerOf P message = some (job.serial, resp.told) ∧
      job.sendResponse = true := by
  rw [responseOf] at h
  split at h
  case isFalse => cases h
  case isTrue hsend =>
    cases h
    obtain ⟨hsend, hvalid⟩ := Bool.and_eq_true_iff.mp hsend
    have hid : resp.messageId.toUInt16.toNat = resp.messageId.toNat ∧
        resp.messageId.toNat < 4096 := by
      rcases Bool.or_eq_true_iff.mp hvalid with hzero | hvalid
      · rw [of_decide_eq_true hzero]
        decide
      · exact toNat_toUInt16_of_isMessageIdValid hvalid
    have hlt : resp.messageId.toUInt16.toNat < 4096 := by omega
    have hback : resp.messageId.toUInt16.toUInt64 = resp.messageId :=
      UInt64.toNat_inj.mp ((UInt16.toNat_toUInt64 _).trans hid.1)
    have huser := isUser_response hlt
    have hresponse := hasAnyFlagsOf_response hlt
    refine ⟨by simp only [jobOf, huser, hresponse, if_true], ?_, hsend⟩
    simp only [answerOf, huser, hresponse, Bool.and_self, if_true]
    rw [toUInt16_messageIdMax, and_messageIdMax hlt (by decide), hback, InterserverResponse.told]
    by_cases hzero : resp.messageId = 0
    · simp only [if_pos hzero, P.userResponseHeader.deserialize_serialize_self]
    · simp only [if_neg hzero, P.userResponseHeader.deserialize_serialize]

/-- **The jobs of what was launched** are those of the requests and notifications made. -/
theorem filterMap_jobOf_launches {effects : List Effect} (hvalid : ∀ e ∈ effects, e.Valid) :
    (launches P effects).filterMap (jobOf P) = jobsFor effects := by
  induction effects with
  | nil => rfl
  | cons e es ih =>
    obtain ⟨he, hes⟩ := List.forall_mem_cons.mp hvalid
    have hlaunches : launches P (e :: es) = launches P [e] ++ launches P es := by simp [launches]
    have hjobs : jobsFor (e :: es) = jobsFor [e] ++ jobsFor es := by
      rw [jobsFor, jobsFor, jobsFor, ← List.filterMap_append]
      rfl
    rw [hlaunches, List.filterMap_append, ih hes, hjobs]
    congr 1
    cases e with
    | requested serial promise msg => simp [launches, jobsFor, jobOf_requestOf serial he promise]
    | notified msg => simp [launches, jobsFor, jobOf_notification he]
    | ran job resp =>
      cases hresp : responseOf P job resp with
      | none => simp [launches, jobsFor, hresp]
      | some message => simp [launches, jobsFor, hresp, (answerOf_responseOf hresp).1]
    | _ => rfl

theorem answerOf_of_jobOf {message : Frame} {job : RequestMessageJob}
    (h : jobOf P message = some job) : answerOf P message = none := by
  refine if_neg fun hflags => ?_
  obtain ⟨huser, hresponse⟩ := Bool.and_eq_true_iff.mp hflags
  rw [jobOf, if_pos huser, if_pos hresponse] at h
  cases h

/-- **A response among what was launched** comes from a request that was performed. -/
theorem runs_of_answerOf {effects : List Effect} (hvalid : ∀ e ∈ effects, e.Valid)
    {message : Frame} (hmem : message ∈ launches P effects) {serial : UInt64}
    {value : InterserverResponse} (hanswer : answerOf P message = some (serial, value)) :
    ∃ job resp, (job, resp) ∈ runs effects ∧ responseOf P job resp = some message ∧
      job.serial = serial ∧ job.sendResponse = true ∧ resp.told = value := by
  obtain ⟨e, he, hmessage⟩ := List.mem_flatMap.mp hmem
  cases e with
  | requested serial' promise msg =>
    have hnone := answerOf_of_jobOf (jobOf_requestOf (P := P) serial' (hvalid _ he) promise)
    rw [List.mem_singleton.mp hmessage, hnone] at hanswer
    cases hanswer
  | notified msg =>
    have hnone := answerOf_of_jobOf (jobOf_notification (P := P) (hvalid _ he))
    rw [List.mem_singleton.mp hmessage, hnone] at hanswer
    cases hanswer
  | ran job resp =>
    have hresp := Option.mem_toList.mp hmessage
    obtain ⟨-, htold, hsend⟩ := answerOf_responseOf hresp
    obtain ⟨hserial, hvalue⟩ := Prod.mk.inj (Option.some.inj (htold.symm.trans hanswer))
    exact ⟨job, resp, List.mem_filterMap.mpr ⟨_, he, rfl⟩, hresp, hserial, hsend, hvalue⟩
  | _ => cases hmessage

end ReadBack

/-! ## The promise table -/

namespace PromiseTable

/-- **What becomes of the promise table**: entries leave it, or one request more was made, under the
next serial. -/
inductive Promised (t : PromiseTable) (effects : List Effect) (t' : PromiseTable) : Prop
  | kept (hrequests : requests effects = []) (hserial : t'.nextSerial = t.nextSerial)
      (hmade : t'.made = t.made)
      (hentries : ∀ e ∈ t'.weakPromises.entries, e ∈ t.weakPromises.entries)
  | emplaced
      (hrequests : requests effects = [] ∨
        ∃ msg, isMessageIdValid msg.id = true ∧ requests effects = [⟨t.serial, t.made, msg⟩])
      (hserial : t'.nextSerial = t.serial) (hmade : t'.made = t.made + 1)
      (hentries : ∀ e ∈ t'.weakPromises.entries,
        e ∈ t.weakPromises.entries ∨ e = (t.serial, t.made))

theorem Promised.of_eq {t t' : PromiseTable} {effects : List Effect} (h : t' = t)
    (hrequests : requests effects = []) : Promised t effects t' := by
  subst h
  exact .kept hrequests rfl rfl fun _ he => he

theorem promised_emplace {t : PromiseTable} {effects : List Effect} {msg : Message}
    (hvalid : isMessageIdValid msg.id = true)
    (h : requests effects = [⟨t.serial, t.made, msg⟩]) : Promised t effects t.emplace := by
  refine .emplaced (.inr ⟨msg, hvalid, h⟩) rfl rfl fun e he => ?_
  rw [emplace, FlatMultimap.mem_entries_emplace] at he
  exact he.symm

/-- A request that is not sent after all leaves no entry. -/
theorem promised_cancel (t : PromiseTable) {effects : List Effect} (h : requests effects = []) :
    Promised t effects (t.emplace.cancel t.serial t.made) := by
  refine .emplaced (.inl h) rfl rfl fun e he => ?_
  have he' : e ∈ t.emplace.weakPromises.entries := FlatMultimap.mem_of_mem_eraseEntry he
  rw [emplace, FlatMultimap.mem_entries_emplace] at he'
  exact he'.symm

/-- A promise that is taken was in the table. -/
theorem mem_of_take {t : PromiseTable} {serial : UInt64} {promise : PromiseId}
    (h : (t.take serial).1 = some promise) : (serial, promise) ∈ t.weakPromises.entries := by
  rw [take] at h
  split at h
  case h_1 => cases h
  case h_2 serial' promise' hfind =>
    have hmem := List.mem_of_find?_eq_some hfind
    have hkey : serial' = serial := by simpa using List.find?_some hfind
    rw [lock] at h
    split at h
    · cases h
    · cases h
      rwa [← hkey]

theorem mem_of_mem_take {t : PromiseTable} {serial : UInt64} {e : UInt64 × PromiseId}
    (he : e ∈ (t.take serial).2.weakPromises.entries) : e ∈ t.weakPromises.entries := by
  rw [take] at he
  split at he
  · exact he
  · exact FlatMultimap.mem_of_mem_eraseFirst he

theorem promised_take (t : PromiseTable) (serial : UInt64) {effects : List Effect}
    (h : requests effects = []) : Promised t effects (t.take serial).2 := by
  rw [take]
  split
  · exact .of_eq rfl h
  · exact .kept h rfl rfl fun e he => FlatMultimap.mem_of_mem_eraseFirst he

end PromiseTable

/-! ## One event -/

namespace InterserverConnection

variable {Φ σ : Type} (P : Platform Φ) (post : Uuid → σ → Except Exception Unit × σ)

/-- **What an event enqueues, performs, fulfils and promises.** -/
structure Dispatched (c : InterserverConnection Φ) (effects : List Effect)
    (c' : InterserverConnection Φ) : Prop where
  enqueued : enqueues effects = (receives effects).filterMap (jobOf P)
  jobs : (c'.jobs ++ (runs effects).map Prod.fst).Perm (c.jobs ++ enqueues effects)
  fulfilled : ∀ promise resp, (promise, resp) ∈ fulfils effects →
    ∃ message ∈ receives effects, ∃ serial, answerOf P message = some (serial, resp) ∧
      (serial, promise) ∈ c.promises.weakPromises.entries
  promised : c.promises.Promised effects c'.promises
  refused : ∀ job resp, (job, resp) ∈ runs effects → job.sendResponse = true →
    responseOf P job resp = none → c'.hasBeenShutdown = true

variable {P} {c c' : InterserverConnection Φ} {effects : List Effect}

theorem forall_mem_of_eq_nil {α β : Type} {l : List (α × β)} (h : l = []) {p : α → β → Prop} :
    ∀ a b, (a, b) ∈ l → p a b := by
  intro a b hmem
  rw [h] at hmem
  exact absurd hmem List.not_mem_nil

/-- An event that reads no message and performs no job. -/
theorem Dispatched.of_promised (hreceives : receives effects = [])
    (henqueues : enqueues effects = [])
    (hruns : runs effects = []) (hfulfils : fulfils effects = []) (hjobs : c'.jobs = c.jobs)
    (hpromised : c.promises.Promised effects c'.promises) : Dispatched P c effects c' where
  enqueued := by rw [henqueues, hreceives]; rfl
  jobs := by rw [hruns, henqueues, hjobs]; rfl
  fulfilled := forall_mem_of_eq_nil hfulfils
  promised := hpromised
  refused := forall_mem_of_eq_nil hruns

theorem dispatched_dispatch {magicNumber : UInt16} (huser : isUser magicNumber = true)
    (magicPayload encodedPayload : Bytes) (c : InterserverConnection Φ) :
    Dispatched P c
      (.received magicNumber encodedPayload magicPayload ::
        (c.dispatch P magicNumber magicPayload).2.2)
      (c.dispatch P magicNumber magicPayload).2.1 := by
  have hjob : jobOf P (magicNumber, magicPayload)
      = if hasAnyFlagsOf magicNumber magicFlagIsResponse then none
        else if hasAnyFlagsOf magicNumber magicFlagWantsResponse then
          match P.userRequestHeader.deserialize magicPayload with
          | .error _ => none
          | .ok (hdr, payload) =>
            some ⟨magicNumber &&& messageIdMax.toUInt16, true, hdr.serial, payload⟩
        else some ⟨magicNumber &&& messageIdMax.toUInt16, false, 0xDEADBEEF, magicPayload⟩ :=
    if_pos huser
  have hanswer (hresponse : hasAnyFlagsOf magicNumber magicFlagIsResponse = true) :
      answerOf P (magicNumber, magicPayload)
        = match P.userResponseHeader.deserialize magicPayload with
          | .error _ => none
          | .ok (hdr, payload) =>
            some (hdr.serial, ⟨hdr.errCode, hdr.errMsg,
              (magicNumber &&& messageIdMax.toUInt16).toUInt64, payload⟩) :=
    if_pos (Bool.and_eq_true_iff.mpr ⟨huser, hresponse⟩)
  have hreceived {dispatched : List Effect} (hquiet : receives dispatched = []) :
      receives (.received magicNumber encodedPayload magicPayload :: dispatched)
        = [(magicNumber, magicPayload)] := congrArg _ hquiet
  rw [dispatch]
  split
  case isTrue hresponse =>
    rw [if_pos hresponse] at hjob
    split
    case h_1 e hread =>
      refine ⟨?_, List.Perm.refl _, forall_mem_of_eq_nil rfl, .of_eq rfl rfl,
        forall_mem_of_eq_nil rfl⟩
      rw [hreceived rfl, List.filterMap_cons, hjob]
      rfl
    case h_2 hdr payload hread =>
      dsimp only
      -- A response: the promise under its serial, if there is one, is satisfied.
      cases htaken : (c.promises.take hdr.serial).1 with
      | none =>
        refine ⟨?_, List.Perm.refl _, forall_mem_of_eq_nil rfl, PromiseTable.promised_take _ _ rfl,
          forall_mem_of_eq_nil rfl⟩
        rw [hreceived rfl, List.filterMap_cons, hjob]
        rfl
      | some promise =>
        refine ⟨?_, List.Perm.refl _, ?_, PromiseTable.promised_take _ _ rfl,
          forall_mem_of_eq_nil rfl⟩
        · rw [hreceived rfl, List.filterMap_cons, hjob]
          rfl
        · intro promise' resp hmem
          obtain ⟨rfl, rfl⟩ := Prod.mk.inj (List.mem_singleton.mp hmem)
          refine ⟨(magicNumber, magicPayload), ?_, hdr.serial, ?_, PromiseTable.mem_of_take htaken⟩
          · rw [hreceived rfl]
            exact List.mem_singleton_self _
          · rw [hanswer hresponse, hread]
  case isFalse hresponse =>
    rw [if_neg hresponse] at hjob
    split
    case isTrue hrequest =>
      rw [if_pos hrequest] at hjob
      split
      case h_1 e hread =>
        rw [hread] at hjob
        refine ⟨?_, List.Perm.refl _, forall_mem_of_eq_nil rfl, .of_eq rfl rfl,
          forall_mem_of_eq_nil rfl⟩
        rw [hreceived rfl, List.filterMap_cons, hjob]
        rfl
      case h_2 hdr payload hread =>
        rw [hread] at hjob
        refine ⟨?_, ?_, forall_mem_of_eq_nil rfl, .of_eq rfl rfl,
          forall_mem_of_eq_nil rfl⟩
        · rw [hreceived rfl, List.filterMap_cons, hjob]
          rfl
        · simp [runs, enqueues]
    case isFalse hrequest =>
      rw [if_neg hrequest] at hjob
      refine ⟨?_, ?_, forall_mem_of_eq_nil rfl, .of_eq rfl rfl,
        forall_mem_of_eq_nil rfl⟩
      · rw [hreceived rfl, List.filterMap_cons, hjob]
        rfl
      · simp [runs, enqueues]

/-- A hello frame, read or not. -/
theorem Dispatched.of_hello {magicNumber : UInt16} {encodedPayload : Bytes}
    (hhello : isUser magicNumber = false)
    (heffects : effects.Sublist [.received magicNumber encodedPayload encodedPayload])
    (hjobs : c'.jobs = c.jobs) (hpromises : c'.promises = c.promises) :
    Dispatched P c effects c' := by
  have hjob : jobOf P (magicNumber, encodedPayload) = none := if_neg (by simp [hhello])
  rcases List.sublist_singleton.mp heffects with rfl | rfl
  · exact .of_promised rfl rfl rfl rfl hjobs (.of_eq hpromises rfl)
  · refine ⟨?_, ?_, forall_mem_of_eq_nil rfl, .of_eq hpromises rfl, forall_mem_of_eq_nil rfl⟩
    · simp [enqueues, receives, hjob]
    · simp [runs, enqueues, hjobs]

theorem Dispatched.shutdownIfThrown (h : Dispatched P c effects c')
    (result : Except Exception Unit) :
    Dispatched P c effects (InterserverConnection.shutdownIfThrown result c') := by
  cases result with
  | ok => exact h
  | error e =>
    exact ⟨h.enqueued, h.jobs, h.fulfilled, h.promised,
      fun _ _ _ _ _ => hasBeenShutdown_of_error e _⟩

theorem dispatched_tryInflateAndDispatch (magicNumber : UInt16) (encodedPayload : Bytes)
    (c : InterserverConnection Φ) (s : σ) :
    Dispatched P c (c.tryInflateAndDispatch P post magicNumber encodedPayload s).effects
      (c.tryInflateAndDispatch P post magicNumber encodedPayload s).connection := by
  have hspec := tryInflateAndDispatch_spec P post magicNumber encodedPayload c s
  generalize c.tryInflateAndDispatch P post magicNumber encodedPayload s = o at hspec ⊢
  cases hspec with
  | clientHello hmagic h =>
    cases h with
    | refused e effects heffects => exact .of_hello not_isUser_clientHello heffects rfl rfl
    | halted | accepted => exact .of_hello not_isUser_clientHello (List.Sublist.refl _) rfl rfl
  | serverHello hmagic h =>
    cases h with
    | refused e effects heffects => exact .of_hello not_isUser_serverHello heffects rfl rfl
    | halted | accepted => exact .of_hello not_isUser_serverHello (List.Sublist.refl _) rfl rfl
  | unread => exact .of_promised rfl rfl rfl rfl rfl (.of_eq rfl rfl)
  | read magicPayload filter huser hdecode =>
    have h := dispatched_dispatch (P := P) huser magicPayload encodedPayload
      { c with messageFilter := some filter }
    exact ⟨h.enqueued, h.jobs, h.fulfilled, h.promised, h.refused⟩

theorem deflateAndSend_frame (magicNumber : UInt16) (magicPayload : Bytes)
    (c : InterserverConnection Φ) :
    (c.deflateAndSend P magicNumber magicPayload).2.jobs = c.jobs ∧
      (c.deflateAndSend P magicNumber magicPayload).2.promises = c.promises := by
  simp only [deflateAndSend, tryDeflateAndSend]
  repeat' split
  all_goals exact ⟨rfl, rfl⟩

theorem performJob_frame (job : RequestMessageJob) (handled : Except Exception InterserverResponse)
    (c : InterserverConnection Φ) :
    (c.performJob P job handled).2.jobs = c.jobs ∧
      (c.performJob P job handled).2.promises = c.promises := by
  simp only [performJob, sendResponse]
  repeat' split
  all_goals exact ⟨rfl, rfl⟩

/-- A response that is refused shuts the connection down. -/
theorem hasBeenShutdown_performJob {job : RequestMessageJob}
    {handled : Except Exception InterserverResponse} (hsend : job.sendResponse = true)
    (hresp : responseOf P job (.ofHandled handled) = none) (c : InterserverConnection Φ) :
    (c.performJob P job handled).2.hasBeenShutdown = true := by
  have hinvalid : ¬(decide ((InterserverResponse.ofHandled handled).messageId = 0) ||
      isMessageIdValid (InterserverResponse.ofHandled handled).messageId) = true := by
    intro hvalid
    rw [responseOf, hsend, Bool.true_and, if_pos hvalid] at hresp
    cases hresp
  rw [performJob, hsend, if_pos rfl, sendResponse, if_neg hinvalid]
  exact hasBeenShutdown_shutdown ..

/-- **Any event that can happen.** -/
theorem dispatched_handle {event : Event} (henabled : c.Enabled event) (s : σ) :
    Dispatched P c (c.handle P post event s).1 (c.handle P post event s).2.1 := by
  cases event with
  | receiveData | shutdown => exact .of_promised rfl rfl rfl rfl rfl (.of_eq rfl rfl)
  | drop => exact .of_promised rfl rfl rfl rfl rfl (.kept rfl rfl rfl fun _ he => he)
  | receiveControl statusCode param =>
    simp only [handle, layer5OnReceiveControl]
    repeat' split
    all_goals exact .of_promised rfl rfl rfl rfl rfl (.of_eq rfl rfl)
  | work =>
    simp only [handle, work]
    split
    case h_1 => exact .of_promised rfl rfl rfl rfl rfl (.of_eq rfl rfl)
    case h_2 magicNumber encodedPayload rest hhead =>
      rw [inflateAndDispatch]
      split
      case isTrue => exact .of_promised rfl rfl rfl rfl rfl (.of_eq rfl rfl)
      case isFalse =>
        have h := (dispatched_tryInflateAndDispatch (P := P) post magicNumber encodedPayload
          { c with workhorse := rest } s).shutdownIfThrown (tryInflateAndDispatch P post magicNumber
            encodedPayload { c with workhorse := rest } s).result
        exact ⟨h.enqueued, h.jobs, h.fulfilled, h.promised, h.refused⟩
    case h_3 magicNumber magicPayload rest hhead =>
      obtain ⟨hjobs, hpromises⟩ := deflateAndSend_frame (P := P) magicNumber magicPayload
        { c with workhorse := rest }
      obtain ⟨-, ⟨heffects, -⟩ | ⟨encodedPayload, heffects⟩⟩ :=
        deflateAndSend_cases (P := P) magicNumber magicPayload { c with workhorse := rest }
      · rw [heffects]
        exact .of_promised rfl rfl rfl rfl hjobs (.of_eq hpromises rfl)
      · rw [heffects]
        exact .of_promised rfl rfl rfl rfl hjobs (.of_eq hpromises rfl)
  | sendRequest msg thrown =>
    simp only [handle, sendRequest]
    split
    case isTrue => exact .of_promised rfl rfl rfl rfl rfl (.of_eq rfl rfl)
    case isFalse hvalid =>
      split
      case isTrue => exact .of_promised rfl rfl rfl rfl rfl (.of_eq rfl rfl)
      case isFalse =>
        cases thrown with
        | some e => exact .of_promised rfl rfl rfl rfl rfl (PromiseTable.promised_cancel _ rfl)
        | none =>
          exact .of_promised rfl rfl rfl rfl rfl
            (PromiseTable.promised_emplace (by simpa using hvalid) rfl)
  | sendNotification msg thrown =>
    simp only [handle, sendNotification]
    repeat' split
    all_goals exact .of_promised rfl rfl rfl rfl rfl (.of_eq rfl rfl)
  | perform job handled =>
    obtain ⟨hjobs, hpromises⟩ := performJob_frame (P := P) job handled
      { c with jobs := c.jobs.erase job }
    refine ⟨rfl, ?_, forall_mem_of_eq_nil rfl, .of_eq hpromises rfl, ?refused⟩
    case refused =>
      intro job' resp hmem hsend hresp
      obtain ⟨rfl, rfl⟩ := Prod.mk.inj (List.mem_singleton.mp hmem)
      exact hasBeenShutdown_performJob hsend hresp _
    have hperm := List.perm_cons_erase (show job ∈ c.jobs from henabled)
    change (((performJob P job handled { c with jobs := c.jobs.erase job }).2.jobs) ++ [job]).Perm
      (c.jobs ++ [])
    rw [hjobs, List.append_nil]
    exact (List.perm_append_singleton job _).trans hperm.symm
  | close =>
    simp only [handle, layer4OnClose]
    split
    case isFalse => exact .of_promised rfl rfl rfl rfl rfl (.of_eq rfl rfl)
    case isTrue =>
      refine .of_promised ?_ ?_ ?_ ?_ rfl (.kept ?_ rfl rfl fun _ h => absurd h List.not_mem_nil)
      · simp [receives]
      · simp [enqueues]
      · simp [runs]
      · simp [fulfils]
      · simp [requests]

end InterserverConnection

/-! ## The history of a connection -/

/-- The table numbers its promises from 1 on, and each entry is under the number of its promise. -/
structure PromiseTable.Numbered (t : PromiseTable) : Prop where
  serial : t.nextSerial = UInt64.ofNat t.made
  entries : ∀ e ∈ t.weakPromises.entries, e.1 = UInt64.ofNat (e.2 + 1) ∧ e.2 < t.made

theorem PromiseTable.Numbered.serial_eq {t : PromiseTable} (h : t.Numbered) :
    t.serial = UInt64.ofNat (t.made + 1) := by
  rw [PromiseTable.serial, h.serial, UInt64.ofNat_add]
  rfl

theorem PromiseTable.Promised.numbered {t t' : PromiseTable} {effects : List Effect}
    (h : t.Promised effects t') (ht : t.Numbered) : t'.Numbered := by
  cases h with
  | kept _ hserial hmade hentries =>
    refine ⟨by rw [hserial, hmade, ht.serial], fun e he => ?_⟩
    rw [hmade]
    exact ht.entries e (hentries e he)
  | emplaced _ hserial hmade hentries =>
    refine ⟨by rw [hserial, hmade, ht.serial_eq], fun e he => ?_⟩
    rcases hentries e he with hold | rfl
    · obtain ⟨hkey, hlt⟩ := ht.entries e hold
      exact ⟨hkey, hmade ▸ Nat.lt_succ_of_lt hlt⟩
    · exact ⟨ht.serial_eq, hmade ▸ Nat.lt_succ_self _⟩

/-- A new request is under its own number. -/
theorem PromiseTable.Promised.requests {t t' : PromiseTable} {effects : List Effect}
    (h : t.Promised effects t') (ht : t.Numbered) :
    (∀ request ∈ requests effects, request.serial = UInt64.ofNat (request.promise + 1) ∧
        t.made ≤ request.promise ∧ request.promise < t'.made) ∧
      (Common.requests effects).Pairwise fun a b => a.promise < b.promise := by
  cases h with
  | kept hrequests =>
    rw [hrequests]
    exact ⟨nofun, List.Pairwise.nil⟩
  | emplaced hrequests _ hmade =>
    rcases hrequests with hnone | ⟨msg, -, hone⟩
    · rw [hnone]
      exact ⟨nofun, List.Pairwise.nil⟩
    · rw [hone]
      exact ⟨List.forall_mem_singleton.mpr ⟨ht.serial_eq, le_rfl, hmade ▸ Nat.lt_succ_self _⟩,
        List.pairwise_singleton _ _⟩

theorem PromiseTable.Promised.made_le {t t' : PromiseTable} {effects : List Effect}
    (h : t.Promised effects t') : t.made ≤ t'.made := by
  cases h with
  | kept _ _ hmade => exact hmade.ge
  | emplaced _ _ hmade => omega

def userMessages (messages : List Frame) : List Frame := messages.filter fun m => isUser m.1

/-- **What a connection did so far accounts for what it holds.** -/
structure Accounted {Φ : Type} (P : Platform Φ) (effects : List Effect)
    (c : InterserverConnection Φ) : Prop where
  valid : ∀ e ∈ effects, e.Valid
  /-- What was sent is what was launched, as far as it got. -/
  sent : userMessages ((sends effects).map Prod.fst) <+: launches P effects
  queued : c.hasBeenShutdown = false →
    launches P effects = userMessages ((sends effects).map Prod.fst) ++ userMessages c.outgoing
  /-- The jobs are those of the messages read, and are performed once. -/
  enqueued : enqueues effects = (receives effects).filterMap (jobOf P)
  jobs : (c.jobs ++ (runs effects).map Prod.fst).Perm (enqueues effects)
  /-- A response that cannot be sent shuts the connection down. -/
  refused : ∀ job resp, (job, resp) ∈ runs effects → job.sendResponse = true →
    responseOf P job resp = none → c.hasBeenShutdown = true
  numbered : c.promises.Numbered
  requested : ∀ request ∈ requests effects,
    request.serial = UInt64.ofNat (request.promise + 1) ∧ request.promise < c.promises.made
  ordered : (requests effects).Pairwise fun a b => a.promise < b.promise

namespace Accounted

variable {Φ σ : Type} {P : Platform Φ} {post : Uuid → σ → Except Exception Unit × σ}
  {effects : List Effect} {c : InterserverConnection Φ}

/-- A connection with nothing but hellos to send. -/
theorem start (houtgoing : userMessages c.outgoing = []) (hjobs : c.jobs = [])
    (hpromises : c.promises = .empty) : Accounted P [] c where
  valid := nofun
  sent := List.nil_prefix
  queued _ := houtgoing.symm
  enqueued := rfl
  jobs := by rw [hjobs]; exact List.Perm.refl _
  refused := nofun
  numbered := by rw [hpromises]; exact ⟨rfl, nofun⟩
  requested := nofun
  ordered := List.Pairwise.nil

theorem userMessages_append (ms ns : List Frame) :
    userMessages (ms ++ ns) = userMessages ms ++ userMessages ns := List.filter_append ms ns

theorem userMessages_of_valid (hvalid : ∀ e ∈ effects, e.Valid) :
    userMessages (launches P effects) = launches P effects :=
  List.filter_eq_self.mpr fun _ hmem => InterserverConnection.isUser_of_mem_launches hvalid hmem

/-- What leaves the queue was launched. -/
theorem queued_handle (h : Accounted P effects c) (event : Event) (s : σ)
    (hup : c.hasBeenShutdown = false)
    (hsent : (c.handle P post event s).2.1.hasBeenShutdown = false ∨
      sends (c.handle P post event s).1 ≠ []) :
    launches P (effects ++ (c.handle P post event s).1)
      = userMessages ((sends (effects ++ (c.handle P post event s).1)).map Prod.fst) ++
        userMessages (c.handle P post event s).2.1.outgoing := by
  obtain ⟨hello, taken, hhello, hqueue, htaken⟩ :=
    InterserverConnection.queued_handle P post c event s
  have hnone : userMessages hello = [] := by
    refine List.filter_eq_nil_iff.mpr fun message hmem huser => ?_
    rw [hhello message hmem] at huser
    exact absurd huser (by decide)
  have huser := congrArg userMessages hqueue
  rw [userMessages_append, userMessages_append, hnone, List.append_nil, userMessages_append,
    userMessages_of_valid (InterserverConnection.valid_handle c event s), htaken hsent] at huser
  have hsplit (new : List Effect) : launches P (effects ++ new)
      = launches P effects ++ launches P new := List.flatMap_append
  have hsends (new : List Effect) : (sends (effects ++ new)).map Prod.fst
      = (sends effects).map Prod.fst ++ (sends new).map Prod.fst := by simp [sends]
  rw [hsplit, hsends, userMessages_append, h.queued hup, List.append_assoc, huser,
    List.append_assoc]

variable (post) in
/-- **One event is accounted for.** -/
theorem handle (h : Accounted P effects c) {event : Event} (henabled : c.Enabled event) (s : σ) :
    Accounted P (effects ++ (c.handle P post event s).1) (c.handle P post event s).2.1 := by
  have hdispatched := InterserverConnection.dispatched_handle (P := P) post henabled s
  have hmono := fun hdown =>
    InterserverConnection.hasBeenShutdown_handle P post (c := c) hdown event s
  have hup (hup : (c.handle P post event s).2.1.hasBeenShutdown = false) :
      c.hasBeenShutdown = false := by
    by_contra hdown
    exact absurd (hup.symm.trans (hmono (by simpa using hdown))) (by decide)
  have hmade := hdispatched.promised.made_le
  have hrequests : requests (effects ++ (c.handle P post event s).1)
      = requests effects ++ requests (c.handle P post event s).1 := List.filterMap_append
  have hruns : runs (effects ++ (c.handle P post event s).1)
      = runs effects ++ runs (c.handle P post event s).1 := List.filterMap_append
  have hnew := hdispatched.promised.requests h.numbered
  refine
    { valid := List.forall_mem_append.mpr ⟨h.valid, InterserverConnection.valid_handle c event s⟩
      sent := ?sent
      queued := fun hafter => h.queued_handle event s (hup hafter) (.inl hafter)
      enqueued := ?enqueued
      jobs := ?jobs
      refused := ?refused
      numbered := hdispatched.promised.numbered h.numbered
      requested := ?requested
      ordered := ?ordered }
  case sent =>
    cases hsends : sends (c.handle P post event s).1 with
    | nil =>
      have hsame : sends (effects ++ (c.handle P post event s).1) = sends effects := by
        rw [sends, List.filterMap_append]
        exact (congrArg _ hsends).trans (List.append_nil _)
      rw [hsame]
      refine h.sent.trans ?_
      rw [launches, launches, List.flatMap_append]
      exact List.prefix_append _ _
    | cons message rest =>
      have hlive : c.hasBeenShutdown = false := by
        by_contra hdown
        rw [InterserverConnection.sends_of_hasBeenShutdown P post (by simpa using hdown)] at hsends
        cases hsends
      rw [h.queued_handle event s hlive (.inr (by rw [hsends]; exact List.cons_ne_nil _ _))]
      exact List.prefix_append _ _
  case enqueued =>
    rw [enqueues, receives, List.filterMap_append, List.filterMap_append, List.filterMap_append]
    exact congrArg₂ _ h.enqueued hdispatched.enqueued
  case jobs =>
    have henqueues : enqueues (effects ++ (c.handle P post event s).1)
        = enqueues effects ++ enqueues (c.handle P post event s).1 := List.filterMap_append
    rw [hruns, henqueues, List.map_append]
    refine ((List.perm_append_comm.append_left _).trans ?_).trans (h.jobs.append_right _)
    rw [← List.append_assoc]
    refine (hdispatched.jobs.append_right _).trans ?_
    rw [List.append_assoc, List.append_assoc]
    exact List.perm_append_comm.append_left _
  case refused =>
    intro job resp hmem hsend hresp
    rw [hruns, List.mem_append] at hmem
    rcases hmem with hold | hnew
    · exact hmono (h.refused job resp hold hsend hresp)
    · exact hdispatched.refused job resp hnew hsend hresp
  case requested =>
    intro request hmem
    rw [hrequests, List.mem_append] at hmem
    rcases hmem with hold | hmem
    · exact ⟨(h.requested request hold).1, (h.requested request hold).2.trans_le hmade⟩
    · obtain ⟨hserial, -, hlt⟩ := hnew.1 request hmem
      exact ⟨hserial, hlt⟩
  case ordered =>
    rw [hrequests, List.pairwise_append]
    refine ⟨h.ordered, hnew.2, fun old hold request hmem => ?_⟩
    exact (h.requested old hold).2.trans_le (hnew.1 request hmem).2.1

/-- The jobs performed are among those of the messages read. -/
theorem runs_subperm (h : Accounted P effects c) :
    ((runs effects).map Prod.fst).Subperm
      ((userMessages (receives effects)).filterMap (jobOf P)) := by
  have hjobOf : (userMessages (receives effects)).filterMap (jobOf P)
      = (receives effects).filterMap (jobOf P) := by
    rw [userMessages, List.filterMap_filter]
    refine List.filterMap_congr fun message _ => ?_
    by_cases huser : isUser message.1 = true
    · rw [if_pos huser]
    · rw [if_neg huser, jobOf, if_neg huser]
  rw [hjobOf, ← h.enqueued]
  exact (List.sublist_append_right _ _).subperm.trans h.jobs.subperm

/-- Fewer than 2^64 promises have different serials. -/
theorem promise_eq_of_serial {t : PromiseTable} (hfew : t.made < 2 ^ 64) {p q : PromiseId}
    (hp : p < t.made) (hq : q < t.made) (h : UInt64.ofNat (p + 1) = UInt64.ofNat (q + 1)) :
    p = q := by
  have hmod := congrArg UInt64.toNat h
  rw [UInt64.toNat_ofNat_of_lt' (by exact lt_of_le_of_lt hp hfew),
    UInt64.toNat_ofNat_of_lt' (by exact lt_of_le_of_lt hq hfew)] at hmod
  exact Nat.succ_injective hmod

/-- A promise has one request. -/
theorem request_unique (h : Accounted P effects c) {a b : Request} (ha : a ∈ requests effects)
    (hb : b ∈ requests effects) (hsame : a.promise = b.promise) : a = b := by
  have hnodup : ((requests effects).map Request.promise).Nodup :=
    List.pairwise_map.mpr (h.ordered.imp ne_of_lt)
  exact List.inj_on_of_nodup_map hnodup ha hb hsame

/-- The jobs of different requests are different. -/
theorem nodup_requestJobs (h : Accounted P effects c) (hfew : c.promises.made < 2 ^ 64) :
    ((requests effects).map Request.job).Nodup := by
  rw [List.nodup_iff_pairwise_ne, List.pairwise_map]
  refine h.ordered.imp_of_mem fun ha hb hlt hjob => ?_
  obtain ⟨haserial, halt⟩ := h.requested _ ha
  obtain ⟨hbserial, hblt⟩ := h.requested _ hb
  have hserial := congrArg RequestMessageJob.serial hjob
  refine absurd (promise_eq_of_serial hfew halt hblt ?_) (ne_of_lt hlt)
  rw [← haserial, ← hbserial]
  exact hserial

end Accounted

end Circe.Common
