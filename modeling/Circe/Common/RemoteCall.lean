import Circe.Common.RequestResponse
import Circe.Common.InterserverAcceptor
import Circe.Common.PromiseSettlement

/-!
# Common/RemoteCall — a servlet called over a connection

A servlet takes the messages of one class.  What its callback returns or throws goes back in an
`Interserver_response`, and `wait_for_response` makes a message or an exception of that again
(`waitForResponse_told`): the caller sees what the callback did, but every exception as a
`Protocol::Exception` with its status code and its text.

`told_of_run` is the promise's side of it, over a whole run of a `Duplex`.
-/

namespace Circe.Common

/-! ## Classes of messages -/

/-- What Poseidon generates from `MESSAGE_FIELDS`: a message is read back as it was written.  Bytes
may be left over behind a message; a field of flexible size leaves none. -/
structure MessageFormat (α : Type) where
  serialize : α → Bytes
  deserialize : Bytes → Except Exception (α × Bytes)
  deserialize_serialize : ∀ a, deserialize (serialize a) = .ok (a, [])

/-- A class of messages, with its `MESSAGE_ID`. -/
structure MessageClass (α : Type) extends MessageFormat α where
  id : UInt64
  isMessageIdValid_id : isMessageIdValid id = true

/-- `Interserver_response(const Message_base &)`. -/
def InterserverResponse.ofMessage (msg : Message) : InterserverResponse :=
  ⟨Protocol.errorSuccess, "", msg.id, msg.payload⟩

namespace MessageClass

variable {α : Type} (m : MessageClass α)

def message (a : α) : Message := ⟨m.id, m.serialize a⟩

/-- A servlet reads its message, before its callback is called. -/
def read (messageId : UInt16) (payload : Bytes) : Except Exception α :=
  if messageId.toUInt64 = m.id then (m.deserialize payload).map Prod.fst
  else .error (.assertion "message_id_ == Msg_::id")

/-- `wait_for_response`, when the promise is settled. -/
def waitForResponse : Except Exception InterserverResponse → Except Exception α
  | .error e => .error e
  | .ok resp =>
    if resp.errCode ≠ 0 then .error (.protocol resp.errCode resp.errMsg)
    else if resp.messageId = 0 then
      .error (.exception "No message payload but status code returned")
    else if resp.messageId ≠ m.id then .error (.exception "Unexpected response message ID")
    else (m.deserialize resp.payload).map Prod.fst

/-- What a callback returned or threw, as its servlet hands it on. -/
def handled (result : Except Exception α) : Except Exception InterserverResponse :=
  result.map fun a => .ofMessage (m.message a)

end MessageClass

/-- What a caller sees of what a callback returned or threw. -/
def rethrown {α : Type} : Except Exception α → Except Exception α
  | .ok a => .ok a
  | .error e =>
    if e.statusCode = 0 then .error (.exception "No message payload but status code returned")
    else .error (.protocol e.statusCode e.what)

namespace MessageClass

variable {α : Type} (m : MessageClass α)

theorem id_ne_zero : m.id ≠ 0 := by
  intro hzero
  have hvalid := m.isMessageIdValid_id
  rw [hzero] at hvalid
  exact absurd hvalid (by decide)

theorem toUInt64_id : m.id.toUInt16.toUInt64 = m.id := by
  have hle : m.id.toNat ≤ 0x0FFF := by
    have hvalid := m.isMessageIdValid_id
    simp only [isMessageIdValid, Bool.and_eq_true, decide_eq_true_eq] at hvalid
    exact UInt64.le_iff_toNat_le.mp hvalid.2
  apply UInt64.toNat_inj.mp
  simp only [UInt16.toNat_toUInt64, UInt64.toNat_toUInt16]
  omega

/-- A servlet reads what was sent. -/
theorem read_message (a : α) : m.read (m.message a).id.toUInt16 (m.message a).payload = .ok a := by
  rw [read, message, if_pos m.toUInt64_id, m.deserialize_serialize]
  rfl

/-- **A call gives what the callback gave.** -/
theorem waitForResponse_told (result : Except Exception α) :
    m.waitForResponse (.ok (InterserverResponse.ofHandled (m.handled result)).told)
      = rethrown result := by
  cases result with
  | ok a =>
    have htold : (InterserverResponse.ofHandled (m.handled (.ok a))).told
        = ⟨Protocol.errorSuccess, "", m.id, m.serialize a⟩ :=
      congrArg (InterserverResponse.mk _ _ m.id) (if_neg m.id_ne_zero)
    have hsuccess : ¬ Protocol.errorSuccess ≠ 0 := by decide
    rw [htold, waitForResponse, if_neg hsuccess, if_neg m.id_ne_zero, if_neg (by simp),
      m.deserialize_serialize]
    rfl
  | error e =>
    show m.waitForResponse (.ok ⟨e.statusCode, e.what, 0, _⟩) = _
    simp only [waitForResponse, rethrown, ne_eq, ite_not, if_true]

end MessageClass

/-! ## What is performed -/

/-- The job that an event performs, with the response made of what its servlet did. -/
def Event.performed : Event → List (RequestMessageJob × InterserverResponse)
  | .perform job handled => [(job, .ofHandled handled)]
  | _ => []

/-- What the workhorse thread does: frames are read and sent, jobs enqueued, promises satisfied. -/
def Effect.isOfWork : Effect → Bool
  | .received .. | .sent .. | .enqueued _ | .settled _ (.ok _) => true
  | _ => false

namespace InterserverConnection

variable {Φ σ : Type} (P : Platform Φ) (post : Uuid → σ → Except Exception Unit × σ)

theorem isOfWork_dispatch (magicNumber : UInt16) (magicPayload : Bytes)
    (c : InterserverConnection Φ) :
    ∀ e ∈ (c.dispatch P magicNumber magicPayload).2.2, e.isOfWork = true := by
  have hnothing : ∀ e ∈ ([] : List Effect), e.isOfWork = true := fun _ he =>
    absurd he List.not_mem_nil
  rw [dispatch]
  repeat' split
  · exact hnothing
  · intro e he
    obtain ⟨promise, -, rfl⟩ := List.mem_map.mp he
    rfl
  · exact hnothing
  · exact List.forall_mem_singleton.mpr rfl
  · exact List.forall_mem_singleton.mpr rfl

theorem isOfWork_work (c : InterserverConnection Φ) (s : σ) :
    ∀ e ∈ (c.work P post s).1, e.isOfWork = true := by
  have hhello {magicNumber : UInt16} {encodedPayload : Bytes} {effects : List Effect}
      (h : effects.Sublist [.received magicNumber encodedPayload encodedPayload]) :
      ∀ e ∈ effects, e.isOfWork = true := fun e he => by
    rw [List.mem_singleton.mp (h.subset he)]
    rfl
  have hnothing : ∀ e ∈ ([] : List Effect), e.isOfWork = true := fun _ he =>
    absurd he List.not_mem_nil
  rw [work]
  split
  case h_1 => exact hnothing
  case h_2 magicNumber encodedPayload rest _ =>
    rw [inflateAndDispatch]
    split
    case isTrue => exact hnothing
    case isFalse =>
      have hspec := tryInflateAndDispatch_spec P post magicNumber encodedPayload
        { c with workhorse := rest } s
      dsimp only
      generalize tryInflateAndDispatch P post magicNumber encodedPayload
        { c with workhorse := rest } s = o at hspec ⊢
      cases hspec with
      | clientHello _ h =>
        cases h with
        | refused _ _ heffects => exact hhello heffects
        | halted | accepted => exact List.forall_mem_singleton.mpr rfl
      | serverHello _ h =>
        cases h with
        | refused _ _ heffects => exact hhello heffects
        | halted | accepted => exact List.forall_mem_singleton.mpr rfl
      | unread => exact hnothing
      | read magicPayload filter =>
        exact List.forall_mem_cons.mpr ⟨rfl, isOfWork_dispatch P magicNumber magicPayload _⟩
  case h_3 magicNumber magicPayload rest _ =>
    obtain ⟨-, ⟨heffects, -⟩ | ⟨encodedPayload, heffects⟩⟩ :=
      deflateAndSend_cases (P := P) magicNumber magicPayload { c with workhorse := rest }
    · rw [heffects]
      exact hnothing
    · rw [heffects]
      exact List.forall_mem_singleton.mpr rfl

theorem runs_handle (c : InterserverConnection Φ) (event : Event) (s : σ) :
    runs (c.handle P post event s).1 = event.performed := by
  cases event with
  | work =>
    refine List.filterMap_eq_nil_iff.mpr fun e he => ?_
    have hwork := isOfWork_work P post c s e he
    cases e with
    | ran => cases hwork
    | _ => rfl
  | receiveControl statusCode param =>
    simp only [handle, layer5OnReceiveControl]
    repeat' split
    all_goals rfl
  | sendRequest msg thrown =>
    rcases sendRequest_cases (P := P) msg thrown c with h | ⟨-, h, -⟩ <;> exact congrArg runs h
  | sendNotification msg thrown =>
    rcases sendNotification_cases msg thrown c with h | ⟨-, h⟩ <;> exact congrArg runs h
  | close =>
    simp only [handle, layer4OnClose]
    split
    · refine List.filterMap_eq_nil_iff.mpr fun e he => ?_
      obtain ⟨promise, -, rfl⟩ := List.mem_map.mp he
      rfl
    · rfl
  | _ => rfl

/-- A promise that gets an exception gets that of the close. -/
theorem eq_connectionLost_of_settled {c : InterserverConnection Φ} {event : Event} {s : σ}
    {promise : PromiseId} {e : Exception}
    (h : .settled promise (.error e) ∈ (c.handle P post event s).1) : e = connectionLost := by
  cases event with
  | work => exact absurd (isOfWork_work P post c s _ h) (by simp [Effect.isOfWork])
  | receiveControl statusCode param =>
    simp only [handle, layer5OnReceiveControl] at h
    repeat' split at h
    all_goals simp at h
  | sendRequest msg thrown =>
    change _ ∈ (c.sendRequest P msg thrown).2.2 at h
    rcases sendRequest_cases (P := P) msg thrown c with hnone | ⟨-, hone, -⟩
    · exact absurd (hnone ▸ h) List.not_mem_nil
    · rw [hone] at h
      cases List.mem_singleton.mp h
  | sendNotification msg thrown =>
    change _ ∈ (c.sendNotification msg thrown).2.2 at h
    rcases sendNotification_cases msg thrown c with hnone | ⟨-, hone⟩
    · exact absurd (hnone ▸ h) List.not_mem_nil
    · rw [hone] at h
      cases List.mem_singleton.mp h
  | close =>
    simp only [handle, layer4OnClose] at h
    split at h
    · obtain ⟨promise', -, heq⟩ := List.mem_map.mp h
      exact (Except.error.inj (Effect.settled.inj heq).2).symm
    · exact absurd h List.not_mem_nil
  | perform job handled => cases List.mem_singleton.mp h
  | _ => exact absurd h List.not_mem_nil

/-- A call of `send_request` that returns has made its request. -/
theorem requested_of_sendRequest {msg : Message} {thrown : Option Exception}
    {c : InterserverConnection Φ} (h : (c.sendRequest P msg thrown).1 = .ok ()) :
    (c.sendRequest P msg thrown).2.2 = [.requested c.promises.serial c.promises.made msg] := by
  rw [sendRequest] at h ⊢
  split at h
  case isTrue => cases h
  case isFalse hvalid =>
    rw [if_neg hvalid]
    split at h
    case isTrue => cases h
    case isFalse hup =>
      rw [if_neg hup]
      cases thrown with
      | some e => cases h
      | none => rfl

end InterserverConnection

/-! ## What a promise is told, over a run -/

namespace Duplex

variable {Φ σ : Type} {P : Platform Φ} {post : Side → Uuid → σ → Except Exception Unit × σ}
  {x y : Duplex Φ σ} {ls : List DuplexLabel} {applicationKey : Bytes} {InStep : Φ → Φ → Prop}
  {side : Side}

/-- What a side did, did it in one of its steps. -/
theorem exists_step_of_mem {e : Effect} (hmem : e ∈ effectsOf side ls) :
    ∃ pre l post, ls = pre ++ l :: post ∧ l.side = side ∧ e ∈ l.effects := by
  obtain ⟨l, hl, he⟩ := List.mem_flatMap.mp hmem
  by_cases hside : l.side = side
  · rw [if_pos hside] at he
    obtain ⟨pre, rest, hls⟩ := List.append_of_mem hl
    exact ⟨pre, l, rest, hls, hside, he⟩
  · rw [if_neg hside] at he
    exact absurd he List.not_mem_nil

theorem effectsOf_append (ls ms : List DuplexLabel) :
    effectsOf side (ls ++ ms) = effectsOf side ls ++ effectsOf side ms := List.flatMap_append

/-- **A promise that was told something** is that of a request, which the peer performed, and was
told what came of that. -/
theorem told_of_run (hkeeps : P.filter.KeepsInStep InStep) (hx : x.Started P applicationKey)
    (hrun : Lts.Run (Step P post) x ls y) (hfew : (y.ends side).promises.made < 2 ^ 64)
    {promise : PromiseId} {value : InterserverResponse}
    (htold : .settled promise (.ok value) ∈ effectsOf side ls) :
    ∃ request ∈ requests (effectsOf side ls), request.promise = promise ∧
      ∃ resp, (request.job, resp) ∈ runs (effectsOf side.peer ls) ∧ resp.told = value := by
  obtain ⟨pre, l, rest, rfl, rfl, hsettled⟩ := exists_step_of_mem htold
  obtain ⟨t, t', hpre, hstep, hrest⟩ := hrun.split
  obtain ⟨hhonest, hconveys⟩ := hx.run hpre (h := hkeeps)
  have hfew' : (t.ends l.side).promises.made < 2 ^ 64 :=
    (made_le_of_run ((Lts.Run.single hstep).append hrest) l.side).trans_lt hfew
  obtain ⟨request, hrequest, hpromise, -, resp, hran, hresp⟩ :=
    fulfilled_step hhonest hconveys (hx.accounted hpre) hstep hfew'
      (List.mem_filterMap.mpr ⟨_, hsettled, rfl⟩)
  have hmono {a : Side} {e : Effect} (he : e ∈ effectsOf a pre) :
      e ∈ effectsOf a (pre ++ l :: rest) := by
    rw [effectsOf_append]
    exact List.mem_append_left _ he
  obtain ⟨e, he, hreq⟩ := List.mem_filterMap.mp hrequest
  obtain ⟨d, hd, hjob⟩ := List.mem_filterMap.mp hran
  exact ⟨request, List.mem_filterMap.mpr ⟨e, hmono he, hreq⟩, hpromise, resp,
    List.mem_filterMap.mpr ⟨d, hmono hd, hjob⟩, hresp⟩

/-- A promise that got an exception lost its connection. -/
theorem lost_of_run (hrun : Lts.Run (Step P post) x ls y) {promise : PromiseId} {e : Exception}
    (htold : .settled promise (.error e) ∈ effectsOf side ls) :
    e = InterserverConnection.connectionLost := by
  obtain ⟨pre, l, rest, rfl, rfl, hsettled⟩ := exists_step_of_mem htold
  obtain ⟨t, t', -, hstep, -⟩ := hrun.split
  have heffects : l.effects
      = ((t.ends l.side).handle P (post l.side) l.event t.surroundings).1 := by
    rw [hstep.handle]
  exact InterserverConnection.eq_connectionLost_of_settled P (post l.side) (heffects ▸ hsettled)

/-- What a side enqueues was asked for by the other, once for each time it was asked. -/
theorem enqueues_sublist (hkeeps : P.filter.KeepsInStep InStep) (hx : x.Started P applicationKey)
    (hrun : Lts.Run (Step P post) x ls y) (side : Side) :
    (enqueues (effectsOf side.peer ls)).Sublist (jobsFor (effectsOf side ls)) := by
  have hlaunched := ((hx.run hrun (h := hkeeps)).2 side).launched (hx.accounted hrun)
  rw [(hx.accounted hrun side.peer).enqueued, ← filterMap_jobOf_launches (P := P)
    (hx.accounted hrun side).valid]
  have hread : (receives (effectsOf side.peer ls)).filterMap (jobOf P)
      = (userMessages (receivedBy side.peer ls)).filterMap (jobOf P) := by
    rw [userMessages, List.filterMap_filter]
    refine List.filterMap_congr fun message _ => ?_
    by_cases huser : isUser message.1 = true
    · rw [if_pos huser]
    · rw [if_neg huser, jobOf, if_neg huser]
  rw [hread]
  exact (hlaunched.filterMap _).sublist

/-- A request is enqueued once at most. -/
theorem count_enqueues_le_one (hkeeps : P.filter.KeepsInStep InStep)
    (hx : x.Started P applicationKey) (hrun : Lts.Run (Step P post) x ls y)
    (hfew : (y.ends side).promises.made < 2 ^ 64) (request : Request) :
    (enqueues (effectsOf side.peer ls)).count request.job ≤ 1 := by
  refine ((enqueues_sublist hkeeps hx hrun side).count_le request.job).trans ?_
  rw [← List.count_filter (p := RequestMessageJob.sendResponse) rfl, filter_jobsFor]
  exact List.nodup_iff_count_le_one.mp ((hx.accounted hrun side).nodup_requestJobs hfew) _

end Duplex

end Circe.Common
