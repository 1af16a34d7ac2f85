import Circe.Common.Duplex
import Circe.Common.Dispatch

/-!
# Common/RequestResponse — a response belongs to its request

An honest client and an honest server on one `Duplex`.  Each side's history accounts for what it
holds (`Accounted`), and each direction is in step (`Conveyed`); so what a side's servlets are
asked is what the other side requested, and what a promise is told is what became of its own
request.
-/

namespace Circe.Common

namespace Duplex

variable {Φ σ : Type} {P : Platform Φ} {post : Side → Uuid → σ → Except Exception Unit × σ}
  {x y : Duplex Φ σ} {history : List DuplexLabel} {l : DuplexLabel} {applicationKey : Bytes}

theorem Step.enabled_self (h : Step P post x l y) : (x.ends l.side).Enabled l.event := by
  obtain ⟨henabled, -, -⟩ := h
  cases hevent : l.event with
  | receiveData => trivial
  | _ =>
    rw [hevent] at henabled
    exact henabled

/-- Both sides' histories account for what they hold. -/
def AllAccounted (P : Platform Φ) (history : List DuplexLabel) (x : Duplex Φ σ) : Prop :=
  ∀ side, Accounted P (effectsOf side history) (x.ends side)

theorem AllAccounted.step (h : x.AllAccounted P history) (hstep : Step P post x l y) :
    y.AllAccounted P (history ++ [l]) := by
  intro side
  rcases Side.eq_or_eq_peer side l.side with rfl | rfl
  · have hnext := (h l.side).handle (post l.side) hstep.enabled_self x.surroundings
    rw [hstep.handle] at hnext
    rw [effectsOf_concat_of_eq rfl]
    exact hnext
  · rw [effectsOf_concat_of_ne (Side.peer_ne _).symm, hstep.ends_peer]
    exact h _

theorem Started.allAccounted (hx : x.Started P applicationKey) : x.AllAccounted P [] := by
  intro side
  cases side with
  | server =>
    rw [hx.server]
    exact .start rfl rfl rfl
  | client =>
    obtain ⟨connectionUuid, timestamp, optionsReq, -, hclient⟩ := hx.client
    rw [hclient, InterserverConnection.layer7ClientSayHello_new]
    exact .start (by simp [InterserverConnection.outgoing, userMessages, not_isUser_clientHello])
      rfl rfl

variable {InStep : Φ → Φ → Prop} {h : P.filter.KeepsInStep InStep} {side : Side}

/-- What a side has read of user-defined messages is what the other launched, as far as it got. -/
theorem Conveys.launched (hconveys : Conveys h applicationKey side history x)
    (haccounted : x.AllAccounted P history) :
    userMessages (receivedBy side.peer history) <+: launches P (effectsOf side history) :=
  (hconveys.isPrefix.filter _).trans (haccounted side).sent

/-- **What a side performs was asked for by the other**, and once for each time it was asked. -/
theorem Conveys.runs_subperm (hconveys : Conveys h applicationKey side history x)
    (haccounted : x.AllAccounted P history) :
    ((runs (effectsOf side.peer history)).map Prod.fst).Subperm
      (jobsFor (effectsOf side history)) := by
  rw [← filterMap_jobOf_launches (P := P) (haccounted side).valid]
  refine (haccounted side.peer).runs_subperm.trans (List.IsPrefix.sublist ?_).subperm
  exact (hconveys.launched haccounted).filterMap _

end Duplex

/-- A request that is performed was requested. -/
theorem request_of_mem_jobsFor {effects : List Effect} {job : RequestMessageJob}
    (hmem : job ∈ jobsFor effects) (hsend : job.sendResponse = true) :
    ∃ request ∈ requests effects, request.job = job := by
  obtain ⟨e, he, hjob⟩ := List.mem_filterMap.mp hmem
  cases e with
  | requested serial promise msg =>
    exact ⟨⟨serial, promise, msg⟩, List.mem_filterMap.mpr ⟨_, he, rfl⟩, Option.some.inj hjob⟩
  | notified msg =>
    rw [← Option.some.inj hjob] at hsend
    cases hsend
  | _ => cases hjob

theorem filter_jobsFor (effects : List Effect) :
    (jobsFor effects).filter RequestMessageJob.sendResponse
    = (requests effects).map Request.job := by
  induction effects with
  | nil => rfl
  | cons e es ih =>
    cases e with
    | requested => exact congrArg _ ih
    | _ => exact ih

namespace Duplex

variable {Φ σ : Type} {P : Platform Φ} {post : Side → Uuid → σ → Except Exception Unit × σ}
  {x y : Duplex Φ σ} {history : List DuplexLabel} {l : DuplexLabel} {applicationKey : Bytes}
  {InStep : Φ → Φ → Prop} {h : P.filter.KeepsInStep InStep} {side : Side}

/-- **A promise that is told something.**  The message that says so answers the request of that
promise, and was made of what the peer's servlet did with that request. -/
theorem fulfilled_step (hx : x.Honest P applicationKey)
    (hconveys : ∀ side, Conveys h applicationKey side history x)
    (haccounted : x.AllAccounted P history) (hstep : Step P post x l y)
    (hfew : (x.ends l.side).promises.made < 2 ^ 64) {promise : PromiseId}
    {value : InterserverResponse} (hfulfils : (promise, value) ∈ fulfils l.effects) :
    ∃ request ∈ requests (effectsOf l.side history), request.promise = promise ∧
      (∃ message ∈ receives l.effects, answerOf P message = some (request.serial, value)) ∧
        ∃ resp, (request.job, resp) ∈ runs (effectsOf l.side.peer history) ∧ resp.told = value := by
  have hdispatched := InterserverConnection.dispatched_handle (P := P) (post l.side)
    hstep.enabled_self x.surroundings
  rw [hstep.handle] at hdispatched
  obtain ⟨message, hmessage, serial, hanswer, hentry⟩ :=
    hdispatched.fulfilled promise value hfulfils
  obtain ⟨hserial, hlt⟩ := (haccounted l.side).numbered.entries _ hentry
  have huser : isUser message.1 = true := by
    by_contra huser
    rw [answerOf, if_neg (by simp [huser])] at hanswer
    cases hanswer
  -- The message was launched by the peer.
  have hafter : Conveys h applicationKey l.side.peer (history ++ [l]) y :=
    (hconveys l.side.peer).step hx hstep
  have hlaunched : message ∈ launches P (effectsOf l.side.peer history) := by
    have hreceived : message ∈ receivedBy l.side.peer.peer (history ++ [l]) := by
      rw [Side.peer_peer, receivedBy_concat_of_eq rfl]
      exact List.mem_append_right _ hmessage
    have hsent := hafter.isPrefix.subset hreceived
    rw [sentBy_concat_of_ne (Side.peer_ne _).symm] at hsent
    exact (haccounted l.side.peer).sent.subset (List.mem_filter.mpr ⟨hsent, huser⟩)
  obtain ⟨job, resp, hran, -, hjobserial, hsend, htold⟩ :=
    runs_of_answerOf (haccounted l.side.peer).valid hlaunched hanswer
  -- The job was requested by this side.
  have hjob : job ∈ jobsFor (effectsOf l.side history) :=
    ((hconveys l.side).runs_subperm haccounted).subset
      (List.mem_map.mpr ⟨(job, resp), hran, rfl⟩)
  obtain ⟨request, hrequest, rfl⟩ := request_of_mem_jobsFor hjob hsend
  obtain ⟨hrequestserial, hrequestlt⟩ := (haccounted l.side).requested request hrequest
  refine ⟨request, hrequest, ?_, ⟨message, hmessage, ?_⟩, resp, hran, htold⟩
  · refine Accounted.promise_eq_of_serial hfew hrequestlt hlt ?_
    rw [← hrequestserial]
    exact hjobserial.trans hserial
  · rw [hanswer]
    exact congrArg some (Prod.ext hjobserial.symm rfl)

/-- Both sides' histories account for what they hold, along every run. -/
theorem Started.accounted (hx : x.Started P applicationKey)
    (hrun : Lts.Run (Step P post) x history y) : y.AllAccounted P history :=
  hrun.historyInvariant (J := fun history y => y.AllAccounted P history) AllAccounted.step
    hx.allAccounted

/-- Promises are only ever made. -/
theorem made_le_of_run (hrun : Lts.Run (Step P post) x history y) (side : Side) :
    (x.ends side).promises.made ≤ (y.ends side).promises.made := by
  refine hrun.invariant (I := fun t => (x.ends side).promises.made ≤ (t.ends side).promises.made)
    ?_ le_rfl
  intro s l t hle hstep
  refine hle.trans ?_
  rcases Side.eq_or_eq_peer side l.side with rfl | rfl
  · have h := (InterserverConnection.dispatched_handle (P := P) (post l.side) hstep.enabled_self
      s.surroundings).promised.made_le
    rwa [hstep.handle] at h
  · rw [hstep.ends_peer]

/-- A request is performed once at most. -/
theorem Conveys.nodup_runs (hconveys : Conveys h applicationKey side history x)
    (haccounted : x.AllAccounted P history) (hfew : (x.ends side).promises.made < 2 ^ 64) :
    (((runs (effectsOf side.peer history)).map Prod.fst).filter
      RequestMessageJob.sendResponse).Nodup := by
  have hsub := (hconveys.runs_subperm haccounted).filter RequestMessageJob.sendResponse
  rw [filter_jobsFor] at hsub
  obtain ⟨jobs, hperm, hsublist⟩ := hsub
  exact hperm.nodup_iff.mp (hsublist.nodup ((haccounted side).nodup_requestJobs hfew))

end Duplex

theorem runs_unique {effects : List Effect}
    (hnodup : (((runs effects).map Prod.fst).filter RequestMessageJob.sendResponse).Nodup)
    {job : RequestMessageJob} (hsend : job.sendResponse = true) {resp resp' : InterserverResponse}
    (h : (job, resp) ∈ runs effects) (h' : (job, resp') ∈ runs effects) : resp' = resp := by
  rw [List.filter_map] at hnodup
  have hmem {resp : InterserverResponse} (h : (job, resp) ∈ runs effects) :
      (job, resp) ∈ (runs effects).filter (RequestMessageJob.sendResponse ∘ Prod.fst) :=
    List.mem_filter.mpr ⟨h, hsend⟩
  exact congrArg Prod.snd (List.inj_on_of_nodup_map hnodup (hmem h') (hmem h) rfl)

/-- A promise that is told something is told, by a message with the serial of its one request, what
the peer's servlet made of exactly that request. -/
def ToldOfItsRequest (P : Platform MessageFilter) (side : Side) (ls : List DuplexLabel) : Prop :=
  ∀ pre l rest, ls = pre ++ l :: rest → l.side = side →
    ∀ promise value, .settled promise (.ok value) ∈ l.effects →
      ∃ request ∈ requests (effectsOf side pre), request.promise = promise ∧
        (∀ other ∈ requests (effectsOf side ls), other.promise = promise → other = request) ∧
        (∃ message ∈ receives l.effects, answerOf P message = some (request.serial, value)) ∧
        ∃ resp, (request.job, resp) ∈ runs (effectsOf side.peer pre) ∧
          (∀ resp', (request.job, resp') ∈ runs (effectsOf side.peer ls) → resp' = resp) ∧
          value = resp.told

/-- **Requests and responses match.**  In every run, for either side that has made fewer than 2^64
promises: a promise is told what became of its own request (`ToldOfItsRequest`); what the peer's
servlets performed was requested or notified, and once for each time it was; a request is performed
once at most; a response is launched only for a request that was performed, never for a
notification; and a response that cannot be sent shuts the peer down. -/
theorem request_response_matching (aes : AesEncrypt) (z : Zlib) (P : Platform MessageFilter)
    {σ : Type} (post : Side → Uuid → σ → Except Exception Unit × σ) {x y : Duplex MessageFilter σ}
    {applicationKey : Bytes} (hx : x.Started (P.withFilter aes z) applicationKey)
    {ls : List DuplexLabel} (hrun : Lts.Run (Duplex.Step (P.withFilter aes z) post) x ls y)
    (side : Side) (hfew : (y.ends side).promises.made < 2 ^ 64) :
    ToldOfItsRequest (P.withFilter aes z) side ls ∧
      ((runs (effectsOf side.peer ls)).map Prod.fst).Subperm (jobsFor (effectsOf side ls)) ∧
      (((runs (effectsOf side.peer ls)).map Prod.fst).filter
        RequestMessageJob.sendResponse).Nodup ∧
      (∀ message ∈ launches (P.withFilter aes z) (effectsOf side.peer ls), ∀ serial value,
        answerOf (P.withFilter aes z) message = some (serial, value) →
          ∃ request ∈ requests (effectsOf side ls), request.serial = serial ∧
            ∃ resp, (request.job, resp) ∈ runs (effectsOf side.peer ls) ∧ value = resp.told) ∧
      ∀ job resp, (job, resp) ∈ runs (effectsOf side.peer ls) → job.sendResponse = true →
        resp.messageId ≠ 0 → isMessageIdValid resp.messageId = false →
          (y.ends side.peer).hasBeenShutdown = true := by
  have hkeeps : (P.withFilter aes z).filter.KeepsInStep (MessageFilter.InStep z) :=
    MessageFilter.keepsInStep aes z
  have hconveys := (hx.run hrun (h := hkeeps)).2
  have haccounted := hx.accounted hrun
  have hsubperm := (hconveys side).runs_subperm haccounted
  have hnodup := (hconveys side).nodup_runs haccounted hfew
  refine ⟨?told, hsubperm, hnodup, ?answers, ?refused⟩
  case told =>
    rintro pre l rest rfl rfl promise value hsettled
    obtain ⟨t, t', hpre, hstep, hrest⟩ := hrun.split
    obtain ⟨hhonest, hconveys'⟩ := hx.run hpre (h := hkeeps)
    have hfew' : (t.ends l.side).promises.made < 2 ^ 64 :=
      (Duplex.made_le_of_run ((Lts.Run.single hstep).append hrest) l.side).trans_lt hfew
    obtain ⟨request, hrequest, hpromise, hmessage, resp, hran, htold⟩ :=
      Duplex.fulfilled_step hhonest hconveys' (hx.accounted hpre) hstep hfew'
        (List.mem_filterMap.mpr ⟨_, hsettled, rfl⟩)
    have hmono (side : Side) : ∃ later,
        effectsOf side (pre ++ l :: rest) = effectsOf side pre ++ later :=
      ⟨_, List.flatMap_append⟩
    refine ⟨request, hrequest, hpromise, fun other hother hsame => ?_, hmessage, resp, hran,
      fun resp' hran' => ?_, htold.symm⟩
    · obtain ⟨later, hlater⟩ := hmono l.side
      refine (haccounted l.side).request_unique hother ?_ (hsame.trans hpromise.symm)
      rw [hlater, requests, List.filterMap_append]
      exact List.mem_append_left _ hrequest
    · obtain ⟨later, hlater⟩ := hmono l.side.peer
      refine runs_unique hnodup rfl ?_ hran'
      rw [hlater, runs, List.filterMap_append]
      exact List.mem_append_left _ hran
  case answers =>
    intro message hmessage serial value hanswer
    obtain ⟨job, resp, hran, -, rfl, hsend, rfl⟩ :=
      runs_of_answerOf (haccounted side.peer).valid hmessage hanswer
    obtain ⟨request, hrequest, rfl⟩ :=
      request_of_mem_jobsFor (hsubperm.subset (List.mem_map.mpr ⟨_, hran, rfl⟩)) hsend
    exact ⟨request, hrequest, rfl, resp, hran, rfl⟩
  case refused =>
    intro job resp hran hsend hzero hinvalid
    refine (haccounted side.peer).refused job resp hran hsend ?_
    rw [responseOf, hsend, hinvalid, decide_eq_false hzero]
    rfl

theorem request_response_matching_trial :
    ToldOfItsRequest trialPlatform .client (trialHistory trialExchange) ∧
      fulfils (effectsOf .client (trialHistory trialExchange)) = [(0, ⟨0, "", 6, [4]⟩)] :=
  ⟨(request_response_matching trialAes storedZlib trialPlatform postsNothing trialDuplex_started
    trialExchange_run .client (by decide +kernel)).1, by decide +kernel⟩

end Circe.Common
