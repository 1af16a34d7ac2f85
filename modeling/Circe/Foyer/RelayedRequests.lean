import Circe.Foyer.Servlets

/-!
# Foyer/RelayedRequests — a response is made of the response to its own request

`RelayInv` is what a history and the state it ends in have in common: which request each fiber made,
that no two fibers wait for one promise, and what each response was made of.
-/

namespace Circe.Foyer

open Common Protocol

variable {κ Φ σ : Type} [DecidableEq κ] {P : Platform Φ}
  {post : κ → Side → Uuid → σ → Except Exception Unit × σ} {ours : κ → Side}
  {servlets : UInt16 → Option RelayServlet} {x y : Server κ Φ σ} {l : ServerLabel κ}
  {history : List (ServerLabel κ)} {k : κ}

/-- What a step did at the server's own end of a connection. -/
def ServerLabel.did (ours : κ → Side) (k : κ) (l : ServerLabel κ) : List Effect :=
  match l.step with
  | none => []
  | some (k', step) => if k' = k ∧ step.side = ours k then step.effects else []

/-- What the server did on one of its connections. -/
def did (ours : κ → Side) (k : κ) (history : List (ServerLabel κ)) : List Effect :=
  effectsOf (ours k) (historyOf k history)

theorem historyOf_concat_of_eq {step : DuplexLabel} (h : l.step = some (k, step)) :
    historyOf k (history ++ [l]) = historyOf k history ++ [step] := by
  rw [historyOf, List.filterMap_append]
  refine congrArg (historyOf k history ++ ·) ?_
  simp [h]

theorem historyOf_concat_of_ne (h : ∀ step, l.step ≠ some (k, step)) :
    historyOf k (history ++ [l]) = historyOf k history := by
  rw [historyOf, List.filterMap_append]
  refine (congrArg (historyOf k history ++ ·) ?_).trans (List.append_nil _)
  cases hstep : l.step with
  | none => simp [hstep]
  | some step =>
    have hk : step.1 ≠ k := fun hk => h step.2 (by rw [hstep, ← hk])
    simp [hstep, hk]

theorem did_concat (history : List (ServerLabel κ)) (l : ServerLabel κ) :
    did ours k (history ++ [l]) = did ours k history ++ l.did ours k := by
  rw [did, historyOf, List.filterMap_append, Duplex.effectsOf_append]
  refine congrArg (did ours k history ++ ·) ?_
  rw [ServerLabel.did]
  cases hstep : l.step with
  | none => simp [hstep, effectsOf]
  | some step =>
    by_cases hk : step.1 = k <;> simp [hstep, effectsOf, hk]

theorem mem_did_concat {e : Effect} (h : e ∈ did ours k history) :
    e ∈ did ours k (history ++ [l]) := by
  rw [did_concat]
  exact List.mem_append_left _ h

/-- The promise that a fiber waits for. -/
def Fiber.promise? (fiber : Fiber κ) : Option (κ × PromiseId) := fiber.awaits.toOption

namespace Server

/-! ## One step -/

theorem did_of_step {step : DuplexLabel} (h : l.step = some (k, step))
    (hside : step.side = ours k) : l.did ours k = step.effects := by
  rw [ServerLabel.did, h]
  exact if_pos ⟨rfl, hside⟩

/-- What the server's own end of a connection does in a step. -/
theorem Step.connection (h : Step P post ours servlets x l y) (k : κ) :
    (∃ step, l.step = some (k, step) ∧ step.side = ours k ∧
        (x.connection ours k).Enabled step.event ∧ ∃ s s',
          (x.connection ours k).handle P (post k (ours k)) step.event s
            = (l.did ours k, y.connection ours k, s')) ∨
      l.did ours k = [] ∧ y.connection ours k = x.connection ours k := by
  rcases h.link k with ⟨step, hl, hstep⟩ | ⟨hnone, hlink⟩
  · rcases Side.eq_or_eq_peer (ours k) step.side with hside | hside
    · refine .inl ⟨step, hl, hside.symm, ?_, (x.links k).surroundings, (y.links k).surroundings, ?_⟩
      · have henabled := hstep.enabled_self
        rwa [← hside] at henabled
      · have hhandle := hstep.handle
        rw [← hside] at hhandle
        rw [did_of_step hl hside.symm]
        exact hhandle
    · refine .inr ⟨?_, ?_⟩
      · rw [ServerLabel.did, hl]
        refine if_neg fun hboth => Side.peer_ne step.side ?_
        rw [← hside, hboth.2]
      · have hpeer := hstep.ends_peer
        rw [← hside] at hpeer
        exact hpeer
  · refine .inr ⟨?_, congrArg (fun link => link.ends (ours k)) hlink⟩
    rw [ServerLabel.did]
    cases hstep : l.step with
    | none => rfl
    | some step =>
      refine if_neg fun hboth => hnone step.2 ?_
      rw [hstep, ← hboth.1]

/-- A UUID that is set is never another. -/
theorem Step.getConnectionUuid (h : Step P post ours servlets x l y) {uuid : Uuid}
    (hset : (x.connection ours k).getConnectionUuid = .ok uuid) :
    (y.connection ours k).getConnectionUuid = .ok uuid := by
  rcases h.connection k with ⟨step, -, -, -, s, s', hhandle⟩ | ⟨-, hsame⟩
  · have hisset : (x.connection ours k).isConnectionUuidSet = true := by
      by_contra hunset
      rw [InterserverConnection.getConnectionUuid, if_neg hunset] at hset
      cases hset
    have hhello := InterserverConnection.sameHello_handle P (post k (ours k)) hisset step.event s
    rw [hhandle] at hhello
    rw [← hset, InterserverConnection.getConnectionUuid, InterserverConnection.getConnectionUuid,
      InterserverConnection.isConnectionUuidSet, InterserverConnection.isConnectionUuidSet,
      hhello.connectionUuid]
  · rw [hsame, hset]

/-- Jobs leave a connection by being performed. -/
theorem Step.count_jobs_le (h : Step P post ours servlets x l y) (k : κ) (job : RequestMessageJob) :
    (x.connection ours k).jobs.count job
      ≤ (y.connection ours k).jobs.count job
        + ((runs (l.did ours k)).map Prod.fst).count job := by
  rcases h.connection k with ⟨step, -, -, henabled, s, s', hhandle⟩ | ⟨-, hsame⟩
  · have hdispatched :=
      InterserverConnection.dispatched_handle (P := P) (post k (ours k)) henabled s
    rw [hhandle] at hdispatched
    have hjobs : ((y.connection ours k).jobs ++ (Common.runs (l.did ours k)).map Prod.fst).Perm
        ((x.connection ours k).jobs ++ enqueues (l.did ours k)) := hdispatched.jobs
    have hcount := hjobs.count_eq job
    rw [List.count_append, List.count_append] at hcount
    omega
  · rw [hsame]
    exact Nat.le_add_right _ _

/-- What a step performs on one of the server's connections. -/
theorem Step.runs (h : Step P post ours servlets x l y) (k : κ) :
    runs (l.did ours k) = match l.step with
      | none => []
      | some (k', step) =>
        if k' = k ∧ step.side = ours k then step.event.performed else [] := by
  rw [ServerLabel.did]
  cases hl : l.step with
  | none => rfl
  | some step =>
    dsimp only
    split
    case isFalse => rfl
    case isTrue hours =>
      obtain ⟨rfl, -⟩ := hours
      rcases h.link step.1 with ⟨step', hstep', hstep⟩ | ⟨hnone, -⟩
      · obtain rfl := congrArg Prod.snd (Option.some.inj (hl.symm.trans hstep'))
        have hruns := InterserverConnection.runs_handle P (post step.1 step.2.side)
          ((x.links step.1).ends step.2.side) step.2.event (x.links step.1).surroundings
        rwa [hstep.handle] at hruns
      · exact absurd hl (hnone step.2)

theorem mem_settled_onLink {side : Side} {event : Event} {next : κ} {promise : PromiseId}
    {result : Except Exception InterserverResponse}
    (h : ((next, promise), result) ∈ (x.onLink P post ours k side event).2.settled) :
    ((next, promise), result) ∈ x.settled ∨ next = k ∧ side = ours k ∧
      .settled promise result ∈ (x.onLink P post ours k side event).1.effects := by
  by_cases hside : side = ours k
  · have hsettled : (x.onLink P post ours k side event).2.settled = x.settled ++
        (settles (x.onLink P post ours k side event).1.effects).map fun e => ((k, e.1), e.2) :=
      if_pos hside
    rw [hsettled] at h
    rcases List.mem_append.mp h with hold | hnew
    · exact .inl hold
    · obtain ⟨e, he, heq⟩ := List.mem_map.mp hnew
      obtain ⟨hpair, rfl⟩ := Prod.mk.inj heq
      obtain ⟨rfl, rfl⟩ := Prod.mk.inj hpair
      obtain ⟨effect, heffect, hmap⟩ := List.mem_filterMap.mp he
      refine .inr ⟨rfl, hside, ?_⟩
      cases effect with
      | settled promise result =>
        obtain rfl := Option.some.inj hmap
        exact heffect
      | _ => cases hmap
  · have hsame : (x.onLink P post ours k side event).2.settled = x.settled := if_neg hside
    exact .inl (hsame ▸ h)

/-- A promise of the server is settled in a step of its connection. -/
theorem Step.settled (h : Step P post ours servlets x l y) {next : κ} {promise : PromiseId}
    {result : Except Exception InterserverResponse}
    (hmem : ((next, promise), result) ∈ y.settled) :
    ((next, promise), result) ∈ x.settled ∨ .settled promise result ∈ l.did ours next := by
  have honLink {k : κ} {side : Side} {event : Event}
      (hstep : l.step = some (k, (x.onLink P post ours k side event).1))
      (hmem : ((next, promise), result) ∈ (x.onLink P post ours k side event).2.settled) :
      ((next, promise), result) ∈ x.settled ∨ .settled promise result ∈ l.did ours next := by
    rcases mem_settled_onLink hmem with hold | ⟨rfl, hside, heffect⟩
    · exact .inl hold
    · rw [did_of_step hstep hside]
      exact .inr heffect
  cases h.stepped with
  | link | asked | resumed => exact honLink rfl hmem
  | threw => exact .inl hmem

/-- **What becomes of the fibers in a step**, and which jobs of theirs are performed. -/
theorem Step.fibers (h : Step P post ours servlets x l y) :
    (l.called = none ∧ y.fibers = x.fibers ∧
        ∀ k, ∀ ran ∈ Common.runs (l.did ours k), servlets ran.1.messageId = none) ∨
      (∃ fiber, l.called = some fiber ∧ y.fibers = x.fibers ++ [fiber] ∧
        x.fibers.countP (Fiber.isFor fiber.source fiber.job)
          < (x.connection ours fiber.source).jobs.count fiber.job ∧
        ∀ k, Common.runs (l.did ours k) = []) ∨
      ∃ fiber handled, l.called = none ∧ fiber ∈ x.fibers ∧ y.fibers = x.fibers.erase fiber ∧
        x.outcome ours servlets fiber = some handled ∧
        ∀ k, Common.runs (l.did ours k)
          = if fiber.source = k then [(fiber.job, .ofHandled handled)] else [] := by
  have hruns := h.runs
  cases h.stepped with
  | link k side event _ hfree =>
    refine .inl ⟨rfl, rfl, fun k' ran hran => ?_⟩
    rw [hruns k'] at hran
    dsimp only at hran
    split at hran
    case isFalse => exact absurd hran List.not_mem_nil
    case isTrue hours =>
      obtain ⟨rfl, hside⟩ := hours
      change side = ours k at hside
      change ran ∈ event.performed at hran
      cases event with
      | perform job handled =>
        obtain rfl := List.mem_singleton.mp hran
        simpa [isFree, hside] using hfree
      | _ => exact absurd hran List.not_mem_nil
  | threw hroom => exact .inr (.inl ⟨_, rfl, rfl, hroom, hruns⟩)
  | asked hroom _ _ _ hfiber =>
    subst hfiber
    exact .inr (.inl ⟨_, rfl, rfl, hroom, fun k' => (hruns k').trans (ite_self _)⟩)
  | resumed hfiber hjob houtcome =>
    refine .inr (.inr ⟨_, _, rfl, hfiber, rfl, houtcome, fun k' => (hruns k').trans ?_⟩)
    refine ite_congr (propext ⟨And.left, fun hk => ⟨hk, congrArg ours hk⟩⟩) (fun _ => rfl)
      fun _ => rfl

/-! ## What a history says of a fiber -/

/-- What a fiber threw before it sent anything, or the request it made: `ask` gave it, from what the
fiber was asked, and it went out on a connection that could be picked. -/
inductive Asked (P : Platform Φ) (ours : κ → Side) (servlets : UInt16 → Option RelayServlet)
    (x : Server κ Φ σ) (history : List (ServerLabel κ)) : Fiber κ → Prop
  | threw {source : κ} {job : RequestMessageJob} {e : Exception} (servlet : RelayServlet)
      (hservlet : servlets job.messageId = some servlet) (uuid : Except Exception Uuid)
      (huuid : ∀ u, uuid = .ok u → (x.connection ours source).getConnectionUuid = .ok u)
      (picked : Option κ)
      (hthrew : servlet.ask uuid job picked = .error e ∨
        ∃ next msg, servlet.ask uuid job picked = .ok (next, msg) ∧
          ∃ (c : InterserverConnection Φ) (thrown : Option Exception),
            (c.sendRequest P msg thrown).1 = .error e) :
      Asked P ours servlets x history ⟨source, job, .error e⟩
  | sent {source next : κ} {job : RequestMessageJob} {promise : PromiseId} (servlet : RelayServlet)
      (hservlet : servlets job.messageId = some servlet) (uuid : Except Exception Uuid)
      (huuid : ∀ u, uuid = .ok u → (x.connection ours source).getConnectionUuid = .ok u)
      (request : Request) (hask : servlet.ask uuid job (some next) = .ok (next, request.msg))
      (hpromise : request.promise = promise) (hrequest : request ∈ requests (did ours next history))
      (hvia : ours next = servlet.via) (nextUuid : Uuid)
      (hnext : (x.connection ours next).getConnectionUuid = .ok nextUuid)
      (hpicks : servlet.mayPick job nextUuid = true) :
      Asked P ours servlets x history ⟨source, job, .ok (next, promise)⟩

/-- What the response to a fiber's job was made of. -/
inductive Answered (ours : κ → Side) (servlets : UInt16 → Option RelayServlet) (x : Server κ Φ σ)
    (history : List (ServerLabel κ)) : Fiber κ → InterserverResponse → Prop
  | threw {source : κ} {job : RequestMessageJob} {e : Exception} :
      Answered ours servlets x history ⟨source, job, .error e⟩ (.ofHandled (.error e))
  | settled {source next : κ} {job : RequestMessageJob} {promise : PromiseId}
      (servlet : RelayServlet) (hservlet : servlets job.messageId = some servlet)
      (result : Except Exception InterserverResponse)
      (hsettled : .settled promise result ∈ did ours next history) (nextUuid : Uuid)
      (hnext : (x.connection ours next).getConnectionUuid = .ok nextUuid) :
      Answered ours servlets x history ⟨source, job, .ok (next, promise)⟩
        (.ofHandled (servlet.resp.handled (servlet.answer (.ok nextUuid) result)))

theorem Asked.step {fiber : Fiber κ} (h : Asked P ours servlets x history fiber)
    (hstep : Step P post ours servlets x l y) :
    Asked P ours servlets y (history ++ [l]) fiber := by
  cases h with
  | threw servlet hservlet uuid huuid picked hthrew =>
    exact .threw servlet hservlet uuid (fun u hu => hstep.getConnectionUuid (huuid u hu)) picked
      hthrew
  | sent servlet hservlet uuid huuid request hask hpromise hrequest hvia nextUuid hnext hpicks =>
    refine .sent servlet hservlet uuid (fun u hu => hstep.getConnectionUuid (huuid u hu)) request
      hask hpromise ?_ hvia nextUuid (hstep.getConnectionUuid hnext) hpicks
    rw [did_concat, requests, List.filterMap_append]
    exact List.mem_append_left _ hrequest

theorem Answered.step {fiber : Fiber κ} {resp : InterserverResponse}
    (h : Answered ours servlets x history fiber resp)
    (hstep : Step P post ours servlets x l y) :
    Answered ours servlets y (history ++ [l]) fiber resp := by
  cases h with
  | threw => exact .threw
  | settled servlet hservlet result hsettled nextUuid hnext =>
    exact .settled servlet hservlet result (mem_did_concat hsettled) nextUuid
      (hstep.getConnectionUuid hnext)

theorem connectionUuid_of_isSet {c : InterserverConnection Φ}
    (hset : c.isConnectionUuidSet = true) : c.getConnectionUuid = .ok c.connectionUuid :=
  if_pos hset

/-- **A servlet that is called** is asked by the job at hand, and waits for a promise made just
now. -/
theorem Step.called (h : Step P post ours servlets x l y) {fiber : Fiber κ}
    (hcalled : l.called = some fiber) :
    Asked P ours servlets y (history ++ [l]) fiber ∧
      ∀ next promise, fiber.promise? = some (next, promise) →
        promise = (x.connection ours next).promises.made := by
  have hstepped := h.stepped
  cases hstepped with
  | link | resumed => cases hcalled
  | threw hroom hservlet hask =>
    obtain rfl := Option.some.inj hcalled
    refine ⟨.threw _ hservlet _ (fun u hu => h.getConnectionUuid hu) _ (.inl hask), ?_⟩
    intro next promise hpromise
    cases hpromise
  | @asked k job picked thrown servlet next msg called hroom hservlet hask hpicks hfiber =>
    obtain rfl := Option.some.inj hcalled
    cases hsent : ((x.connection ours next).sendRequest P msg thrown).1 with
    | error e =>
      rw [hsent] at hfiber
      subst hfiber
      refine ⟨.threw _ hservlet _ (fun u hu => h.getConnectionUuid hu) _
        (.inr ⟨_, _, hask, _, _, hsent⟩), ?_⟩
      intro next promise hpromise
      cases hpromise
    | ok done =>
      rw [hsent] at hfiber
      subst hfiber
      obtain ⟨req, nextReq, -, hpicked, -⟩ := RelayServlet.ask_eq_ok_iff.mp hask
      obtain ⟨hvia, hset, hmay⟩ := hpicks next hpicked
      have heffects := InterserverConnection.requested_of_sendRequest P hsent
      refine ⟨.sent servlet hservlet _ (fun u hu => h.getConnectionUuid hu)
        ⟨(x.connection ours next).promises.serial, (x.connection ours next).promises.made, msg⟩
        (hpicked ▸ hask) rfl ?_ hvia _
        (h.getConnectionUuid (connectionUuid_of_isSet hset)) hmay, ?_⟩
      · have hdid {l : ServerLabel κ} (hl : l.step = some (next,
            (x.onLink P post ours next (ours next) (.sendRequest msg thrown)).1)) :
            l.did ours next = [.requested _ _ msg] := (did_of_step hl rfl).trans heffects
        rw [did_concat, hdid rfl, requests, List.filterMap_append]
        exact List.mem_append_right _ (List.mem_singleton_self _)
      · intro next' promise hpromise
        obtain ⟨rfl, rfl⟩ := Prod.mk.inj (Option.some.inj hpromise)
        rfl

/-- **What a history and the state it ends in have in common.** -/
structure RelayInv (P : Platform Φ) (ours : κ → Side) (servlets : UInt16 → Option RelayServlet)
    (history : List (ServerLabel κ)) (x : Server κ Φ σ) : Prop where
  accounted : ∀ k, (x.links k).AllAccounted P (historyOf k history)
  settled : ∀ next promise result, ((next, promise), result) ∈ x.settled →
    .settled promise result ∈ did ours next history
  fibers : ∀ fiber ∈ x.fibers, fiber ∈ called history
  asked : ∀ fiber ∈ called history, Asked P ours servlets x history fiber
  /-- No two fibers wait for one promise. -/
  apart : ((called history).filterMap Fiber.promise?).Nodup
  /-- A fiber that was called is there, or its job was performed. -/
  balance : ∀ k job, (servlets job.messageId).isSome = true →
    (called history).countP (Fiber.isFor k job)
      = x.fibers.countP (Fiber.isFor k job) + ((runs (did ours k history)).map Prod.fst).count job
  room : ∀ k job, (servlets job.messageId).isSome = true →
    x.fibers.countP (Fiber.isFor k job) ≤ (x.connection ours k).jobs.count job
  answered : ∀ k job resp, (job, resp) ∈ runs (did ours k history) →
    (servlets job.messageId).isSome = true →
      ∃ fiber ∈ called history, fiber.source = k ∧ fiber.job = job ∧
        Answered ours servlets x history fiber resp

omit [DecidableEq κ] in
theorem called_concat (history : List (ServerLabel κ)) (l : ServerLabel κ) :
    Foyer.called (history ++ [l]) = Foyer.called history ++ l.called.toList := by
  rw [Foyer.called, List.filterMap_append]
  refine congrArg (Foyer.called history ++ ·) ?_
  cases hcalled : l.called <;> simp [hcalled]

/-- The response to a fiber that goes on. -/
theorem Asked.answered {fiber : Fiber κ} {handled : Except Exception InterserverResponse}
    (h : Asked P ours servlets x history fiber)
    (houtcome : x.outcome ours servlets fiber = some handled)
    (hsettled : ∀ next promise result, ((next, promise), result) ∈ x.settled →
      .settled promise result ∈ did ours next history) :
    Answered ours servlets x history fiber (.ofHandled handled) := by
  cases h with
  | threw servlet hservlet =>
    simp only [outcome, hservlet] at houtcome
    obtain rfl := Option.some.inj houtcome
    exact .threw
  | @sent source next job promise servlet hservlet uuid huuid request hask hpromise hrequest
      hvia nextUuid hnext hpicks =>
    simp only [outcome, hservlet, hnext] at houtcome
    obtain ⟨result, hlookup, rfl⟩ := Option.map_eq_some_iff.mp houtcome
    obtain ⟨before, after, hmem, -⟩ := List.lookup_eq_some_iff.mp hlookup
    refine .settled servlet hservlet result (hsettled next promise result ?_) nextUuid hnext
    rw [hmem]
    exact List.mem_append_right _ List.mem_cons_self

/-- Jobs that are performed freely are none of the fibers'. -/
theorem count_of_free {ran : List (RequestMessageJob × InterserverResponse)}
    (hfree : ∀ r ∈ ran, servlets r.1.messageId = none) {job : RequestMessageJob}
    (hservlet : (servlets job.messageId).isSome = true) : (ran.map Prod.fst).count job = 0 := by
  refine List.count_eq_zero_of_not_mem fun hjob => ?_
  obtain ⟨r, hr, rfl⟩ := List.mem_map.mp hjob
  rw [hfree r hr] at hservlet
  cases hservlet

theorem isFor_iff {fiber : Fiber κ} {job : RequestMessageJob} :
    Fiber.isFor k job fiber = true ↔ fiber.source = k ∧ fiber.job = job := by
  rw [Fiber.isFor, decide_eq_true_eq]

namespace RelayInv

theorem start {applicationKey : κ → Bytes} (hx : x.Started P applicationKey) :
    RelayInv P ours servlets [] x where
  accounted k := (hx.links k).allAccounted
  settled next promise result hmem := by
    rw [hx.settled] at hmem
    exact absurd hmem List.not_mem_nil
  fibers fiber hmem := by
    rw [hx.fibers] at hmem
    exact absurd hmem List.not_mem_nil
  asked _ hmem := absurd hmem List.not_mem_nil
  apart := List.nodup_nil
  balance k job _ := by rw [hx.fibers]; rfl
  room k job _ := by rw [hx.fibers]; exact Nat.zero_le _
  answered _ _ _ hmem _ := absurd hmem List.not_mem_nil

variable (h : RelayInv P ours servlets history x)

include h

/-- A promise that a fiber waits for was made by then. -/
theorem promise_lt {fiber : Fiber κ} (hfiber : fiber ∈ Foyer.called history) {next : κ}
    {promise : PromiseId} (hpromise : fiber.promise? = some (next, promise)) :
    promise < (x.connection ours next).promises.made := by
  cases h.asked fiber hfiber with
  | threw => cases hpromise
  | sent servlet hservlet uuid huuid request hask hrequestpromise hrequest =>
    obtain ⟨rfl, rfl⟩ := Prod.mk.inj (Option.some.inj hpromise)
    rw [← hrequestpromise]
    exact ((h.accounted _ (ours _)).requested request hrequest).2

theorem step_apart (hstep : Step P post ours servlets x l y) :
    ((Foyer.called (history ++ [l])).filterMap Fiber.promise?).Nodup := by
  rw [called_concat, List.filterMap_append]
  cases hcalled : l.called with
  | none => simpa using h.apart
  | some fiber =>
    obtain ⟨-, hfresh⟩ : Asked P ours servlets y (history ++ [l]) fiber ∧ _ := hstep.called hcalled
    cases hpromise : fiber.promise? with
    | none => simpa [hpromise] using h.apart
    | some awaited =>
      rw [show (some fiber).toList.filterMap Fiber.promise? = [awaited] by simp [hpromise],
        List.nodup_append]
      refine ⟨h.apart, List.nodup_singleton _, ?_⟩
      rintro old hold new hnew rfl
      obtain rfl := List.mem_singleton.mp hnew
      obtain ⟨other, hother, hsame⟩ := List.mem_filterMap.mp hold
      have hlt := h.promise_lt hother hsame
      rw [hfresh _ _ hpromise] at hlt
      exact lt_irrefl _ hlt

theorem step_balance (hstep : Step P post ours servlets x l y) (k : κ) (job : RequestMessageJob)
    (hservlet : (servlets job.messageId).isSome = true) :
    (Foyer.called (history ++ [l])).countP (Fiber.isFor k job)
      = y.fibers.countP (Fiber.isFor k job)
        + ((Common.runs (did ours k (history ++ [l]))).map Prod.fst).count job := by
  have hold := h.balance k job hservlet
  rw [called_concat, List.countP_append, did_concat, Common.runs, List.filterMap_append,
    List.map_append, List.count_append]
  rcases hstep.fibers with ⟨hcalled, hfibers, hfree⟩ | ⟨fiber, hcalled, hfibers, -, hnone⟩ |
    ⟨fiber, handled, hcalled, hmem, hfibers, -, hran⟩
  · have hnone := count_of_free (hfree k) hservlet
    rw [Common.runs] at hnone hold
    rw [hcalled, hfibers, hnone, hold]
    rfl
  · have hnone := hnone k
    rw [Common.runs] at hnone hold
    rw [hcalled, hfibers, hnone, hold, List.countP_append]
    simp only [Option.toList_some, List.map_nil, List.count_nil]
    omega
  · have hran := hran k
    rw [Common.runs] at hran hold
    have hpos : Fiber.isFor k job fiber = true → 0 < x.fibers.countP (Fiber.isFor k job) :=
      fun hfor => List.countP_pos_iff.mpr ⟨fiber, hmem, hfor⟩
    rw [hcalled, hfibers, hran, hold, List.countP_erase]
    by_cases hsource : fiber.source = k
    · by_cases hjob : fiber.job = job
      · have hpos := hpos (isFor_iff.mpr ⟨hsource, hjob⟩)
        simp [hsource, hjob, hmem, isFor_iff]
        omega
      · simp [hsource, hjob, isFor_iff]
    · simp [hsource, isFor_iff]

theorem step_room (hstep : Step P post ours servlets x l y) (k : κ) (job : RequestMessageJob)
    (hservlet : (servlets job.messageId).isSome = true) :
    y.fibers.countP (Fiber.isFor k job) ≤ (y.connection ours k).jobs.count job := by
  have hold := h.room k job hservlet
  have hjobs := hstep.count_jobs_le k job
  rcases hstep.fibers with ⟨-, hfibers, hfree⟩ | ⟨fiber, -, hfibers, hroom, hnone⟩ |
    ⟨fiber, handled, -, hmem, hfibers, -, hran⟩
  · rw [count_of_free (hfree k) hservlet] at hjobs
    rw [hfibers]
    omega
  · rw [hnone k] at hjobs
    rw [hfibers, List.countP_append]
    by_cases hfor : Fiber.isFor k job fiber = true
    · obtain ⟨rfl, rfl⟩ := isFor_iff.mp hfor
      rw [List.countP_singleton, if_pos hfor]
      exact hroom.trans_le hjobs
    · rw [List.countP_singleton, if_neg hfor]
      exact hold.trans hjobs
  · rw [hran k] at hjobs
    rw [hfibers, List.countP_erase]
    by_cases hfor : Fiber.isFor k job fiber = true
    · obtain ⟨rfl, rfl⟩ := isFor_iff.mp hfor
      simp [hfor, hmem] at hjobs ⊢
      omega
    · have hzero : (((if fiber.source = k then [(fiber.job, InterserverResponse.ofHandled handled)]
          else []).map Prod.fst).count job) = 0 := by
        split
        case isTrue hsource =>
          refine List.count_eq_zero_of_not_mem fun hjob => hfor (isFor_iff.mpr ⟨hsource, ?_⟩)
          exact (List.mem_singleton.mp hjob).symm
        case isFalse => rfl
      rw [hzero] at hjobs
      exact (Nat.sub_le _ _).trans (hold.trans hjobs)

/-- **One step keeps it.** -/
theorem step (hstep : Step P post ours servlets x l y) :
    RelayInv P ours servlets (history ++ [l]) y where
  accounted k := by
    rcases hstep.link k with ⟨step, hl, hlink⟩ | ⟨hnone, hlink⟩
    · rw [historyOf_concat_of_eq hl]
      exact (h.accounted k).step hlink
    · rw [historyOf_concat_of_ne hnone, hlink]
      exact h.accounted k
  settled next promise result hmem := by
    rcases hstep.settled hmem with hold | hnew
    · exact mem_did_concat (h.settled next promise result hold)
    · rw [did_concat]
      exact List.mem_append_right _ hnew
  fibers fiber hmem := by
    rw [called_concat, List.mem_append]
    rcases hstep.fibers with ⟨-, hfibers, -⟩ | ⟨fiber', hcalled, hfibers, -⟩ |
      ⟨fiber', handled, -, -, hfibers, -⟩
    · exact .inl (h.fibers fiber (hfibers ▸ hmem))
    · rw [hfibers] at hmem
      rcases List.mem_append.mp hmem with hold | hnew
      · exact .inl (h.fibers fiber hold)
      · rw [hcalled]
        exact .inr hnew
    · exact .inl (h.fibers fiber (List.mem_of_mem_erase (hfibers ▸ hmem)))
  asked fiber hmem := by
    rw [called_concat] at hmem
    rcases List.mem_append.mp hmem with hold | hnew
    · exact (h.asked fiber hold).step hstep
    · exact (hstep.called (Option.mem_toList.mp hnew)).1
  apart := h.step_apart hstep
  balance := h.step_balance hstep
  room := h.step_room hstep
  answered k job resp hmem hservlet := by
    rw [did_concat, Common.runs, List.filterMap_append] at hmem
    rcases List.mem_append.mp hmem with hold | hnew
    · obtain ⟨fiber, hfiber, hsource, hjob, hanswered⟩ := h.answered k job resp hold hservlet
      refine ⟨fiber, ?_, hsource, hjob, hanswered.step hstep⟩
      rw [called_concat]
      exact List.mem_append_left _ hfiber
    · change (job, resp) ∈ Common.runs (l.did ours k) at hnew
      rcases hstep.fibers with ⟨-, -, hfree⟩ | ⟨fiber, -, -, -, hnone⟩ |
        ⟨fiber, handled, hcalled, hfiber, -, houtcome, hran⟩
      · rw [hfree k _ hnew] at hservlet
        cases hservlet
      · rw [hnone k] at hnew
        exact absurd hnew List.not_mem_nil
      · rw [hran k] at hnew
        split at hnew
        case isFalse => exact absurd hnew List.not_mem_nil
        case isTrue hsource =>
          obtain ⟨rfl, rfl⟩ := Prod.mk.inj (List.mem_singleton.mp hnew)
          have hmem := h.fibers fiber hfiber
          refine ⟨fiber, ?_, hsource, rfl,
            ((h.asked fiber hmem).answered houtcome h.settled).step hstep⟩
          rw [called_concat]
          exact List.mem_append_left _ hmem

end RelayInv

/-! ## Whole runs -/

theorem relayInv_of_run {applicationKey : κ → Bytes} (hx : x.Started P applicationKey)
    (hrun : Lts.Run (Step P post ours servlets) x history y) :
    RelayInv P ours servlets history y :=
  hrun.historyInvariant (J := fun history y => RelayInv P ours servlets history y)
    RelayInv.step (.start hx)

/-- The request that a servlet made for a job, and the connection it went out on. -/
structure Sends (ours : κ → Side) (servlet : RelayServlet) (y : Server κ Φ σ)
    (history : List (ServerLabel κ)) (k : κ) (job : RequestMessageJob) (next : κ)
    (request : Request) (nextUuid : Uuid) : Prop where
  called : ⟨k, job, .ok (next, request.promise)⟩ ∈ Foyer.called history
  ask : ∃ uuid : Except Exception Uuid,
    (∀ u, uuid = .ok u → (y.connection ours k).getConnectionUuid = .ok u) ∧
      servlet.ask uuid job (some next) = .ok (next, request.msg)
  request : request ∈ requests (did ours next history)
  via : ours next = servlet.via
  next : (y.connection ours next).getConnectionUuid = .ok nextUuid
  picks : servlet.mayPick job nextUuid = true

/-- **What a job comes to**: what its servlet threw when it was called, before it sent anything; or
the loss of the connection it asked; or the answer it made of the one response to the one request
it sent. -/
inductive Passed (P : Platform Φ) (ours : κ → Side) (servlet : RelayServlet) (y : Server κ Φ σ)
    (history : List (ServerLabel κ)) (k : κ) (job : RequestMessageJob) :
    Except Exception servlet.Resp → Prop
  | threw {e : Exception} (hcalled : ⟨k, job, .error e⟩ ∈ Foyer.called history)
      (uuid : Except Exception Uuid)
      (huuid : ∀ u, uuid = .ok u → (y.connection ours k).getConnectionUuid = .ok u)
      (picked : Option κ)
      (hthrew : servlet.ask uuid job picked = .error e ∨
        ∃ next msg, servlet.ask uuid job picked = .ok (next, msg) ∧
          ∃ (c : InterserverConnection Φ) (thrown : Option Exception),
            (c.sendRequest P msg thrown).1 = .error e) :
      Passed P ours servlet y history k job (.error e)
  | lost {next : κ} {request : Request} {nextUuid : Uuid}
      (hsends : y.Sends ours servlet history k job next request nextUuid) :
      Passed P ours servlet y history k job (.error InterserverConnection.connectionLost)
  | answered {next : κ} {request : Request} {nextUuid : Uuid}
      (hsends : y.Sends ours servlet history k job next request nextUuid)
      (resp : InterserverResponse)
      (hran : (request.job, resp) ∈ Common.runs
        (effectsOf (ours next).peer (historyOf next history)))
      (honce : ((Common.runs (effectsOf (ours next).peer (historyOf next history))).map
        Prod.fst).count request.job = 1) :
      Passed P ours servlet y history k job (servlet.answer (.ok nextUuid) (.ok resp.told))

section Runs

variable {applicationKey : κ → Bytes} {InStep : Φ → Φ → Prop}

/-- What a fiber that returned was answered came of its own request. -/
theorem Answered.passed (hkeeps : P.filter.KeepsInStep InStep) (hx : x.Started P applicationKey)
    (hrun : Lts.Run (Step P post ours servlets) x history y)
    (hfew : ∀ next, (y.connection ours next).promises.made < 2 ^ 64) {fiber : Fiber κ}
    {resp : InterserverResponse} (hfiber : fiber ∈ Foyer.called history)
    (h : Answered ours servlets y history fiber resp) {servlet : RelayServlet}
    (hservlet : servlets fiber.job.messageId = some servlet) :
    ∃ outcome, Passed P ours servlet y history fiber.source fiber.job outcome ∧
      resp = .ofHandled (servlet.resp.handled outcome) := by
  have hinv := relayInv_of_run hx hrun
  have hasked := hinv.asked fiber hfiber
  cases h with
  | threw =>
    cases hasked with
    | threw servlet' hservlet' uuid huuid picked hthrew =>
      obtain rfl := Option.some.inj (hservlet'.symm.trans hservlet)
      exact ⟨_, .threw hfiber uuid huuid picked hthrew, rfl⟩
  | @settled source next job promise servlet' hservlet' result hsettled nextUuid hnext =>
    obtain rfl := Option.some.inj (hservlet'.symm.trans hservlet)
    cases hasked with
    | sent servlet'' hservlet'' uuid huuid request hask hpromise hrequest hvia nextUuid' hnext'
        hpicks =>
      obtain rfl := Option.some.inj (hservlet''.symm.trans hservlet)
      obtain rfl := Except.ok.inj (hnext'.symm.trans hnext)
      subst hpromise
      have hsends : y.Sends ours servlet'' history source job next request nextUuid' :=
        ⟨hfiber, ⟨uuid, huuid, hask⟩, hrequest, hvia, hnext', hpicks⟩
      cases result with
      | error e =>
        obtain rfl := Duplex.lost_of_run (historyOf_run hrun next) hsettled
        exact ⟨_, .lost hsends, rfl⟩
      | ok value =>
        obtain ⟨request', hrequest', hsame, resp, hran, rfl⟩ :=
          Duplex.told_of_run hkeeps (hx.links next) (historyOf_run hrun next) (hfew next) hsettled
        obtain rfl := (hinv.accounted next (ours next)).request_unique hrequest' hrequest hsame
        refine ⟨_, .answered hsends resp hran ?_, rfl⟩
        have hnodup := (((hx.links next).run (historyOf_run hrun next) (h := hkeeps)).2
          (ours next)).nodup_runs (hinv.accounted next) (hfew next)
        rw [← List.count_filter (p := RequestMessageJob.sendResponse) rfl]
        exact List.count_eq_one_of_mem hnodup
          (List.mem_filter.mpr ⟨List.mem_map.mpr ⟨_, hran, rfl⟩, rfl⟩)

/-- A request that a peer makes is passed on once at most. -/
theorem countP_called_le_one (hkeeps : P.filter.KeepsInStep InStep)
    (hx : x.Started P applicationKey) (hrun : Lts.Run (Step P post ours servlets) x history y)
    {k : κ} (hfew : ((y.links k).ends (ours k).peer).promises.made < 2 ^ 64) (request : Request)
    (hservlet : (servlets request.job.messageId).isSome = true) :
    (Foyer.called history).countP (Fiber.isFor k request.job) ≤ 1 := by
  have hinv := relayInv_of_run hx hrun
  have honce := Duplex.count_enqueues_le_one hkeeps (hx.links k) (historyOf_run hrun k) hfew request
  rw [Side.peer_peer] at honce
  have hjobs := (hinv.accounted k (ours k)).jobs.count_eq request.job
  rw [List.count_append] at hjobs
  -- Each call is a fiber whose job is still there, or a job that was performed.
  calc (Foyer.called history).countP (Fiber.isFor k request.job)
      = y.fibers.countP (Fiber.isFor k request.job)
          + ((Common.runs (did ours k history)).map Prod.fst).count request.job :=
        hinv.balance k request.job hservlet
    _ ≤ (y.connection ours k).jobs.count request.job
          + ((Common.runs (did ours k history)).map Prod.fst).count request.job :=
        Nat.add_le_add_right (hinv.room k request.job hservlet) _
    _ = (enqueues (effectsOf (ours k) (historyOf k history))).count request.job := hjobs
    _ ≤ 1 := honce

/-- A promise of a peer that was told something was told what its request came to. -/
theorem passed_of_told (hkeeps : P.filter.KeepsInStep InStep) (hx : x.Started P applicationKey)
    (hrun : Lts.Run (Step P post ours servlets) x history y)
    (hfew : ∀ k side, ((y.links k).ends side).promises.made < 2 ^ 64) {k : κ} {request : Request}
    (hrequest : request ∈ requests (effectsOf (ours k).peer (historyOf k history)))
    {servlet : RelayServlet} (hservlet : servlets request.job.messageId = some servlet)
    {value : InterserverResponse}
    (htold : .settled request.promise (.ok value)
      ∈ effectsOf (ours k).peer (historyOf k history)) :
    ∃ outcome, Passed P ours servlet y history k request.job outcome ∧
      servlet.resp.waitForResponse (.ok value) = rethrown outcome := by
  have hinv := relayInv_of_run hx hrun
  have hsome : (servlets request.job.messageId).isSome = true :=
    Option.isSome_iff_exists.mpr ⟨servlet, hservlet⟩
  -- The promise was told what the servlet did with this very job.
  obtain ⟨request', hrequest', hsame, resp, hran, rfl⟩ :=
    Duplex.told_of_run hkeeps (hx.links k) (historyOf_run hrun k) (hfew k _) htold
  obtain rfl := (hinv.accounted k _).request_unique hrequest' hrequest hsame
  rw [Side.peer_peer] at hran
  obtain ⟨fiber, hfiber, rfl, hjob, hanswered⟩ := hinv.answered k _ resp hran hsome
  obtain ⟨outcome, hpassed, rfl⟩ := hanswered.passed hkeeps hx hrun (fun next => hfew next _) hfiber
    (hjob ▸ hservlet)
  rw [hjob] at hpassed
  exact ⟨outcome, hpassed, servlet.resp.waitForResponse_told outcome⟩

end Runs

/-- **The response to a request is made of the response to its own.**  In every run, whatever
happens on the connections and in whatever order the servlets go on: no two servlets wait for one
promise; a request of a peer is passed on once at most; and if its promise is told something, that
is what its servlet threw in that one call, or the loss of the connection it asked, or the answer it
made of the one response to the one request it sent (`Passed`). -/
theorem relays_own_response (aes : AesEncrypt) (z : Zlib) (P : Platform MessageFilter)
    (post : κ → Side → Uuid → σ → Except Exception Unit × σ) (ours : κ → Side)
    (servlets : UInt16 → Option RelayServlet) {applicationKey : κ → Bytes}
    {x y : Server κ MessageFilter σ} (hx : x.Started (P.withFilter aes z) applicationKey)
    {history : List (ServerLabel κ)}
    (hrun : Lts.Run (Step (P.withFilter aes z) post ours servlets) x history y)
    (hfew : ∀ k side, ((y.links k).ends side).promises.made < 2 ^ 64) :
    ((Foyer.called history).filterMap Fiber.promise?).Nodup ∧
      ∀ k, ∀ request ∈ requests (effectsOf (ours k).peer (historyOf k history)),
        ∀ servlet, servlets request.job.messageId = some servlet →
          (Foyer.called history).countP (Fiber.isFor k request.job) ≤ 1 ∧
            ∀ value, .settled request.promise (.ok value)
                ∈ effectsOf (ours k).peer (historyOf k history) →
              ∃ outcome,
                Passed (P.withFilter aes z) ours servlet y history k request.job outcome ∧
                  servlet.resp.waitForResponse (.ok value) = rethrown outcome := by
  have hkeeps : (P.withFilter aes z).filter.KeepsInStep (MessageFilter.InStep z) :=
    MessageFilter.keepsInStep aes z
  refine ⟨(relayInv_of_run hx hrun).apart, fun k request hrequest servlet hservlet => ⟨?_, ?_⟩⟩
  · exact countP_called_le_one hkeeps hx hrun (hfew k _) request
      (Option.isSome_iff_exists.mpr ⟨servlet, hservlet⟩)
  · intro value htold
    exact passed_of_told hkeeps hx hrun hfew hrequest hservlet htold

end Server

/-! ## A run with one gate and one box -/

inductive TrialLink
  | gate
  | box
deriving DecidableEq

def TrialLink.side : TrialLink → Side
  | .gate => .server
  | .box => .client

def trialVerb : Codec Exception Verb :=
  (Codec.nat endOfStream).ofEquiv
    (fun
      | .options => 0
      | .get => 1
      | .put => 2
      | .delete => 3
      | .head => 4
      | .post => 5
      | .other n => n + 6)
    (fun
      | 0 => .options
      | 1 => .get
      | 2 => .put
      | 3 => .delete
      | 4 => .head
      | 5 => .post
      | n + 6 => .other n)
    fun verb => by cases verb <;> rfl

def trialFrames : Codec Exception (List CommonWebsocketFrame) :=
  ((vintField.prod bytesField).ofEquiv (fun f => (f.opcode, f.payload)) (fun x => ⟨x.1, x.2⟩)
    fun _ => rfl).list endOfStream

/-- One field after the other. -/
def trialFormat {α : Type} (fields : Codec Exception α) : MessageFormat α :=
  ⟨fields.serialize, fields.deserialize, fields.deserialize_serialize_self⟩

/-- A `FIELD_FLEXIBLE` takes what is left behind the other fields. -/
def trialFlexible {α β : Type} (fields : Codec Exception β) (f : α → β × Bytes) (g : β × Bytes → α)
    (h : ∀ a, g (f a) = a) : MessageFormat α where
  serialize a := fields.serialize (f a).1 ++ (f a).2
  deserialize bytes := (fields.deserialize bytes).map fun x => (g x, [])
  deserialize_serialize a := by
    rw [Codec.deserialize_serialize]
    exact congrArg (fun a => Except.ok (a, [])) (h a)

def trialEmpty : MessageFormat Unit := ⟨fun _ => [], fun bytes => .ok ((), bytes), fun _ => rfl⟩

def trialFields : Fields where
  ofHttpRequestToBox := trialFlexible
    (uuidField.prod (bytesField.prod (bytesField.prod (trialVerb.prod (bytesField.prod
      (optionsField.prod optionsField))))))
    (fun m => ((m.clientUuid, m.clientIp, m.authToken, m.verb, m.decodedUri, m.params, m.headers),
      m.entity))
    (fun x => ⟨x.1.1, x.1.2.1, x.1.2.2.1, x.1.2.2.2.1, x.1.2.2.2.2.1, x.1.2.2.2.2.2.1,
      x.1.2.2.2.2.2.2, x.2⟩)
    fun _ => rfl
  ofHttpResponseFromBox := trialFlexible (uuidField.prod (vintField.prod optionsField))
    (fun m => ((m.boxUuid, m.statusCode, m.headers), m.entity))
    (fun x => ⟨⟨x.1.2.1, x.1.2.2, x.2⟩, x.1.1⟩) fun _ => rfl
  ofWebsocketEstablishmentRequestToBox := trialFormat <|
    (uuidField.prod (bytesField.prod (bytesField.prod (bytesField.prod optionsField)))).ofEquiv
      (fun m => (m.clientUuid, m.clientIp, m.authToken, m.decodedUri, m.params))
      (fun x => ⟨x.1, x.2.1, x.2.2.1, x.2.2.2.1, x.2.2.2.2⟩) fun _ => rfl
  ofWebsocketEstablishmentResponseFromBox := trialFormat uuidField
  ofWebsocketPackedMessageRequestToBox := trialFormat <|
    (uuidField.prod (uuidField.prod trialFrames)).ofEquiv
      (fun m => (m.boxUuid, m.clientUuid, m.messages)) (fun x => ⟨x.1, x.2.1, x.2.2⟩) fun _ => rfl
  ofWebsocketPackedMessageResponseFromBox := trialEmpty
  ofWebsocketPackedMessageRequestToGate := trialFormat <|
    (uuidField.prod (uuidField.prod trialFrames)).ofEquiv
      (fun m => (m.gateUuid, m.clientUuid, m.messages)) (fun x => ⟨x.1, x.2.1, x.2.2⟩) fun _ => rfl
  ofWebsocketPackedMessageResponseFromGate := trialEmpty
  ofBoxHttpRequest := trialFlexible
    (uuidField.prod (uuidField.prod (bytesField.prod (bytesField.prod (trialVerb.prod
      (bytesField.prod (optionsField.prod optionsField)))))))
    (fun m => ((m.gateUuid, m.clientUuid, m.clientIp, m.authToken, m.verb, m.decodedUri, m.params,
      m.headers), m.entity))
    (fun x => ⟨⟨x.1.2.1, x.1.2.2.1, x.1.2.2.2.1, x.1.2.2.2.2.1, x.1.2.2.2.2.2.1,
      x.1.2.2.2.2.2.2.1, x.1.2.2.2.2.2.2.2, x.2⟩, x.1.1⟩)
    fun _ => rfl
  ofBoxHttpResponse := trialFlexible (vintField.prod optionsField)
    (fun m => ((m.statusCode, m.headers), m.entity)) (fun x => ⟨x.1.1, x.1.2, x.2⟩) fun _ => rfl
  ofBoxWebsocketEstablishmentRequest := trialFormat <|
    (uuidField.prod (uuidField.prod (bytesField.prod (bytesField.prod (bytesField.prod
      optionsField))))).ofEquiv
      (fun m => (m.gateUuid, m.clientUuid, m.clientIp, m.authToken, m.decodedUri, m.params))
      (fun x => ⟨x.1, x.2.1, x.2.2.1, x.2.2.2.1, x.2.2.2.2.1, x.2.2.2.2.2⟩) fun _ => rfl
  ofBoxWebsocketEstablishmentResponse := trialEmpty
  ofBoxWebsocketPackedMessageRequest := trialFormat <|
    (uuidField.prod (uuidField.prod trialFrames)).ofEquiv
      (fun m => (m.gateUuid, m.clientUuid, m.messages)) (fun x => ⟨x.1, x.2.1, x.2.2⟩) fun _ => rfl
  ofBoxWebsocketPackedMessageResponse := trialEmpty
  ofGateWebsocketPackedMessageRequest := trialFormat <|
    (uuidField.prod trialFrames).ofEquiv (fun m => (m.clientUuid, m.messages))
      (fun x => ⟨x.1, x.2⟩) fun _ => rfl
  ofGateWebsocketPackedMessageResponse := trialEmpty

def trialBoxUuid : Uuid := 0xffeeddccbbaa99887766554433221100

/-- The box has a connection of its own, which said hello, too. -/
def trialServer : Server TrialLink MessageFilter Unit where
  links
    | .gate => trialDuplex
    | .box => { trialDuplex with
        ends := fun
          | .server => .new trialKey
          | .client => ((InterserverConnection.new trialKey).layer7ClientSayHello trialPlatform
              trialBoxUuid trialTimestamp []).2 }
  fibers := []
  settled := []

theorem trialServer_started : trialServer.Started trialPlatform fun _ => trialKey where
  links
    | .gate => trialDuplex_started
    | .box => ⟨rfl, ⟨trialBoxUuid, trialTimestamp, [], by decide, rfl⟩, fun _ => rfl⟩
  fibers := rfl
  settled := rfl

/-- The next frame arrives, or something else happens. -/
inductive TrialEvent
  | deliver (k : TrialLink) (side : Side)
  | other (event : ServerEvent TrialLink)

def TrialEvent.resolve (x : Server TrialLink MessageFilter Unit) :
    TrialEvent → ServerEvent TrialLink
  | .deliver k side =>
    let frame := ((x.links k).channels side.peer).headD (0, [])
    .link k side (.receiveData frame.1 frame.2)
  | .other event => event

def relayNext (x : Server TrialLink MessageFilter Unit) (e : TrialEvent) :
    ServerLabel TrialLink × Server TrialLink MessageFilter Unit :=
  x.next trialPlatform (fun _ => postsNothing) TrialLink.side (relayServlets trialFields)
    (e.resolve x)

def trialWork (k : TrialLink) (side : Side) : TrialEvent := .other (.link k side .work)

/-- The hellos on one connection. -/
def trialHellos (k : TrialLink) : List TrialEvent :=
  [trialWork k .client, .deliver k .server, trialWork k .server, trialWork k .server,
    .deliver k .client, trialWork k .client]

/-- A request of a peer that is passed on, performed, and answered. -/
def trialPass (k next : TrialLink) (request nextRequest : Request)
    (handled : Except Exception InterserverResponse) : List TrialEvent :=
  [.other (.link k k.side.peer (.sendRequest request.msg none)), trialWork k k.side.peer,
    .deliver k k.side, trialWork k k.side, .other (.call k request.job (some next) none),
    trialWork next next.side, .deliver next next.side.peer, trialWork next next.side.peer,
    .other (.link next next.side.peer (.perform nextRequest.job handled)),
    trialWork next next.side.peer, .deliver next next.side, trialWork next next.side,
    .other (.resume ⟨k, request.job, .ok (next, nextRequest.promise)⟩), trialWork k k.side,
    .deliver k k.side.peer, trialWork k k.side.peer]

def trialHttp : HttpRequestToBox := ⟨7, [], [], .get, [47], [], [], [3]⟩

def trialHttpRequest : Request := ⟨1, 0, trialFields.httpRequestToBox.message trialHttp⟩

def trialBoxHttpRequest : Request :=
  ⟨1, 0, trialFields.boxHttpRequest.message (httpRequest trialUuid trialHttp)⟩

def trialPacked : WebsocketPackedMessageRequestToBox := ⟨trialBoxUuid, 7, [⟨1, [104, 105]⟩]⟩

def trialPackedRequest : Request :=
  ⟨2, 1, trialFields.websocketPackedMessageRequestToBox.message trialPacked⟩

def trialBoxPackedRequest : Request :=
  ⟨2, 1, trialFields.boxWebsocketPackedMessageRequest.message
    ⟨trialUuid, trialPacked.clientUuid, trialPacked.messages⟩⟩

/-- An HTTP request and a WebSocket message for the box, one after the other. -/
def trialRelay : List TrialEvent :=
  trialHellos .gate ++ trialHellos .box ++
    trialPass .gate .box trialHttpRequest trialBoxHttpRequest
      (trialFields.boxHttpResponse.handled (.ok ⟨200, [], [9]⟩)) ++
    trialPass .gate .box trialPackedRequest trialBoxPackedRequest
      (trialFields.boxWebsocketPackedMessageResponse.handled (.ok ()))

def trialRelayHistory : List (ServerLabel TrialLink) := Lts.trace relayNext trialServer trialRelay

def trialRelayed : Server TrialLink MessageFilter Unit := Lts.final relayNext trialServer trialRelay

theorem trialRelay_run :
    Lts.Run (Server.Step trialPlatform (fun _ => postsNothing) TrialLink.side
      (relayServlets trialFields)) trialServer trialRelayHistory trialRelayed := by
  refine Lts.Run.of_admits relayNext
    (fun x e => x.Enabled TrialLink.side (relayServlets trialFields) (e.resolve x)) ?_ trialServer
    trialRelay (by decide +kernel)
  intro x e henabled
  have hevent : (relayNext x e).1.event = e.resolve x := Server.next_event x _
  rw [← hevent] at henabled
  exact ⟨henabled, by rw [hevent]; rfl, by rw [hevent]; rfl⟩

theorem trialRelayed_few (k : TrialLink) (side : Side) :
    ((trialRelayed.links k).ends side).promises.made < 2 ^ 64 := by
  have hall : ∀ k ∈ [TrialLink.gate, .box], ∀ side ∈ [Side.server, .client],
      ((trialRelayed.links k).ends side).promises.made < 2 ^ 64 := by decide +kernel
  exact hall k (by cases k <;> decide) side (by cases side <;> decide)

/-- What the gate was told. -/
def trialHttpTold : InterserverResponse :=
  .ofMessage (trialFields.httpResponseFromBox.message ⟨⟨200, [], [9]⟩, trialBoxUuid⟩)

def trialPackedTold : InterserverResponse :=
  .ofMessage (trialFields.websocketPackedMessageResponseFromBox.message ())

theorem trialRelay_requests :
    requests (effectsOf .client (historyOf .gate trialRelayHistory))
      = [trialHttpRequest, trialPackedRequest] := by decide +kernel

theorem trialRelay_told :
    .settled 0 (.ok trialHttpTold) ∈ effectsOf .client (historyOf .gate trialRelayHistory) ∧
      .settled 1 (.ok trialPackedTold) ∈ effectsOf .client (historyOf .gate trialRelayHistory) := by
  decide +kernel

theorem mem_trialRelay_requests (request : Request)
    (h : request = trialHttpRequest ∨ request = trialPackedRequest) :
    request ∈ requests (effectsOf (TrialLink.side .gate).peer
      (historyOf .gate trialRelayHistory)) := by
  refine (congrArg (request ∈ ·) trialRelay_requests).mpr ?_
  simpa using h

theorem Server.relays_own_response_trial :
    ∃ outcome, Passed trialPlatform TrialLink.side (httpRequestToBoxServlet trialFields)
        trialRelayed trialRelayHistory .gate trialHttpRequest.job outcome ∧
      trialFields.httpResponseFromBox.waitForResponse (.ok trialHttpTold) = rethrown outcome :=
  ((relays_own_response trialAes storedZlib trialPlatform (fun _ => postsNothing) TrialLink.side
    (relayServlets trialFields) trialServer_started trialRelay_run trialRelayed_few).2 .gate
    trialHttpRequest (mem_trialRelay_requests _ (.inl rfl)) _ rfl).2 _ trialRelay_told.1

end Circe.Foyer
