import Circe.Box.ShadowSessions
import Mathlib.Data.List.Count

/-!
# Box/Closure — a closure is reported once, and only for a session that was attached

Whoever erases a session from the container holds it from then on: the servlet of a closure
notification, or the tick that erased its range.  Counting the places a session can be in shows that
nobody else gets to it, whatever is interleaved (`reports_closure_once`).
-/

namespace Circe.Box

open Websocket

/-! ## The logs of a run -/

/-- The effects of a history, in order. -/
def effectsOf (history : List ShadowLabel) : List ShadowEffect :=
  history.flatMap ShadowLabel.effects

/-- The sessions attached. -/
def attachments (effects : List ShadowEffect) : List ShadowSession :=
  effects.filterMap fun
    | .attached s => some s
    | _ => none

/-- The sessions that left the container. -/
def detachments (effects : List ShadowEffect) : List ShadowSession :=
  effects.filterMap fun
    | .detached s => some s
    | _ => none

/-- The sessions `handle_websocket_closure` was called with. -/
def closures (effects : List ShadowEffect) : List ShadowSession :=
  effects.filterMap fun
    | .closed s _ _ => some s
    | _ => none

section Logs

variable {effects effects' : List ShadowEffect} {s : ShadowSession}

theorem effectsOf_concat (history : List ShadowLabel) (l : ShadowLabel) :
    effectsOf (history ++ [l]) = effectsOf history ++ l.effects := by
  simp [effectsOf]

@[simp] theorem attachments_append :
    attachments (effects ++ effects') = attachments effects ++ attachments effects' :=
  List.filterMap_append

@[simp] theorem detachments_append :
    detachments (effects ++ effects') = detachments effects ++ detachments effects' :=
  List.filterMap_append

@[simp] theorem closures_append :
    closures (effects ++ effects') = closures effects ++ closures effects' :=
  List.filterMap_append

/-- Effects that move no session. -/
structure Silent (effects : List ShadowEffect) : Prop where
  attachments : attachments effects = []
  detachments : detachments effects = []
  closures : closures effects = []

theorem silent_nil : Silent [] := ⟨rfl, rfl, rfl⟩

theorem Supervisor.ShutsOnly.silent {x : Supervisor} {shutdowns : List ShadowSession}
    (h : x.ShutsOnly effects shutdowns) : Silent effects := by
  refine ⟨?_, ?_, ?_⟩ <;>
  · refine List.filterMap_eq_nil_iff.mpr fun e he => ?_
    obtain ⟨s, statusCode, reason, rfl⟩ := h.effects e he
    rfl

theorem attachments_detached (ss : List ShadowSession) : attachments (ss.map .detached) = [] := by
  simp [attachments, List.filterMap_map]

theorem detachments_detached (ss : List ShadowSession) : detachments (ss.map .detached) = ss := by
  simp [detachments, List.filterMap_map]

theorem closures_detached (ss : List ShadowSession) : closures (ss.map .detached) = [] := by
  simp [closures, List.filterMap_map]

end Logs

/-! ## Who holds a session -/

/-- The session a job made and may still attach. -/
def Job.establishing? : Job → List ShadowSession
  | establishing s => [s]
  | _ => []

/-- The sessions a job took out of the container and has not reported. -/
def Job.held : Job → List ShadowSession
  | closing s .. => [s]
  | sweeping _ _ sessionsDetached _ => sessionsDetached
  | _ => []

/-- The session a job marked and is about to report. -/
def Job.marked : Job → List ShadowSession
  | closing s true .. => [s]
  | sweeping _ _ (s :: _) true => [s]
  | _ => []

/-- A tick that is about to check a gate, or to sweep, holds nothing. -/
theorem Job.check_cases (expired unchecked : List FoyerGate) :
    Job.check expired unchecked = .done ∨
      Job.check expired unchecked = .sweeping expired expired [] false ∨
      Job.check expired unchecked = .checking expired unchecked := by
  rw [Job.check]
  split_ifs
  · exact .inl rfl
  · exact .inr (.inl rfl)
  · exact .inr (.inr rfl)

@[simp] theorem Job.establishing?_check (expired unchecked : List FoyerGate) :
    (Job.check expired unchecked).establishing? = [] := by
  rcases Job.check_cases expired unchecked with h | h | h <;> rw [h] <;> rfl

@[simp] theorem Job.held_check (expired unchecked : List FoyerGate) :
    (Job.check expired unchecked).held = [] := by
  rcases Job.check_cases expired unchecked with h | h | h <;> rw [h] <;> rfl

@[simp] theorem Job.marked_check (expired unchecked : List FoyerGate) :
    (Job.check expired unchecked).marked = [] := by
  rcases Job.check_cases expired unchecked with h | h | h <;> rw [h] <;> rfl

variable (expired left : List FoyerGate) (sessions : List ShadowSession)

@[simp] theorem Job.establishing?_sweep : (Job.sweep expired left sessions).establishing? = [] := by
  rw [Job.sweep]
  split <;> rfl

@[simp] theorem Job.held_sweep : (Job.sweep expired left sessions).held = sessions := by
  rw [Job.sweep]
  split
  case isTrue h => exact h.2.symm
  case isFalse => rfl

@[simp] theorem Job.marked_sweep : (Job.sweep expired left sessions).marked = [] := by
  rw [Job.sweep]
  split
  · rfl
  · cases sessions <;> rfl

namespace Supervisor

/-- The sessions that may still be attached. -/
def pending (x : Supervisor) : List ShadowSession := x.jobs.flatMap Job.establishing?

/-- The sessions that left the container and are still to be reported. -/
def held (x : Supervisor) : List ShadowSession := x.jobs.flatMap Job.held

/-- A job goes on: what it had is replaced by what it has. -/
theorem count_flatMap_setJob (f : Job → List ShadowSession) {x : Supervisor} {i : ℕ} {job : Job}
    (h : x.jobs[i]? = some job) (job' : Job) (s : ShadowSession) :
    ((x.setJob i job').jobs.flatMap f).count s + (f job).count s
      = (x.jobs.flatMap f).count s + (f job').count s := by
  obtain ⟨hlt, rfl⟩ := List.getElem?_eq_some_iff.mp h
  have hbefore := ((List.getElem_cons_eraseIdx_perm hlt).flatMap_right f).count_eq s
  have hafter := ((List.set_perm_cons_eraseIdx hlt job').flatMap_right f).count_eq s
  rw [List.flatMap_cons, List.count_append] at hbefore hafter
  simp only [setJob]
  omega

theorem count_flatMap_addJob (f : Job → List ShadowSession) (x : Supervisor) (job : Job)
    (s : ShadowSession) :
    ((x.addJob job).jobs.flatMap f).count s = (x.jobs.flatMap f).count s + (f job).count s := by
  simp [addJob, List.flatMap_append]

theorem mem_jobs_setJob {x : Supervisor} {i : ℕ} {job job' : Job}
    (h : job ∈ (x.setJob i job').jobs) :
    job ∈ x.jobs ∨ job = job' :=
  List.mem_or_eq_of_mem_set h

/-! ## The invariant -/

/-- **A session is in one place**: to be attached, in the container, held by who took it out, or
reported. -/
structure OwnedOnce (effects : List ShadowEffect) (x : Supervisor) : Prop where
  fresh : ∀ s, x.objects ≤ s.object → (attachments effects).count s + x.pending.count s = 0
  once : ∀ s, (attachments effects).count s + x.pending.count s ≤ 1
  container : ∀ s, x.container.sessions.count s + (detachments effects).count s
    = (attachments effects).count s
  held : ∀ s, x.held.count s + (closures effects).count s ≤ (detachments effects).count s
  marked : ∀ job ∈ x.jobs, ∀ s ∈ job.marked, s ∈ x.shutdowns

theorem ownedOnce_start : OwnedOnce [] start :=
  ⟨fun _ _ => rfl, fun _ => Nat.zero_le 1, fun _ => rfl, fun _ => le_rfl, List.forall_mem_nil _⟩

variable {effects effects' : List ShadowEffect} {x y : Supervisor}

/-- **A step moves sessions on**, and takes none from anywhere else. -/
structure Moved (x : Supervisor) (effects : List ShadowEffect) (y : Supervisor) : Prop where
  pending : ∀ s, y.pending.count s + (attachments effects).count s ≤ x.pending.count s
  container : ∀ s, y.container.sessions.count s + (detachments effects).count s
    = x.container.sessions.count s + (attachments effects).count s
  held : ∀ s, y.held.count s + (closures effects).count s
    ≤ x.held.count s + (detachments effects).count s
  marked : ∀ job ∈ y.jobs, ∀ s ∈ job.marked, s ∈ y.shutdowns
  objects : y.objects = x.objects

theorem OwnedOnce.moved (h : OwnedOnce effects x) (hmoved : Moved x effects' y) :
    OwnedOnce (effects ++ effects') y := by
  refine ⟨fun s hs => ?_, fun s => ?_, fun s => ?_, fun s => ?_, hmoved.marked⟩
  · have hbefore := h.fresh s (hmoved.objects ▸ hs)
    have hmove := hmoved.pending s
    rw [attachments_append, List.count_append]
    omega
  · have hbefore := h.once s
    have hmove := hmoved.pending s
    rw [attachments_append, List.count_append]
    omega
  · have hbefore := h.container s
    have hmove := hmoved.container s
    rw [attachments_append, detachments_append, List.count_append, List.count_append]
    omega
  · have hbefore := h.held s
    have hmove := hmoved.held s
    rw [closures_append, detachments_append, List.count_append, List.count_append]
    omega

/-- A job that has marked no session goes on. -/
theorem marked_setJob (h : ∀ job ∈ x.jobs, ∀ s ∈ job.marked, s ∈ x.shutdowns) {i : ℕ} {job' : Job}
    (hjob' : job'.marked = []) : ∀ job ∈ (x.setJob i job').jobs, ∀ s ∈ job.marked,
    s ∈ x.shutdowns := by
  intro job hjob s hs
  rcases mem_jobs_setJob hjob with hold | rfl
  · exact h job hold s hs
  · rw [hjob'] at hs
    exact absurd hs List.not_mem_nil

theorem marked_addJob (h : ∀ job ∈ x.jobs, ∀ s ∈ job.marked, s ∈ x.shutdowns) {job' : Job}
    (hjob' : job'.marked = []) : ∀ job ∈ (x.addJob job').jobs, ∀ s ∈ job.marked,
    s ∈ x.shutdowns := by
  intro job hjob s hs
  rcases List.mem_append.mp hjob with hold | hnew
  · exact h job hold s hs
  · rw [List.mem_singleton.mp hnew, hjob'] at hs
    exact absurd hs List.not_mem_nil

/-- A job marks its next session. -/
theorem marked_markShutdown (h : ∀ job ∈ x.jobs, ∀ s ∈ job.marked, s ∈ x.shutdowns) {i : ℕ}
    {job' : Job} {session : ShadowSession} (hjob' : job'.marked = [session]) :
    ∀ job ∈ ((x.setJob i job').markShutdown session).jobs,
      ∀ s ∈ job.marked, s ∈ ((x.setJob i job').markShutdown session).shutdowns := by
  intro job hjob s hs
  rcases mem_jobs_setJob hjob with hold | rfl
  · exact List.mem_cons_of_mem _ (h job hold s hs)
  · rw [hjob'] at hs
    exact List.mem_cons.mpr (.inl (List.mem_singleton.mp hs))

/-- A job that goes on with the same sessions. -/
theorem count_setJob_le (f : Job → List ShadowSession) {i : ℕ} {job : Job}
    (hjob : x.jobs[i]? = some job) (job' : Job) (hsame : f job' = f job) (s : ShadowSession) :
    ((x.setJob i job').jobs.flatMap f).count s ≤ (x.jobs.flatMap f).count s := by
  have hcount := count_flatMap_setJob f hjob job' s
  rw [hsame] at hcount
  omega

theorem count_cons_singleton (session s : ShadowSession) (sessions : List ShadowSession) :
    (session :: sessions).count s = sessions.count s + [session].count s := by
  rw [List.count_cons, List.count_singleton]

/-- Effects that move no session leave it where it is, or drop it. -/
theorem Moved.of_silent (hsilent : Silent effects) (hobjects : y.objects = x.objects)
    (hcontainer : y.container = x.container) (hpending : ∀ s, y.pending.count s ≤ x.pending.count s)
    (hheld : ∀ s, y.held.count s ≤ x.held.count s)
    (hmarked : ∀ job ∈ y.jobs, ∀ s ∈ job.marked, s ∈ y.shutdowns) : Moved x effects y where
  pending s := by simpa [hsilent.attachments] using hpending s
  container s := by simp [hsilent.attachments, hsilent.detachments, hcontainer]
  held s := by simpa [hsilent.closures, hsilent.detachments] using hheld s
  marked := hmarked
  objects := hobjects

/-- A job goes on with the sessions it had. -/
theorem Moved.of_same {i : ℕ} {job : Job} (hjob : x.jobs[i]? = some job) (job' : Job)
    (hestablishing : job'.establishing? = job.establishing?) (hheld : job'.held = job.held)
    (hjobs : y.jobs = (x.setJob i job').jobs) (hsilent : Silent effects)
    (hobjects : y.objects = x.objects) (hcontainer : y.container = x.container)
    (hmarked : ∀ job ∈ y.jobs, ∀ s ∈ job.marked, s ∈ y.shutdowns) : Moved x effects y := by
  refine .of_silent hsilent hobjects hcontainer (fun s => ?_) (fun s => ?_) hmarked
  · rw [Supervisor.pending, hjobs]
    exact count_setJob_le Job.establishing? hjob job' hestablishing s
  · rw [Supervisor.held, hjobs]
    exact count_setJob_le Job.held hjob job' hheld s

/-- **What a step does moves sessions on**, unless it makes one. -/
theorem Did.moved {event : ShadowEvent} (h : Did x event effects y)
    (hmarked : ∀ job ∈ x.jobs, ∀ s ∈ job.marked, s ∈ x.shutdowns) (hmade : y.objects = x.objects) :
    Moved x effects y := by
  cases h with
  | made => exact absurd hmade (by simp)
  | attached hjob hinsert =>
    refine ⟨fun s => ?_, fun s => ?_, fun s => ?_, marked_setJob hmarked rfl, rfl⟩
    · exact (count_flatMap_setJob Job.establishing? hjob .done s).le
    · exact ((SessionContainer.insert_perm hinsert).count_eq s).trans (count_cons_singleton ..)
    · exact count_setJob_le Job.held hjob .done rfl s
  | refused hjob hshuts =>
    refine .of_silent hshuts.silent rfl rfl (fun s => ?_) (fun s => ?_) fun job hjob' s hs => ?_
    · exact Nat.le_of_add_right_le (count_flatMap_setJob Job.establishing? hjob .done s).le
    · exact count_setJob_le Job.held hjob .done rfl s
    · exact hshuts.subset (marked_setJob hmarked rfl job hjob' s hs)
  | @detached clientUuid statusCode reason session hfind =>
    have herase := SessionContainer.erase_perm (SessionContainer.mem_sessions_of_find hfind)
    refine ⟨fun s => ?_, fun s => ?_, fun s => ?_, marked_addJob hmarked rfl, rfl⟩
    · exact (count_flatMap_addJob Job.establishing? ..).le
    · exact ((herase.count_eq s).trans (count_cons_singleton ..)).symm
    · exact (count_flatMap_addJob Job.held ..).le
  | unknown =>
    refine .of_silent silent_nil rfl rfl (fun s => ?_) (fun s => ?_) (marked_addJob hmarked rfl)
    · exact (count_flatMap_addJob Job.establishing? ..).le
    · exact (count_flatMap_addJob Job.held ..).le
  | collected =>
    refine .of_silent silent_nil rfl rfl (fun s => ?_) (fun s => ?_)
      (marked_addJob hmarked (Job.marked_check _ _))
    · simp [pending, count_flatMap_addJob]
    · simp [held, count_flatMap_addJob]
  | checked hjob =>
    exact .of_same hjob _ (Job.establishing?_check _ _) (Job.held_check _ _) rfl ⟨rfl, rfl, rfl⟩
      rfl rfl (marked_setJob hmarked (Job.marked_check _ _))
  | @erased i expired left it pair marked hjob hlast =>
    refine ⟨fun s => ?_, fun s => ?_, fun s => ?_, marked_setJob hmarked (Job.marked_sweep ..), rfl⟩
    · rw [attachments_detached]
      exact count_setJob_le Job.establishing? hjob _ (Job.establishing?_sweep ..) s
    · have herase := (x.container.erasePair_perm pair).count_eq s
      rw [List.count_append] at herase
      rw [attachments_detached, detachments_detached, herase]
      exact Nat.add_comm _ _
    · have hcount := count_flatMap_setJob Job.held hjob
        (.sweep expired left (x.container.equalRange pair)) s
      rw [Job.held_sweep] at hcount
      rw [closures_detached, detachments_detached]
      exact hcount.le
  | @markedClosing i statusCode session reason hjob =>
    exact .of_same hjob (.closing session true statusCode reason) rfl rfl rfl ⟨rfl, rfl, rfl⟩
      rfl rfl (marked_markShutdown hmarked rfl)
  | @markedSweeping i expired left session sessions hjob =>
    exact .of_same hjob (.sweeping expired left (session :: sessions) true) rfl rfl rfl ⟨rfl, rfl, rfl⟩
      rfl rfl (marked_markShutdown hmarked rfl)
  | @closed i statusCode badNumericCast session reason hjob =>
    cases badNumericCast with
    | true =>
      refine .of_silent silent_nil rfl rfl (fun s => ?_) (fun s => ?_) (marked_setJob hmarked rfl)
      · exact count_setJob_le Job.establishing? hjob .done rfl s
      · exact Nat.le_of_add_right_le (count_flatMap_setJob Job.held hjob .done s).le
    | false =>
      refine ⟨fun s => ?_, fun s => rfl, fun s => ?_, marked_setJob hmarked rfl, rfl⟩
      · exact count_setJob_le Job.establishing? hjob .done rfl s
      · exact (count_flatMap_setJob Job.held hjob .done s).le
  | @closedSweeping i badNumericCast expired left session sessions hjob =>
    refine ⟨fun s => ?_, fun s => rfl, fun s => ?_,
      marked_setJob hmarked (Job.marked_sweep ..), rfl⟩
    · exact count_setJob_le Job.establishing? hjob _ (Job.establishing?_sweep ..) s
    · have hcount := count_flatMap_setJob Job.held hjob (.sweep expired left sessions) s
      rw [Job.held_sweep, Job.held, count_cons_singleton] at hcount
      change _ + [session].count s ≤ _
      simp only [held, detachments, List.filterMap_cons, List.filterMap_nil, List.count_nil]
      omega
  | @cleared statusCode reason effects shutdowns hshuts =>
    refine ⟨fun s => ?_, fun s => ?_, fun s => ?_, fun job hjob s hs => ?_, rfl⟩
    · rw [attachments_append, attachments_detached, hshuts.silent.attachments]
      exact le_rfl
    · rw [attachments_append, attachments_detached, hshuts.silent.attachments, detachments_append,
        detachments_detached, hshuts.silent.detachments, List.append_nil]
      exact Nat.add_comm _ _
    · rw [closures_append, closures_detached, hshuts.silent.closures]
      exact Nat.le_add_right _ _
    · exact hshuts.subset (hmarked job hjob s hs)
  | found => exact .of_silent ⟨rfl, rfl, rfl⟩ rfl rfl (fun _ => le_rfl) (fun _ => le_rfl) hmarked
  | shut hshuts =>
    exact .of_silent hshuts.silent rfl rfl (fun _ => le_rfl) (fun _ => le_rfl)
      fun job hjob s hs => hshuts.subset (hmarked job hjob s hs)
  | misfit => exact .of_silent silent_nil rfl rfl (fun _ => le_rfl) (fun _ => le_rfl) hmarked

/-- A session is made: nothing was ever done with it. -/
theorem OwnedOnce.made (h : OwnedOnce effects x) {session : ShadowSession}
    (hobject : session.object = x.objects) :
    OwnedOnce effects { x.addJob (.establishing session) with objects := x.objects + 1 } := by
  have hpending (s : ShadowSession) :=
    count_flatMap_addJob Job.establishing? x (.establishing session) s
  have hnew := h.fresh session hobject.ge
  refine ⟨fun s hs => ?_, fun s => ?_, h.container, fun s => ?_, marked_addJob h.marked rfl⟩
  · have hbefore := h.fresh s (Nat.le_of_succ_le hs)
    have hne : session ≠ s := by
      rintro rfl
      exact absurd hs (by simp [hobject])
    have hnone : [session].count s = 0 := by simpa [List.count_singleton] using hne
    change _ + List.count s ((x.addJob (.establishing session)).jobs.flatMap _) = 0
    rw [hpending s]
    simp only [Job.establishing?, hnone]
    exact hbefore
  · change _ + List.count s ((x.addJob (.establishing session)).jobs.flatMap _) ≤ 1
    rw [hpending s]
    by_cases hs : session = s
    · subst hs
      have hone : [session].count session = 1 := by simp
      simp only [Job.establishing?, hone]
      change _ + (x.pending.count session + 1) ≤ 1
      omega
    · have hnone : [session].count s = 0 := by simpa [List.count_singleton] using hs
      simp only [Job.establishing?, hnone]
      exact h.once s
  · refine (Nat.add_le_add_right (count_flatMap_addJob Job.held x _ s).le _).trans ?_
    exact h.held s

/-- **Every step keeps a session in one place.** -/
theorem OwnedOnce.step (h : OwnedOnce effects x) {l : ShadowLabel} (hstep : Step x l y) :
    OwnedOnce (effects ++ l.effects) y := by
  obtain ⟨event, effects'⟩ := l
  have hdid : Did x event effects' y := Step.did hstep
  by_cases hobjects : y.objects = x.objects
  · exact h.moved (hdid.moved h.marked hobjects)
  · cases hdid with
    | made =>
      dsimp only
      rw [List.append_nil]
      exact h.made rfl
    | _ => exact absurd rfl hobjects

theorem ownedOnce_of_run {history : List ShadowLabel} (h : Lts.Run Step start history x) :
    OwnedOnce (effectsOf history) x := by
  refine h.historyInvariant (J := fun history x => OwnedOnce (effectsOf history) x) ?_
    ownedOnce_start
  intro ls s l t hs hstep
  rw [effectsOf_concat]
  exact hs.step hstep

/-- A session that left the container is not there. -/
theorem OwnedOnce.notMem_of_detached (h : OwnedOnce effects x) {s : ShadowSession}
    (hs : s ∈ detachments effects) : s ∉ x.container.sessions := by
  intro hmem
  have hdetached := List.count_pos_iff.mpr hs
  have hcontainer := List.count_pos_iff.mpr hmem
  have hplace := h.container s
  have honce := h.once s
  omega

/-- A session that is held left the container, and was attached before. -/
theorem OwnedOnce.of_held (h : OwnedOnce effects x) {s : ShadowSession} {job : Job}
    (hjob : job ∈ x.jobs) (hs : s ∈ job.held) :
    s ∈ attachments effects ∧ s ∈ detachments effects := by
  have hheld : 0 < x.held.count s := List.count_pos_iff.mpr (List.mem_flatMap.mpr ⟨job, hjob, hs⟩)
  have hplace := h.container s
  have hless := h.held s
  exact ⟨List.count_pos_iff.mp (by omega), List.count_pos_iff.mp (by omega)⟩

/-- **Who reports a closure** holds the session and has marked it. -/
theorem Did.of_closed {event : ShadowEvent} (h : Did x event effects y) {s : ShadowSession}
    (hs : s ∈ closures effects) : ∃ job ∈ x.jobs, s ∈ job.held ∧ s ∈ job.marked := by
  have hno {silent : List ShadowEffect} (hsilent : closures silent = [])
    (hmem : s ∈ closures silent) :
      ∃ job ∈ x.jobs, s ∈ job.held ∧ s ∈ job.marked := by
    rw [hsilent] at hmem
    exact absurd hmem List.not_mem_nil
  cases h with
  | @closed i statusCode badNumericCast session reason hjob =>
    cases badNumericCast with
    | true => exact hno rfl hs
    | false =>
      obtain rfl : s = session := List.mem_singleton.mp hs
      exact ⟨_, List.mem_of_getElem? hjob, List.mem_singleton_self _, List.mem_singleton_self _⟩
  | @closedSweeping i badNumericCast expired left session sessions hjob =>
    obtain rfl : s = session := List.mem_singleton.mp hs
    exact ⟨_, List.mem_of_getElem? hjob, List.mem_cons_self, List.mem_singleton_self _⟩
  | refused hjob hshuts => exact hno hshuts.silent.closures hs
  | shut hshuts => exact hno hshuts.silent.closures hs
  | cleared hshuts =>
    exact hno (by rw [closures_append, closures_detached, hshuts.silent.closures]; rfl) hs
  | erased hjob hlast => exact hno (closures_detached _) hs
  | _ => exact hno rfl hs

/-- What `get_session` finds is in the container. -/
theorem Did.of_found {event : ShadowEvent} (h : Did x event effects y) {s : ShadowSession}
    (hs : .found (some s) ∈ effects) : s ∈ x.container.sessions := by
  cases h with
  | found =>
    have hfind : some s = x.container.find _ := ShadowEffect.found.inj (List.mem_singleton.mp hs)
    exact SessionContainer.mem_sessions_of_find hfind.symm
  | refused hjob hshuts => obtain ⟨_, _, _, heq⟩ := hshuts.effects _ hs; cases heq
  | shut hshuts => obtain ⟨_, _, _, heq⟩ := hshuts.effects _ hs; cases heq
  | cleared hshuts =>
    rcases List.mem_append.mp hs with hs | hs
    · obtain ⟨_, _, heq⟩ := List.mem_map.mp hs
      cases heq
    · obtain ⟨_, _, _, heq⟩ := hshuts.effects _ hs
      cases heq
  | erased hjob hlast =>
    obtain ⟨_, _, heq⟩ := List.mem_map.mp hs
    cases heq
  | @closed i statusCode badNumericCast session reason hjob => cases badNumericCast <;> simp at hs
  | _ => simp at hs

theorem Step.unique {l : ShadowLabel} {z : Supervisor} (hy : Step x l y)
    (hz : Step x l z) : y = z :=
  congrArg Prod.snd (Eq.trans (Eq.symm hy) hz)

end Supervisor

/-! ## The property -/

open Supervisor

/-- **A closure is reported at most once**, for a session that was attached, has left the container
and is marked; and a session that left the container is not found again. -/
structure ReportsClosureOnce (history : List ShadowLabel) : Prop where
  atMostOnce : (closures (effectsOf history)).Nodup
  attached : ∀ pre l post, history = pre ++ l :: post → ∀ s ∈ closures l.effects,
    s ∈ attachments (effectsOf pre)
  detached : ∀ pre l post, history = pre ++ l :: post → ∀ s ∈ closures l.effects,
    s ∈ detachments (effectsOf pre)
  gone : ∀ pre l post, history = pre ++ l :: post → ∀ s ∈ closures l.effects,
    ∀ x, Lts.Run Step start pre x → s ∉ x.container.sessions ∧ s ∈ x.shutdowns
  notFound : ∀ pre l post, history = pre ++ l :: post →
    ∀ s, s ∈ detachments l.effects ∨ s ∈ closures l.effects →
      ∀ l' ∈ post, .found (some s) ∉ l'.effects

/-- **Every run reports a closure at most once**, whatever is interleaved. -/
theorem reports_closure_once {history : List ShadowLabel} {y : Supervisor}
    (hrun : Lts.Run Step start history y) : ReportsClosureOnce history := by
  have hclosing {pre post : List ShadowLabel} {l : ShadowLabel} {s : ShadowSession} {x : Supervisor}
      (hsplit : history = pre ++ l :: post) (hs : s ∈ closures l.effects)
      (hpre : Lts.Run Step start pre x) : ∃ job ∈ x.jobs, s ∈ job.held ∧ s ∈ job.marked := by
    subst hsplit
    obtain ⟨x', _, hpre', hstep, _⟩ := hrun.split
    obtain rfl : x = x' := Lts.Run.unique (fun h h' => h.unique h') hpre hpre'
    exact Did.of_closed (Step.did hstep) hs
  have hheld {pre post : List ShadowLabel} {l : ShadowLabel} {s : ShadowSession}
      (hsplit : history = pre ++ l :: post) (hs : s ∈ closures l.effects) :
      s ∈ attachments (effectsOf pre) ∧ s ∈ detachments (effectsOf pre) := by
    obtain ⟨x, _, hpre, _, _⟩ := (hsplit ▸ hrun).split
    obtain ⟨job, hjob, hs, _⟩ := hclosing hsplit hs hpre
    exact (ownedOnce_of_run hpre).of_held hjob hs
  refine ⟨?_, fun pre l post hsplit s hs => (hheld hsplit hs).1,
    fun pre l post hsplit s hs => (hheld hsplit hs).2, ?_, ?_⟩
  · have howned := ownedOnce_of_run hrun
    refine List.nodup_iff_count_le_one.mpr fun s => ?_
    have hless := howned.held s
    have hplace := howned.container s
    have honce := howned.once s
    omega
  · intro pre l post hsplit s hs x hpre
    obtain ⟨job, hjob, hs, hmarked⟩ := hclosing hsplit hs hpre
    have howned := ownedOnce_of_run hpre
    exact ⟨howned.notMem_of_detached (howned.of_held hjob hs).2, howned.marked job hjob s hmarked⟩
  · intro pre l post hsplit s hs l' hl' hfound
    obtain ⟨mid, post', rfl⟩ := List.append_of_mem hl'
    have hsplit' : history = (pre ++ l :: mid) ++ l' :: post' := by simp [hsplit]
    obtain ⟨x, _, hpre, hstep, _⟩ := (hsplit' ▸ hrun).split
    have hdetached : s ∈ detachments (effectsOf (pre ++ l :: mid)) := by
      have hsome : s ∈ detachments (effectsOf pre) ∨ s ∈ detachments l.effects :=
        hs.elim .inr fun hs => .inl (hheld hsplit hs).2
      rw [effectsOf, List.flatMap_append, List.flatMap_cons, detachments_append, detachments_append,
        List.mem_append, List.mem_append]
      exact hsome.elim .inl fun h => .inr (.inl h)
    exact (ownedOnce_of_run hpre).notMem_of_detached hdetached
      (Did.of_found (Step.did hstep) hfound)

/-! ## A tick and a notification about one client -/

/-- Two clients of one gate; the gate fails its check while the first client says goodbye, and the
second one does so twice. -/
def closureTrial : List ShadowEvent :=
  [.websocketEstablishmentRequest 1 2 3 [] [], .attachSession 0 none,
    .websocketEstablishmentRequest 1 2 4 [] [], .attachSession 1 none, .pingTimer,
    .websocketClosureNotification 3 1000 [], .checkGate 2 (.answered false), .markShutdown 3,
    .eraseRange 2, .websocketClosureNotification 4 1000 [], .handleWebsocketClosure 3 false,
    .markShutdown 2, .handleWebsocketClosure 2 false, .websocketClosureNotification 4 1000 [],
    .getSession 4]

theorem reports_closure_once_trial :
    ReportsClosureOnce (Lts.trace next start closureTrial) ∧
      (closures (effectsOf (Lts.trace next start closureTrial))).map ShadowSession.clientUuid
        = [3, 4] := by
  have hrun : Lts.Run Step start (Lts.trace next start closureTrial) _ :=
    Lts.Run.of_admits next (fun _ _ => True) (fun _ => rfl) start closureTrial (by decide +kernel)
  exact ⟨reports_closure_once hrun, by decide +kernel⟩

end Circe.Box
