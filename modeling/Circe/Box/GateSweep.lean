import Circe.Box.Closure
import Mathlib.Data.List.Flatten

/-!
# Box/GateSweep — the sessions of a gate that is gone

`ping_timer_proc` checks every gate that has sessions, and then goes through those that failed, once
for each.  Every time it erases the range of the *last* of them: the sessions of that gate are
swept, and those of the others stay where they are (`sweepsDeadGates_iff`).
-/

namespace Circe.Box

open Websocket Supervisor

/-! ## What a tick did, and what happened meanwhile -/

/-- What job `i` did. -/
def ofTick (i : ℕ) (history : List ShadowLabel) : List ShadowEffect :=
  effectsOf (history.filter fun l => l.event.job? = some i)

/-- What everything else did. -/
def elsewhere (i : ℕ) (history : List ShadowLabel) : List ShadowEffect :=
  effectsOf (history.filter fun l => l.event.job? ≠ some i)

/-- The pairs whose check ended as `alive` says. -/
def checkedAs (alive : Bool) (effects : List ShadowEffect) : List FoyerGate :=
  effects.filterMap fun
    | .checked pair alive' => if alive' = alive then some pair else none
    | _ => none

/-- The pairs whose check failed, in the order of their checks. -/
abbrev failed (effects : List ShadowEffect) : List FoyerGate := checkedAs false effects

/-- **Dead gates are swept completely**, in a tick that ran as job `i` from `x` to `y`: a session
whose gate failed is removed, marked and reported once, and one whose gate is alive is left alone.
A session that something else detached meanwhile is excepted, be it a closure notification, another
tick or `clear`. -/
structure SweepsDeadGates (x : Supervisor) (i : ℕ) (history : List ShadowLabel) (y : Supervisor) :
    Prop where
  checked : ∀ s ∈ x.container.sessions, s.foyerGateUuidPair ∈ failed (ofTick i history) ∨
    s.foyerGateUuidPair ∈ checkedAs true (ofTick i history)
  dead : ∀ s ∈ x.container.sessions, s.foyerGateUuidPair ∈ failed (ofTick i history) →
    s ∈ detachments (elsewhere i history) ∨
      (s ∈ detachments (ofTick i history) ∧ s ∉ y.container.sessions ∧
        .marked s ∈ ofTick i history ∧ s ∈ y.shutdowns ∧
        (closures (ofTick i history)).count s = 1)
  alive : ∀ s ∈ x.container.sessions, s.foyerGateUuidPair ∈ checkedAs true (ofTick i history) →
    (s ∈ y.container.sessions ∨ s ∈ detachments (elsewhere i history)) ∧
      s ∉ detachments (ofTick i history) ∧ .marked s ∉ ofTick i history ∧
      s ∉ closures (ofTick i history)

section Logs

variable {i : ℕ} {history : List ShadowLabel} {l : ShadowLabel} {effects : List ShadowEffect}

theorem ofTick_concat_self (h : l.event.job? = some i) :
    ofTick i (history ++ [l]) = ofTick i history ++ l.effects := by
  simp [ofTick, effectsOf, List.filter_append, h]

theorem ofTick_concat_other (h : l.event.job? ≠ some i) :
    ofTick i (history ++ [l]) = ofTick i history := by
  simp [ofTick, effectsOf, List.filter_append, h]

theorem elsewhere_concat_self (h : l.event.job? = some i) :
    elsewhere i (history ++ [l]) = elsewhere i history := by
  simp [elsewhere, effectsOf, List.filter_append, h]

theorem elsewhere_concat_other (h : l.event.job? ≠ some i) :
    elsewhere i (history ++ [l]) = elsewhere i history ++ l.effects := by
  simp [elsewhere, effectsOf, List.filter_append, h]

theorem ofTick_sublist (i : ℕ) (history : List ShadowLabel) :
    (ofTick i history).Sublist (effectsOf history) := by
  rw [ofTick, effectsOf, effectsOf]
  exact List.filter_sublist.flatMap _

theorem checkedAs_append (alive : Bool) (effects effects' : List ShadowEffect) :
    checkedAs alive (effects ++ effects') = checkedAs alive effects ++ checkedAs alive effects' :=
  List.filterMap_append

theorem checkedAs_singleton (alive alive' : Bool) (pair : FoyerGate) :
    checkedAs alive [.checked pair alive'] = if alive' = alive then [pair] else [] := by
  rw [checkedAs, List.filterMap_cons]
  split_ifs with h <;> simp [h]

/-- Effects that check no gate. -/
theorem checkedAs_eq_nil {alive : Bool} (h : ∀ pair alive', .checked pair alive' ∉ effects) :
    checkedAs alive effects = [] := by
  refine List.filterMap_eq_nil_iff.mpr fun e he => ?_
  cases e with
  | checked pair alive' => exact absurd he (h pair alive')
  | _ => rfl

end Logs

/-! ## A tick as it goes on -/

/-- The tick did something to the session. -/
def Touched (effects : List ShadowEffect) (s : ShadowSession) : Prop :=
  s ∈ detachments effects ∨ .marked s ∈ effects ∨ s ∈ closures effects

/-- The last pair that failed was swept: of the sessions there were under it, those in `waiting` are
still to be marked and reported. -/
def Swept (sessions : List ShadowSession) (tick other : List ShadowEffect)
    (waiting : List ShadowSession) : Prop :=
  ∀ s ∈ sessions, (failed tick).getLast? = some s.foyerGateUuidPair →
    s ∈ detachments other ∨ (s ∈ detachments tick ∧
      (s ∈ waiting ∨ (.marked s ∈ tick ∧ s ∈ closures tick)))

/-- Where a tick is, by what it and everything else did since it began with `container`. -/
inductive TickPhase (container : SessionContainer) (tick other : List ShadowEffect) : Job → Prop
  | checking {expired unchecked : List FoyerGate} (hfailed : failed tick = expired)
      (hperm : (checkedAs true tick ++ failed tick ++ unchecked).Perm container.foyerGateUuidPairs)
      (huntouched : ∀ s, ¬ Touched tick s) :
      TickPhase container tick other (.checking expired unchecked)
  | unswept {expired : List FoyerGate} {marked : Bool} (hfailed : failed tick = expired)
      (hperm : (checkedAs true tick ++ failed tick).Perm container.foyerGateUuidPairs)
      (huntouched : ∀ s, ¬ Touched tick s) :
      TickPhase container tick other (.sweeping expired expired [] marked)
  | sweeping {expired left : List FoyerGate} {waiting : List ShadowSession} {marked : Bool}
      (hfailed : failed tick = expired)
      (hperm : (checkedAs true tick ++ failed tick).Perm container.foyerGateUuidPairs)
      (hswept : Swept container.sessions tick other waiting)
      (hwaiting : ∀ s ∈ waiting, s ∈ detachments tick)
      (hmarked : marked = true → ∀ s ∈ waiting.head?, .marked s ∈ tick) :
      TickPhase container tick other (.sweeping expired left waiting marked)
  | done (hperm : (checkedAs true tick ++ failed tick).Perm container.foyerGateUuidPairs)
      (hswept : Swept container.sessions tick other []) : TickPhase container tick other .done

/-- **What holds while a tick is running** as job `i`. -/
structure TickInv (container : SessionContainer) (i : ℕ) (tick other : List ShadowEffect)
    (y : Supervisor) : Prop where
  phase : ∃ job, y.jobs[i]? = some job ∧ TickPhase container tick other job
  there : ∀ s ∈ container.sessions,
    s ∈ y.container.sessions ∨ s ∈ detachments tick ∨ s ∈ detachments other
  touched : ∀ s, Touched tick s → (failed tick).getLast? = some s.foyerGateUuidPair
  marked : ∀ s, .marked s ∈ tick → s ∈ y.shutdowns

section Steps

variable {container : SessionContainer} {i : ℕ} {tick other effects : List ShadowEffect}
  {x y : Supervisor} {event : ShadowEvent} {expired left unchecked : List FoyerGate}
  {waiting : List ShadowSession}

theorem TickPhase.check (hfailed : failed tick = expired)
    (hperm : (checkedAs true tick ++ failed tick ++ unchecked).Perm container.foyerGateUuidPairs)
    (huntouched : ∀ s, ¬ Touched tick s) :
    TickPhase container tick other (.check expired unchecked) := by
  rw [Job.check]
  split
  case isTrue hunchecked =>
    rw [hunchecked, List.append_nil] at hperm
    split
    case isTrue hexpired =>
      refine .done hperm fun s _ hlast => ?_
      rw [hfailed, hexpired] at hlast
      cases hlast
    case isFalse => exact .unswept hfailed hperm huntouched
  case isFalse => exact .checking hfailed hperm huntouched

theorem TickPhase.sweep (hfailed : failed tick = expired)
    (hperm : (checkedAs true tick ++ failed tick).Perm container.foyerGateUuidPairs)
    (hswept : Swept container.sessions tick other waiting)
    (hwaiting : ∀ s ∈ waiting, s ∈ detachments tick) :
    TickPhase container tick other (.sweep expired left waiting) := by
  rw [Job.sweep]
  split
  case isTrue hdone => exact .done hperm (hdone.2 ▸ hswept)
  case isFalse => exact .sweeping hfailed hperm hswept hwaiting fun h => absurd h Bool.false_ne_true

theorem Swept.mono_other (h : Swept container.sessions tick other waiting) :
    Swept container.sessions tick (other ++ effects) waiting := by
  intro s hs hlast
  rw [detachments_append, List.mem_append]
  exact (h s hs hlast).imp_left .inl

/-- What everything else does leaves the tick where it is. -/
theorem TickPhase.mono_other {job : Job} (h : TickPhase container tick other job) :
    TickPhase container tick (other ++ effects) job := by
  cases h with
  | checking hfailed hperm huntouched => exact .checking hfailed hperm huntouched
  | unswept hfailed hperm huntouched => exact .unswept hfailed hperm huntouched
  | sweeping hfailed hperm hswept hwaiting hmarked =>
    exact .sweeping hfailed hperm hswept.mono_other hwaiting hmarked
  | done hperm hswept => exact .done hperm hswept.mono_other

/-- A step goes on with one job only. -/
theorem Supervisor.Did.jobs (h : Did x event effects y) (hevent : event.job? ≠ some i) {job : Job}
    (hjob : x.jobs[i]? = some job) : y.jobs[i]? = some job := by
  have hadd (job' : Job) : (x.addJob job').jobs[i]? = some job :=
    List.getElem?_append_left (List.getElem?_eq_some_iff.mp hjob).1 |>.trans hjob
  have hset {j : ℕ} (job' : Job) (hne : some j ≠ some i) : (x.setJob j job').jobs[i]? = some job :=
    (List.getElem?_set_ne fun heq => hne (congrArg some heq)).trans hjob
  cases h with
  | made | detached | unknown | collected => exact hadd _
  | attached | refused | checked | erased | markedClosing | markedSweeping | closed
  | closedSweeping =>
    exact hset _ hevent
  | cleared | found | shut | misfit => exact hjob

/-- A session leaves the container in a step that says so. -/
theorem Supervisor.Did.leaves (h : Did x event effects y)
    (hmarked : ∀ job ∈ x.jobs, ∀ s ∈ job.marked, s ∈ x.shutdowns) {s : ShadowSession}
    (hs : s ∈ x.container.sessions) : s ∈ y.container.sessions ∨ s ∈ detachments effects := by
  by_cases hobjects : y.objects = x.objects
  · have hmoved := (h.moved hmarked hobjects).container s
    have hthere := List.count_pos_iff.mpr hs
    by_cases hy : s ∈ y.container.sessions
    · exact .inl hy
    · rw [List.count_eq_zero.mpr hy] at hmoved
      exact .inr (List.count_pos_iff.mp (by omega))
  · cases h with
    | made => exact .inl hs
    | _ => exact absurd rfl hobjects

theorem Supervisor.Did.shutdowns_subset (h : Did x event effects y) :
    x.shutdowns ⊆ y.shutdowns := by
  cases h with
  | refused hjob hshuts => exact hshuts.subset
  | shut hshuts => exact hshuts.subset
  | cleared hshuts => exact hshuts.subset
  | markedClosing | markedSweeping => exact List.subset_cons_self _ _
  | _ => exact List.Subset.refl _

/-- **Everything else leaves the tick alone.** -/
theorem TickInv.step_other (h : TickInv container i tick other x) (hdid : Did x event effects y)
    (hevent : event.job? ≠ some i)
    (hmarked : ∀ job ∈ x.jobs, ∀ s ∈ job.marked, s ∈ x.shutdowns) :
    TickInv container i tick (other ++ effects) y := by
  obtain ⟨⟨job, hjob, hphase⟩, hthere, htouched, hmarks⟩ := h
  refine ⟨⟨job, hdid.jobs hevent hjob, hphase.mono_other⟩, fun s hs => ?_, htouched,
    fun s hs => hdid.shutdowns_subset (hmarks s hs)⟩
  rw [detachments_append, List.mem_append]
  rcases hthere s hs with hthere | hdetached | hdetached
  · exact (hdid.leaves hmarked hthere).imp_right fun h => .inr (.inr h)
  · exact .inr (.inl hdetached)
  · exact .inr (.inr (.inl hdetached))

theorem touched_append {s : ShadowSession} :
    Touched (tick ++ effects) s ↔ Touched tick s ∨ Touched effects s := by
  simp only [Touched, detachments_append, closures_append, List.mem_append]
  tauto

theorem touched_detached {sessions : List ShadowSession} {s : ShadowSession}
    (h : Touched (sessions.map .detached) s) : s ∈ sessions := by
  rcases h with h | h | h
  · rwa [detachments_detached] at h
  · simp at h
  · rw [closures_detached] at h
    exact absurd h List.not_mem_nil

theorem failed_append_of_nil (h : failed effects = []) :
    failed (tick ++ effects) = failed tick := by
  rw [failed, checkedAs_append, show checkedAs false effects = [] from h, List.append_nil]

/-- What the tick did to a session stays done. -/
theorem Swept.mono_tick (h : Swept container.sessions tick other waiting)
    (hfailed : failed effects = []) : Swept container.sessions (tick ++ effects) other waiting := by
  intro s hs hlast
  rw [failed_append_of_nil hfailed] at hlast
  simp only [detachments_append, closures_append, List.mem_append]
  have hbefore := h s hs hlast
  tauto

theorem Supervisor.getElem?_setJob {job : Job} (h : x.jobs[i]? = some job) (job' : Job) :
    (x.setJob i job').jobs[i]? = some job' :=
  List.getElem?_set_self (List.getElem?_eq_some_iff.mp h).1

/-- The check of a gate. -/
theorem TickPhase.checked {pair : FoyerGate} (alive : Bool)
    (h : TickPhase container tick other (.checking expired (pair :: unchecked))) :
    TickPhase container (tick ++ [.checked pair alive]) other
      (.check (if alive then expired else expired ++ [pair]) unchecked) := by
  cases h with
  | checking hfailed hperm huntouched =>
    have huntouched' (s : ShadowSession) : ¬ Touched (tick ++ [.checked pair alive]) s := by
      rw [touched_append]
      rintro (h | h | h | h)
      · exact huntouched s h
      all_goals simp [detachments, closures] at h
    cases alive with
    | true =>
      refine .check ?_ ?_ huntouched'
      · simpa [checkedAs_append, checkedAs_singleton] using hfailed
      · refine List.Perm.trans ?_ hperm
        simp only [checkedAs_append, checkedAs_singleton, failed]
        simpa using List.perm_middle.symm.append_left (checkedAs true tick)
    | false =>
      refine .check ?_ ?_ huntouched'
      · simpa [checkedAs_append, checkedAs_singleton] using hfailed
      · simpa [checkedAs_append, checkedAs_singleton, failed] using hperm

/-- The range of the last pair that failed is erased. -/
theorem TickPhase.erased {it pair : FoyerGate} {marked : Bool}
    (h : TickPhase container tick other (.sweeping expired (it :: left) [] marked))
    (hlast : expired.getLast? = some pair)
    (hthere : ∀ s ∈ container.sessions,
      s ∈ x.container.sessions ∨ s ∈ detachments tick ∨ s ∈ detachments other) :
    TickPhase container (tick ++ (x.container.equalRange pair).map .detached) other
      (.sweep expired left (x.container.equalRange pair)) := by
  have hnone : ∀ alive, checkedAs alive ((x.container.equalRange pair).map .detached) = [] :=
    fun alive => checkedAs_eq_nil (by simp)
  have hwaiting : ∀ s ∈ x.container.equalRange pair,
      s ∈ detachments (tick ++ (x.container.equalRange pair).map .detached) := by
    intro s hs
    rw [detachments_append, detachments_detached]
    exact List.mem_append_right _ hs
  have hsweep (hfailed : failed tick = expired)
      (hperm : (checkedAs true tick ++ failed tick).Perm container.foyerGateUuidPairs)
      (hdetached : ∀ s ∈ container.sessions, (failed tick).getLast? = some s.foyerGateUuidPair →
        s ∈ detachments tick →
          s ∈ detachments other ∨ (.marked s ∈ tick ∧ s ∈ closures tick)) :
      TickPhase container (tick ++ (x.container.equalRange pair).map .detached) other
        (.sweep expired left (x.container.equalRange pair)) := by
    refine .sweep ((failed_append_of_nil (hnone false)).trans hfailed) ?_ ?_ hwaiting
    · rwa [checkedAs_append, hnone, List.append_nil, failed_append_of_nil (hnone false)]
    · intro s hs hpair
      rw [failed_append_of_nil (hnone false)] at hpair
      rcases hthere s hs with hsession | htick | hother
      · have hrange : s ∈ x.container.equalRange pair := by
          rw [hfailed, hlast] at hpair
          exact SessionContainer.mem_equalRange.mpr ⟨hsession, (Option.some.inj hpair).symm⟩
        exact .inr ⟨hwaiting s hrange, .inl hrange⟩
      · refine (hdetached s hs hpair htick).imp_right fun h => ⟨?_, .inr ⟨?_, ?_⟩⟩
        · exact detachments_append ▸ List.mem_append_left _ htick
        · exact List.mem_append_left _ h.1
        · exact closures_append ▸ List.mem_append_left _ h.2
      · exact .inl hother
  cases h with
  | unswept hfailed hperm huntouched =>
    exact hsweep hfailed hperm fun s _ _ htick => absurd (.inl htick) (huntouched s)
  | sweeping hfailed hperm hswept =>
    refine hsweep hfailed hperm fun s hs hpair _ => ?_
    exact (hswept s hs hpair).imp_right fun h => h.2.resolve_left List.not_mem_nil

/-- A session that waits was detached by the tick. -/
theorem TickPhase.detached {marked : Bool} {s : ShadowSession}
    (h : TickPhase container tick other (.sweeping expired left waiting marked))
    (hs : s ∈ waiting) : s ∈ detachments tick := by
  cases h with
  | unswept => exact absurd hs List.not_mem_nil
  | sweeping _ _ _ hwaiting => exact hwaiting s hs

/-- The first session that waits is marked. -/
theorem TickPhase.marked {session : ShadowSession} {marked : Bool}
    (h : TickPhase container tick other (.sweeping expired left (session :: waiting) marked)) :
    TickPhase container (tick ++ [.marked session]) other
      (.sweeping expired left (session :: waiting) true) := by
  have hnone : ∀ alive, checkedAs alive [ShadowEffect.marked session] = [] := fun _ => rfl
  cases h with
  | sweeping hfailed hperm hswept hwaiting =>
    refine .sweeping ?_ ?_ (hswept.mono_tick (hnone false)) ?_ ?_
    · rw [failed_append_of_nil (hnone false), hfailed]
    · rwa [checkedAs_append, hnone, List.append_nil, failed_append_of_nil (hnone false)]
    · exact fun s hs => detachments_append ▸ List.mem_append_left _ (hwaiting s hs)
    · intro _ s hs
      obtain rfl : session = s := by simpa using hs
      exact List.mem_append_right _ List.mem_cons_self

/-- The first session that waits, once marked, is reported. -/
theorem TickPhase.closed {session : ShadowSession}
    (h : TickPhase container tick other (.sweeping expired left (session :: waiting) true)) :
    TickPhase container (tick ++ [.closed session statusGoingAway
        (asciiBytes "Connection to gate server was lost")]) other
      (.sweep expired left waiting) := by
  have hnone : ∀ alive, checkedAs alive [ShadowEffect.closed session statusGoingAway
    (asciiBytes "Connection to gate server was lost")] = [] := fun _ => rfl
  cases h with
  | sweeping hfailed hperm hswept hwaiting hmarked =>
    refine .sweep ?_ ?_ ?_ ?_
    · rw [failed_append_of_nil (hnone false), hfailed]
    · rwa [checkedAs_append, hnone, List.append_nil, failed_append_of_nil (hnone false)]
    · intro s hs hlast
      rcases hswept.mono_tick (hnone false) s hs hlast with hother | ⟨htick, hs | hs⟩
      · exact .inl hother
      · rcases List.mem_cons.mp hs with rfl | hs
        · refine .inr ⟨htick, .inr ⟨List.mem_append_left _ (hmarked rfl s rfl), ?_⟩⟩
          simp [closures]
        · exact .inr ⟨htick, .inl hs⟩
      · exact .inr ⟨htick, .inr hs⟩
    · exact fun s hs => detachments_append ▸
        List.mem_append_left _ (hwaiting s (List.mem_cons_of_mem _ hs))

/-- **The tick goes on.** -/
theorem TickInv.step_self (h : TickInv container i tick other x) (hdid : Did x event effects y)
    (hevent : event.job? = some i)
    (hmarked : ∀ job ∈ x.jobs, ∀ s ∈ job.marked, s ∈ x.shutdowns) :
    TickInv container i (tick ++ effects) other y := by
  obtain ⟨⟨job, hjob, hphase⟩, hthere, htouched, hmarks⟩ := h
  have hstays : ∀ s ∈ container.sessions, s ∈ y.container.sessions ∨
      s ∈ detachments (tick ++ effects) ∨ s ∈ detachments other := by
    intro s hs
    rw [detachments_append, List.mem_append]
    rcases hthere s hs with hthere | hdetached | hdetached
    · exact (hdid.leaves hmarked hthere).imp_right fun h => .inl (.inr h)
    · exact .inr (.inl (.inl hdetached))
    · exact .inr (.inr hdetached)
  -- Where no gate was checked, the last pair that failed is the same as before.
  have hgoesOn {job' : Job} (hfailed : failed effects = []) (hjob' : y.jobs[i]? = some job')
      (hphase' : TickPhase container (tick ++ effects) other job')
      (hnew : ∀ s, Touched effects s → (failed tick).getLast? = some s.foyerGateUuidPair)
      (hmarks' : ∀ s, .marked s ∈ effects → s ∈ y.shutdowns) :
      TickInv container i (tick ++ effects) other y := by
    refine ⟨⟨job', hjob', hphase'⟩, hstays, fun s hs => ?_, fun s hs => ?_⟩
    · rw [failed_append_of_nil hfailed]
      exact (touched_append.mp hs).elim (htouched s) (hnew s)
    · rcases List.mem_append.mp hs with hs | hs
      · exact hdid.shutdowns_subset (hmarks s hs)
      · exact hmarks' s hs
  have hat {job' : Job} (hjob' : x.jobs[i]? = some job') : job = job' :=
    Option.some.inj (hjob.symm.trans hjob')
  cases hdid with
  | made | detached | unknown | collected | cleared | found | shut => cases hevent
  | attached hjob' | refused hjob' | markedClosing hjob' | closed hjob' =>
    obtain rfl := Option.some.inj hevent
    rw [hat hjob'] at hphase
    cases hphase
  | @checked j check expired unchecked pair hjob' =>
    obtain rfl := Option.some.inj hevent
    rw [hat hjob'] at hphase
    refine ⟨⟨_, getElem?_setJob hjob' _, hphase.checked check.alive⟩, hstays, fun s hs => ?_,
      fun s hs => hmarks s (by simpa using hs)⟩
    cases hphase with
    | checking hfailed hperm huntouched =>
      rcases touched_append.mp hs with hs | hs
      · exact absurd hs (huntouched s)
      · simp [Touched, detachments, closures] at hs
  | @erased j expired left it pair marked hjob' hlast =>
    obtain rfl := Option.some.inj hevent
    rw [hat hjob'] at hphase
    have hfailed : failed tick = expired := by cases hphase <;> assumption
    refine hgoesOn (checkedAs_eq_nil (by simp)) (getElem?_setJob hjob' _)
      (hphase.erased hlast hthere) (fun s hs => ?_) (fun s hs => by simp at hs)
    rw [hfailed, hlast, (SessionContainer.mem_equalRange.mp (touched_detached hs)).2]
  | @markedSweeping j expired left session sessions hjob' =>
    obtain rfl := Option.some.inj hevent
    rw [hat hjob'] at hphase
    refine hgoesOn rfl (getElem?_setJob hjob' _) hphase.marked (fun s hs => ?_) fun s hs => ?_
    · obtain rfl : s = session := by simpa [Touched, detachments, closures] using hs
      exact htouched s (.inl (hphase.detached List.mem_cons_self))
    · obtain rfl : s = session := by simpa using hs
      exact List.mem_cons_self
  | @closedSweeping j badNumericCast expired left session sessions hjob' =>
    obtain rfl := Option.some.inj hevent
    rw [hat hjob'] at hphase
    refine hgoesOn rfl (getElem?_setJob hjob' _) hphase.closed (fun s hs => ?_) fun s hs => ?_
    · obtain rfl : s = session := by simpa [Touched, detachments, closures] using hs
      exact htouched s (.inl (hphase.detached List.mem_cons_self))
    · simp at hs
  | misfit =>
    refine hgoesOn rfl hjob (by simpa using hphase) (fun s hs => ?_) (fun s hs => ?_)
    · simp [Touched, detachments, closures] at hs
    · simp at hs

end Steps

/-! ## Runs of a tick -/

section Runs

variable {past history : List ShadowLabel} {x y : Supervisor}

/-- **A tick from its start to any later state**, with everything else interleaved. -/
theorem tickInv_of_run (hpast : Lts.Run Step start past x)
    (hrun : Lts.Run Step x (⟨.pingTimer, []⟩ :: history) y) :
    TickInv x.container x.jobs.length (ofTick x.jobs.length history)
      (elsewhere x.jobs.length history) y := by
  obtain ⟨x', hstep, hrun⟩ := hrun.of_cons
  obtain rfl : x' = x.addJob (.check [] x.container.foyerGateUuidPairs) :=
    (congrArg Prod.snd hstep).symm
  have hstart : TickInv x.container x.jobs.length [] []
      (x.addJob (.check [] x.container.foyerGateUuidPairs)) := by
    refine ⟨⟨_, List.getElem?_concat_length, .check rfl (List.Perm.refl _) ?_⟩,
      fun s hs => .inl hs, ?_, fun s hs => absurd hs List.not_mem_nil⟩
    · intro s hs
      simp [Touched, detachments, closures] at hs
    · intro s hs
      simp [Touched, detachments, closures] at hs
  have howned : OwnedOnce (effectsOf past)
      (x.addJob (.check [] x.container.foyerGateUuidPairs)) := by
    simpa using (ownedOnce_of_run hpast).step hstep
  have hboth := hrun.historyInvariant
    (J := fun history y => OwnedOnce (effectsOf past ++ effectsOf history) y ∧
      TickInv x.container x.jobs.length (ofTick x.jobs.length history)
        (elsewhere x.jobs.length history) y) ?_ ⟨by simpa [effectsOf] using howned, hstart⟩
  · exact hboth.2
  · rintro ls s l t ⟨howned, htick⟩ hstep
    refine ⟨by simpa [effectsOf_concat] using howned.step hstep, ?_⟩
    by_cases hevent : l.event.job? = some x.jobs.length
    · rw [ofTick_concat_self hevent, elsewhere_concat_self hevent]
      exact htick.step_self (Step.did hstep) hevent howned.marked
    · rw [ofTick_concat_other hevent, elsewhere_concat_other hevent]
      exact htick.step_other (Step.did hstep) hevent howned.marked

/-- What a tick closes is closed once, and what it detaches is gone. -/
theorem ownedOnce_of_tick (hpast : Lts.Run Step start past x)
    (hrun : Lts.Run Step x (⟨.pingTimer, []⟩ :: history) y) (s : ShadowSession) :
    (closures (ofTick x.jobs.length history)).count s ≤ 1 ∧
      (s ∈ detachments (ofTick x.jobs.length history) → s ∉ y.container.sessions) := by
  have hall := ownedOnce_of_run (hpast.append hrun)
  have hsub : (ofTick x.jobs.length history).Sublist
      (effectsOf (past ++ ⟨.pingTimer, []⟩ :: history)) := by
    rw [effectsOf, List.flatMap_append, List.flatMap_cons]
    exact (ofTick_sublist _ history).trans (List.sublist_append_right _ _)
  constructor
  · have hless := hall.held s
    have hplace := hall.container s
    have honce := hall.once s
    have hclosures : (closures (ofTick x.jobs.length history)).Sublist
      (closures (effectsOf (past ++ ⟨.pingTimer, []⟩ :: history))) := hsub.filterMap _
    exact (hclosures.count_le s).trans (by omega)
  · exact fun hs => hall.notMem_of_detached ((hsub.filterMap _).subset hs)

/-- **A tick sweeps every gate that failed exactly when the sessions of all but the last of them
were detached by something else.** -/
theorem sweepsDeadGates_iff (hpast : Lts.Run Step start past x)
    (hrun : Lts.Run Step x (⟨.pingTimer, []⟩ :: history) y)
    (hend : y.jobs[x.jobs.length]? = some .done) :
    SweepsDeadGates x x.jobs.length history y ↔
      ∀ s ∈ x.container.sessions,
        s.foyerGateUuidPair ∈ failed (ofTick x.jobs.length history) →
        (failed (ofTick x.jobs.length history)).getLast? ≠ some s.foyerGateUuidPair →
          s ∈ detachments (elsewhere x.jobs.length history) := by
  obtain ⟨⟨job, hjob, hphase⟩, hthere, htouched, hmarks⟩ := tickInv_of_run hpast hrun
  obtain rfl : job = .done := Option.some.inj (hjob.symm.trans hend)
  have hclosed := fun s => (ownedOnce_of_tick hpast hrun s).1
  have hgone := fun s => (ownedOnce_of_tick hpast hrun s).2
  cases hphase with
  | done hperm hswept =>
  have hlast {s : ShadowSession} (hs : Touched (ofTick x.jobs.length history) s) :
      s.foyerGateUuidPair ∈ failed (ofTick x.jobs.length history) :=
    List.mem_of_getLast? (htouched s hs)
  constructor
  · intro hsweeps s hs hfailed hnotLast
    rcases hsweeps.dead s hs hfailed with hother | ⟨hdetached, _⟩
    · exact hother
    · exact absurd (htouched s (.inl hdetached)) hnotLast
  · intro hothers
    refine ⟨fun s hs => ?_, fun s hs hfailed => ?_, fun s hs halive => ?_⟩
    · have hpair : s.foyerGateUuidPair ∈ x.container.foyerGateUuidPairs :=
        SessionContainer.mem_foyerGateUuidPairs.mpr ⟨s, hs, rfl⟩
      exact (List.mem_append.mp (hperm.mem_iff.mpr hpair)).symm
    · by_cases hpair :
          (failed (ofTick x.jobs.length history)).getLast? = some s.foyerGateUuidPair
      · refine (hswept s hs hpair).imp_right fun ⟨hdetached, hdone⟩ => ?_
        obtain ⟨hmarked, hclosure⟩ := hdone.resolve_left List.not_mem_nil
        refine ⟨hdetached, hgone s hdetached, hmarked, hmarks s hmarked, ?_⟩
        exact Nat.le_antisymm (hclosed s) (List.count_pos_iff.mpr hclosure)
      · exact .inl (hothers s hs hfailed hpair)
    · have huntouched : ¬ Touched (ofTick x.jobs.length history) s := by
        intro htouched
        have hnodup := hperm.nodup_iff.mpr (List.nodup_dedup _)
        exact List.disjoint_of_nodup_append hnodup halive (hlast htouched)
      refine ⟨?_, fun h => huntouched (.inl h), fun h => huntouched (.inr (.inl h)),
        fun h => huntouched (.inr (.inr h))⟩
      exact (hthere s hs).imp_right fun h => h.resolve_left fun h => huntouched (.inl h)

/-- Where nothing else detaches a session, a tick sweeps every gate that failed exactly when at most
one did. -/
theorem sweepsDeadGates_iff_of_alone (hpast : Lts.Run Step start past x)
    (hrun : Lts.Run Step x (⟨.pingTimer, []⟩ :: history) y)
    (hend : y.jobs[x.jobs.length]? = some .done)
    (halone : detachments (elsewhere x.jobs.length history) = []) :
    SweepsDeadGates x x.jobs.length history y ↔
      (failed (ofTick x.jobs.length history)).length ≤ 1 := by
  rw [sweepsDeadGates_iff hpast hrun hend, halone]
  obtain ⟨⟨job, hjob, hphase⟩, -, -, -⟩ := tickInv_of_run hpast hrun
  obtain rfl : job = .done := Option.some.inj (hjob.symm.trans hend)
  cases hphase with
  | done hperm hswept =>
  generalize ofTick x.jobs.length history = tick at *
  constructor
  · intro hothers
    have hnodup : (failed tick).Nodup :=
      (List.nodup_append.mp (hperm.nodup_iff.mpr (List.nodup_dedup _))).2.1
    by_contra hlong
    obtain ⟨pair, rest, hfailed⟩ := List.exists_cons_of_length_pos
      (show 0 < (failed tick).length by omega)
    have hrest : rest ≠ [] := by
      rintro rfl
      simp [hfailed] at hlong
    have hpair : pair ∈ x.container.foyerGateUuidPairs :=
      hperm.mem_iff.mp (List.mem_append_right _ (hfailed ▸ List.mem_cons_self))
    obtain ⟨s, hs, rfl⟩ := SessionContainer.mem_foyerGateUuidPairs.mp hpair
    refine absurd (hothers s hs (hfailed ▸ List.mem_cons_self) fun hlast => ?_) List.not_mem_nil
    rw [hfailed, List.getLast?_cons_of_ne_nil hrest] at hlast
    exact (List.nodup_cons.mp (hfailed ▸ hnodup)).1 (List.mem_of_getLast? hlast)
  · intro hshort s hs hfailed hnotLast
    obtain ⟨pair, hpair⟩ := List.length_eq_one_iff.mp
      (Nat.le_antisymm hshort (List.length_pos_of_mem hfailed))
    rw [hpair] at hfailed hnotLast
    exact absurd (by simp [List.mem_singleton.mp hfailed]) hnotLast

end Runs

/-! ## Two gates that are gone -/

/-- Clients of two gates of one foyer server, and of a third one that is alive. -/
def sweepClients : List ShadowEvent :=
  [.websocketEstablishmentRequest 1 2 10 [] [], .attachSession 0 none,
    .websocketEstablishmentRequest 1 3 11 [] [], .attachSession 1 none,
    .websocketEstablishmentRequest 1 4 12 [] [], .attachSession 2 none]

/-- The checks end as `checks` says; then both turns of the loop. -/
def sweepTick (checks : List GateCheck) : List ShadowEvent :=
  checks.map (.checkGate 3) ++
    [.eraseRange 3, .markShutdown 3, .handleWebsocketClosure 3 false, .eraseRange 3]

def sweepStart : Supervisor := Lts.final next start sweepClients

theorem run_sweepClients : Lts.Run Step start (Lts.trace next start sweepClients) sweepStart :=
  Lts.Run.of_admits next (fun _ _ => True) (fun _ => rfl) start sweepClients (by decide +kernel)

/-- Two of the three gates are gone, and the client of the first of them stays attached. -/
def sweepFailing : List ShadowEvent :=
  sweepTick [.answered false, .foyerConnectionLost, .answered true]

theorem not_sweepsDeadGates :
    (∃ y, Lts.Run Step start (Lts.trace next start sweepClients) sweepStart ∧
      Lts.Run Step sweepStart (⟨.pingTimer, []⟩ ::
        Lts.trace next (sweepStart.handle .pingTimer).2 sweepFailing) y ∧
      y.jobs[3]? = some .done ∧
      ¬ SweepsDeadGates sweepStart 3
        (Lts.trace next (sweepStart.handle .pingTimer).2 sweepFailing) y) := by
  refine ⟨Lts.final next sweepStart (.pingTimer :: sweepFailing), run_sweepClients, ?_,
    by decide +kernel, fun h => ?_⟩
  · exact Lts.Run.of_admits next (fun _ _ => True) (fun _ => rfl) sweepStart
      (.pingTimer :: sweepFailing) (by decide +kernel)
  · have hdead := h.dead ⟨0, 1, 2, 10, [], []⟩ (by decide +kernel) (by decide +kernel)
    exact absurd hdead (by decide +kernel)

/-- One gate is gone, or its foyer server is. -/
def sweepTrial : List ShadowEvent :=
  sweepTick [.answered true, .foyerConnectionLost, .answered true]

theorem sweepsDeadGates_iff_trial :
    SweepsDeadGates sweepStart 3 (Lts.trace next (sweepStart.handle .pingTimer).2 sweepTrial)
      (Lts.final next sweepStart (.pingTimer :: sweepTrial)) := by
  have hrun : Lts.Run Step sweepStart (⟨.pingTimer, []⟩ ::
      Lts.trace next (sweepStart.handle .pingTimer).2 sweepTrial) _ :=
    Lts.Run.of_admits next (fun _ _ => True) (fun _ => rfl) sweepStart (.pingTimer :: sweepTrial)
      (by decide +kernel)
  exact (sweepsDeadGates_iff run_sweepClients hrun (by decide +kernel)).mpr (by decide +kernel)

end Circe.Box
