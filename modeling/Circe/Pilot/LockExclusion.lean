import Circe.Pilot.ServerSteps

/-!
# Pilot/LockExclusion — a lock that was granted keeps others out

A granted lock is an entry in the lock table of a compass object, and lasts as long as the object.
The collector drops objects by last access time alone, and a compass that was never written has
none, so the exclusion is lost to a tick; while every tick spares the compasses in use it holds over
whole runs.
-/

namespace Circe.Pilot

open Protocol.Pilot

/-! ## What a reply says about locks -/

/-- The reply tells `c` that its request on `k` with this lock disposition succeeded. -/
def Label.Succeeded (sha256 : Bytes → Sha256) (l : Label) (c : Connection) (k : CompassKey)
    (lockDisposition : ℕ) : Prop :=
  ∃ a ∈ l.access sha256, a.connection = c ∧ a.compassKey = k ∧ a.succeeded = true ∧
    a.lockDisposition = lockDisposition

instance (sha256 : Bytes → Sha256) (l : Label) (c : Connection) (k : CompassKey) (n : ℕ) :
    Decidable (l.Succeeded sha256 c k n) :=
  inferInstanceAs (Decidable (∃ a ∈ l.access sha256, _ ∧ _ ∧ _ ∧ _))

/-- The reply tells `c` that it changed the value of `k`. -/
def Label.Wrote (sha256 : Bytes → Sha256) (l : Label) (c : Connection) (k : CompassKey) : Prop :=
  ∃ a ∈ l.access sha256, a.connection = c ∧ a.compassKey = k ∧ a.written.isSome

instance (sha256 : Bytes → Sha256) (l : Label) (c : Connection) (k : CompassKey) :
    Decidable (l.Wrote sha256 c k) :=
  inferInstanceAs (Decidable (∃ a ∈ l.access sha256, _ ∧ _ ∧ _))

section Grants

variable {a : Access}

theorem Access.grant_of_succeeded (h : a.succeeded = true) {counts : ℤ × ℤ}
    (hcounts : lockDispositionCounts a.lockDisposition = .ok counts) : a.grant = counts := by
  rw [Access.grant_eq hcounts, if_pos h]

theorem Access.released_of_grant_neg :
    (a.grant.1 < 0 → a.succeeded = true ∧ a.lockDisposition = lockReleaseShared) ∧
      (a.grant.2 < 0 → a.succeeded = true ∧ a.lockDisposition = lockReleaseExclusive) := by
  cases hcounts : lockDispositionCounts a.lockDisposition with
  | error e =>
    have hgrant : a.grant = (0, 0) := by
      rw [Access.grant, hcounts]
      cases a.succeeded <;> rfl
    simp [hgrant]
  | ok counts =>
    obtain ⟨hs, hx⟩ := lockDispositionCounts_neg hcounts
    rw [Access.grant_eq hcounts]
    cases a.succeeded
    · simp
    · exact ⟨fun h => ⟨rfl, hs h⟩, fun h => ⟨rfl, hx h⟩⟩

end Grants

/-! ## The condition -/

/-- A tick collects no compass in whose lock a live connection stands. -/
def SparesHolders (s : Server) : Event → Prop
  | .gcTimer utcNow expiryDuration =>
    ∀ e ∈ s.repository.container,
      e.lastAccessTime ≤ CompassRepository.expiryTime utcNow expiryDuration →
        ∀ c ∈ s.live, e.compass.object.lock.shared c = 0 ∧ e.compass.object.lock.exclusive c = 0
  | _ => True

instance (s : Server) : DecidablePred (SparesHolders s)
  | .gcTimer .. => inferInstanceAs (Decidable (∀ e ∈ s.repository.container, _ →
    ∀ c ∈ s.live, _ ∧ _))
  | .connect _ | .shutdown _ | .die _ | .compareExchange .. | .exchange .. | .addWatch ..
  | .removeWatch .. => inferInstanceAs (Decidable True)

section Exclusion

variable {sha256 : Bytes → Sha256} {s t : Server} {l : Label} {A B : Connection} {k : CompassKey}

/-! ## One step -/

/-- **A held lock stays held**: what a step can take from a live connection is what that connection
releases. -/
theorem Step.held (hinv : s.Inv) (h : Step sha256 s l t) (hspares : SparesHolders s l.event)
    (hA : A ∈ t.live) :
    (0 < (s.compass k).lock.shared A → ¬ l.Succeeded sha256 A k lockReleaseShared →
        0 < (t.compass k).lock.shared A) ∧
      (0 < (s.compass k).lock.exclusive A → ¬ l.Succeeded sha256 A k lockReleaseExclusive →
        0 < (t.compass k).lock.exclusive A) := by
  cases h.compass hinv k with
  | access a q ha hk hc hr hh ht =>
    have hshared := hh.changed.shared A (Server.alive_iff.mpr hA)
    have hexclusive := hh.changed.exclusive A (Server.alive_iff.mpr hA)
    rw [ht.lock]
    obtain ⟨hs, hx⟩ := Access.released_of_grant_neg (a := a)
    constructor <;> intro hpos hkept
    · by_cases hself : a.connection = A
      · have hnonneg : 0 ≤ a.grant.1 := by
          by_contra hneg
          obtain ⟨hsucceeded, hdisposition⟩ := hs (by omega)
          exact hkept ⟨a, ha, hself, hk, hsucceeded, hdisposition⟩
        rw [if_pos hself] at hshared
        omega
      · rw [if_neg hself] at hshared
        omega
    · by_cases hself : a.connection = A
      · have hnonneg : 0 ≤ a.grant.2 := by
          by_contra hneg
          obtain ⟨hsucceeded, hdisposition⟩ := hx (by omega)
          exact hkept ⟨a, ha, hself, hk, hsucceeded, hdisposition⟩
        rw [if_pos hself] at hexclusive
        omega
      · rw [if_neg hself] at hexclusive
        omega
  | addWatch c req w he hk hr hs ht =>
    rw [ht.lock, Server.addWatchServlet_compass]
    exact ⟨fun h _ => h, fun h _ => h⟩
  | removeWatch c ntfy he hk hs ht =>
    rw [ht.lock]
    exact ⟨fun h _ => h, fun h _ => h⟩
  | collected utcNow expiryDuration he e hmem hobject htime ht =>
    -- The condition: nobody alive stands in the lock of a compass that goes.
    rw [he] at hspares
    have hlive : A ∈ s.live := by
      rcases h.live_cases with ⟨-, hlive⟩ | ⟨c, hconnect, -⟩
      · exact hlive A hA
      · rw [he] at hconnect
        exact absurd hconnect (by simp)
    obtain ⟨hs, hx⟩ := hspares e hmem htime A hlive
    rw [hobject] at hs hx
    exact ⟨fun h => absurd h (by omega), fun h => absurd h (by omega)⟩
  | kept hk ht =>
    rw [ht]
    exact ⟨fun h _ => h, fun h _ => h⟩

/-- The step of a label that is an access. -/
theorem Step.handled (hinv : s.Inv) (h : Step sha256 s l t) {a : Access}
    (ha : a ∈ l.access sha256) :
    a.connection ∈ s.live ∧ ∃ q, Handled t.alive s.shut a.connection a.grant a.written
        (s.compass a.compassKey) q l.sent ∧ q.Touched (t.compass a.compassKey) := by
  have hkey := Label.compassKey_of_access ha
  cases h.compass hinv a.compassKey with
  | access a' q ha' _ hc _ hh ht =>
    obtain rfl : a = a' := Option.some.inj (ha.symm.trans ha')
    exact ⟨hc.1, q, hh, ht⟩
  | addWatch c req w he => simp [Label.access, he] at ha
  | removeWatch c ntfy he => simp [Label.access, he] at ha
  | collected _ _ he => simp [Label.access, he] at ha
  | kept hk => exact absurd hkey hk

/-- **A lock that was granted is held.** -/
theorem Step.acquired (hinv : s.Inv) (h : Step sha256 s l t) (hA : A ∈ t.live) :
    (l.Succeeded sha256 A k lockTryAcquireShared → 0 < (t.compass k).lock.shared A) ∧
      (l.Succeeded sha256 A k lockTryAcquireExclusive → 0 < (t.compass k).lock.exclusive A) := by
  constructor <;> rintro ⟨a, ha, rfl, rfl, hsucceeded, hdisposition⟩
  all_goals
    obtain ⟨-, q, hh, ht⟩ := h.handled hinv ha
    have hcounts := congrArg lockDispositionCounts hdisposition
    have hgrant := Access.grant_of_succeeded hsucceeded (hcounts.trans rfl)
    rw [ht.lock]
  · have hshared := hh.changed.shared_self (Server.alive_iff.mpr hA)
    rw [hgrant] at hshared
    simp only at hshared
    omega
  · have hexclusive := hh.changed.exclusive_self (Server.alive_iff.mpr hA)
    rw [hgrant] at hexclusive
    simp only at hexclusive
    omega

/-- **A held lock keeps others out.** -/
theorem Step.excluded (hinv : s.Inv) (h : Step sha256 s l t) (hA : A ∈ t.live) (hne : B ≠ A) :
    (0 < (s.compass k).lock.shared A ∨ 0 < (s.compass k).lock.exclusive A →
        ¬ l.Succeeded sha256 B k lockTryAcquireExclusive ∧ ¬ l.Wrote sha256 B k) ∧
      (0 < (s.compass k).lock.exclusive A → ¬ l.Succeeded sha256 B k lockTryAcquireShared) := by
  have hfree : ∀ a ∈ l.access sha256, a.connection = B → a.compassKey = k →
      a.written.isSome ∨ 0 < a.grant.2 →
        (s.compass k).lock.shared A = 0 ∧ (s.compass k).lock.exclusive A = 0 := by
    rintro a ha rfl rfl hwants
    obtain ⟨-, q, hh, -⟩ := h.handled hinv ha
    exact hh.othersFree hwants A (Server.alive_iff.mpr hA) hne.symm
  refine ⟨fun hheld => ⟨?_, ?_⟩, fun hheld => ?_⟩
  · rintro ⟨a, ha, hB, hk, hsucceeded, hdisposition⟩
    have hcounts := congrArg lockDispositionCounts hdisposition
    have hgrant := Access.grant_of_succeeded hsucceeded (hcounts.trans rfl)
    have := hfree a ha hB hk (Or.inr (by rw [hgrant]; decide))
    omega
  · rintro ⟨a, ha, hB, hk, hwritten⟩
    have := hfree a ha hB hk (Or.inl hwritten)
    omega
  · rintro ⟨a, ha, rfl, rfl, hsucceeded, hdisposition⟩
    obtain ⟨-, q, hh, -⟩ := h.handled hinv ha
    have hcounts := congrArg lockDispositionCounts hdisposition
    have hgrant := Access.grant_of_succeeded hsucceeded (hcounts.trans rfl)
    have := hh.othersRead (by rw [hgrant]; decide) A (Server.alive_iff.mpr hA) hne.symm
    omega

/-! ## Whole runs -/

/-- What was granted to `A` by the first label is still held after the run, unless released. -/
theorem Server.held_of_run (hinv : s.Inv) {u : Server} {ls : List Label}
    (hfirst : Step sha256 s l t)
    (hrun : Lts.Run (Lts.Guarded (Step sha256) fun s l => SparesHolders s l.event) t ls u)
    (hA : A ∈ u.live) :
    (l.Succeeded sha256 A k lockTryAcquireShared →
        (∀ m ∈ ls, ¬ m.Succeeded sha256 A k lockReleaseShared) →
          0 < (u.compass k).lock.shared A) ∧
      (l.Succeeded sha256 A k lockTryAcquireExclusive →
        (∀ m ∈ ls, ¬ m.Succeeded sha256 A k lockReleaseExclusive) →
          0 < (u.compass k).lock.exclusive A) := by
  have hseen : (l.Succeeded sha256 A k lockTryAcquireShared ∨
      l.Succeeded sha256 A k lockTryAcquireExclusive) → A ∈ t.seen := by
    rintro (⟨a, ha, rfl, -⟩ | ⟨a, ha, rfl, -⟩) <;>
      exact hfirst.seen_of_seen (hinv.liveSeen _ (hfirst.handled hinv ha).1)
  have ht := hfirst.inv hinv
  induction hrun with
  | nil =>
    obtain ⟨hs, hx⟩ := hfirst.acquired hinv hA
    exact ⟨fun h _ => hs h, fun h _ => hx h⟩
  | @snoc u v ls m hpre hlast ih =>
    have hu := Server.inv_of_run ht hpre.of_guarded
    have hstays : A ∈ t.seen → A ∈ u.seen := hpre.of_guarded.invariant
      (I := fun u => A ∈ u.seen) fun h hstep => Step.seen_of_seen hstep h
    have hback : A ∈ t.seen → A ∈ u.live := fun h => hlast.2.live_of_seen (hstays h) hA
    constructor <;> intro hgrant hkept
    · exact (hlast.2.held hu hlast.1 hA).1
        ((ih (hback (hseen (Or.inl hgrant)))).1 hgrant fun m' hm' =>
          hkept m' (List.mem_append_left _ hm'))
        (hkept m (by simp))
    · exact (hlast.2.held hu hlast.1 hA).2
        ((ih (hback (hseen (Or.inr hgrant)))).2 hgrant fun m' hm' =>
          hkept m' (List.mem_append_left _ hm'))
        (hkept m (by simp))

/-- **Lock exclusion over whole runs** of `step`: while `A` lives and has not released what it
was granted on `k`, an exclusive lock keeps every other connection from acquiring a lock and
from changing the value, and a shared lock from acquiring an exclusive lock and from changing
the value. -/
def LockExclusion (sha256 : Bytes → Sha256) (step : Server → Label → Server → Prop) : Prop :=
  ∀ ⦃s₀ s t : Server⦄ ⦃ls₁ ls₂ : List Label⦄ ⦃granting l : Label⦄ ⦃A B : Connection⦄
    ⦃k : CompassKey⦄, s₀.Started → Lts.Run step s₀ (ls₁ ++ granting :: ls₂) s → step s l t →
    A ∈ t.live → B ≠ A →
      (granting.Succeeded sha256 A k lockTryAcquireExclusive →
        (∀ m ∈ ls₂, ¬ m.Succeeded sha256 A k lockReleaseExclusive) →
          ¬ l.Succeeded sha256 B k lockTryAcquireShared ∧
            ¬ l.Succeeded sha256 B k lockTryAcquireExclusive ∧ ¬ l.Wrote sha256 B k) ∧
      (granting.Succeeded sha256 A k lockTryAcquireShared →
        (∀ m ∈ ls₂, ¬ m.Succeeded sha256 A k lockReleaseShared) →
          ¬ l.Succeeded sha256 B k lockTryAcquireExclusive ∧ ¬ l.Wrote sha256 B k)

/-- **Lock exclusion holds in every run whose ticks spare the compasses in use.** -/
theorem lockExclusion_of_sparesHolders (sha256 : Bytes → Sha256) :
    LockExclusion sha256 (Lts.Guarded (Step sha256) fun s l => SparesHolders s l.event) := by
  intro s₀ s t ls₁ ls₂ granting l A B k hstarted hrun hlast hA hne
  obtain ⟨u, v, hpre, hgranting, hpost⟩ := hrun.split
  have hu := Server.inv_of_run hstarted.inv hpre.of_guarded
  have hs := Server.inv_of_run (hgranting.2.inv hu) hpost.of_guarded
  -- Whoever is told of a grant has been seen, so `A` was alive all along.
  have hlive : (granting.Succeeded sha256 A k lockTryAcquireShared ∨
      granting.Succeeded sha256 A k lockTryAcquireExclusive) → A ∈ s.live := by
    intro hgrant
    have hseen : A ∈ v.seen := by
      rcases hgrant with ⟨a, ha, rfl, -⟩ | ⟨a, ha, rfl, -⟩ <;>
        exact hgranting.2.seen_of_seen (hu.liveSeen _ (hgranting.2.handled hu ha).1)
    exact hlast.2.live_of_seen (hpost.of_guarded.invariant (I := fun u => A ∈ u.seen)
      (fun h hstep => Step.seen_of_seen hstep h) hseen) hA
  obtain ⟨hout, houtShared⟩ := hlast.2.excluded (k := k) hs hA hne
  constructor <;> intro hgrant hkept
  · have hheld := (Server.held_of_run hu hgranting.2 hpost (hlive (Or.inr hgrant))).2 hgrant hkept
    exact ⟨houtShared hheld, hout (Or.inr hheld)⟩
  · have hheld := (Server.held_of_run hu hgranting.2 hpost (hlive (Or.inl hgrant))).1 hgrant hkept
    exact hout (Or.inl hheld)

end Exclusion

/-! ## A race for a lock

`A` asks for the exclusive lock of the empty key, a tick comes a minute later at the default expiry
duration, and `B` asks for the exclusive lock. -/

def lockRaceStart : List Event := [.connect ⟨0, 1⟩, .connect ⟨1, 2⟩]

def lockRaceAsk (request : CompareExchangeRequest) : Event :=
  .compareExchange ⟨0, 1⟩ request 1500000000000 []

def lockRaceTick : List Event := [.gcTimer 1500000060000 86400000]

/-- The server `B` asks. -/
def lockRaced (request : CompareExchangeRequest) : Server :=
  emptyServer.after emptySha256 (lockRaceStart ++ lockRaceAsk request :: lockRaceTick)

def lockRaceRival : Event := .compareExchange ⟨1, 2⟩ ⟨[], [], 12⟩ 1500000060000 []

/-- Nothing is written, so the compass has no last access time and the tick collects it: both get
the exclusive lock. -/
theorem not_lockExclusion : ¬ LockExclusion emptySha256 (Step emptySha256) := by
  intro h
  have hrun := Server.run_labels emptySha256 (fun _ _ => True) emptyServer lockRaceStart
    (lockRaceAsk ⟨[], [], 12⟩) lockRaceTick (by decide +kernel)
  have hrival : (lockRaced ⟨[], [], 12⟩).Admits lockRaceRival := by decide +kernel
  have hout := h emptyServer_started hrun.of_guarded (Server.step_perform hrival) (A := ⟨0, 1⟩)
    (B := ⟨1, 2⟩) (k := .fromHashOf emptySha256 []) (by decide +kernel) (by decide)
  exact (hout.1 (by decide +kernel) (by decide +kernel)).2.1 (by decide +kernel)

/-- Where `A` writes, the compass is kept and `B` does not get the lock. -/
theorem lockExclusion_of_sparesHolders_race :
    ¬ ((lockRaced ⟨[], [⟨[], [1]⟩], 12⟩).perform emptySha256 lockRaceRival).1.Succeeded emptySha256
      ⟨1, 2⟩ (.fromHashOf emptySha256 []) lockTryAcquireExclusive := by
  have hrun := Server.run_labels emptySha256 SparesHolders emptyServer lockRaceStart
    (lockRaceAsk ⟨[], [⟨[], [1]⟩], 12⟩) lockRaceTick (by decide +kernel)
  have hrival : (lockRaced ⟨[], [⟨[], [1]⟩], 12⟩).Admits lockRaceRival := by decide +kernel
  have hspares : SparesHolders (lockRaced ⟨[], [⟨[], [1]⟩], 12⟩) lockRaceRival := trivial
  have hout := lockExclusion_of_sparesHolders emptySha256 emptyServer_started hrun
    (Server.guarded_perform hspares hrival) (A := ⟨0, 1⟩) (B := ⟨1, 2⟩)
    (k := .fromHashOf emptySha256 []) (by decide +kernel) (by decide)
  exact (hout.1 (by decide +kernel) (by decide +kernel)).2.1

end Circe.Pilot
