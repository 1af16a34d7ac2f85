import Circe.Pilot.Compass
import Mathlib.Tactic.Linarith

/-!
# Pilot/Servlets — what a pilot server does to a compass for a request

Connections may die while a servlet runs, so a servlet is given who is alive at each of its looks at
weak pointers (`Liveness`).  Three layers:

* the source's functions, from `parseLockDisposition` to the two servlets;
* `commitLockDisposition_spec` — under the lock's invariant no assertion of the commit can fail;
* `Handled` — all that a request does to a compass, in one statement for both servlets.
-/

namespace Circe.Pilot

open Protocol.Pilot

/-- Who is alive at the `n`-th look of a servlet. -/
abbrev Liveness := ℕ → Alive

/-- The looks from the `k`-th on. -/
def Liveness.after (alive : Liveness) (k : ℕ) : Liveness := fun n => alive (k + n)

/-- Nobody comes back to life, the caller is kept alive, and UUIDs tell the living apart. -/
structure Liveness.Ok (alive : Liveness) (c : Connection) : Prop where
  anti : ∀ {i j}, i ≤ j → ∀ d, alive j d → alive i d
  self : ∀ i, alive i c
  distinct : DistinctUuids (alive 0)

namespace Liveness.Ok

variable {alive : Liveness} {c : Connection}

theorem distinct_at (h : alive.Ok c) (i : ℕ) : DistinctUuids (alive i) := fun d e hd he =>
  h.distinct d e (h.anti (Nat.zero_le i) d hd) (h.anti (Nat.zero_le i) e he)

theorem after (h : alive.Ok c) (k : ℕ) : (alive.after k).Ok c where
  anti hij := h.anti (Nat.add_le_add_left hij k)
  self i := h.self (k + i)
  distinct := h.distinct_at (k + 0)

end Liveness.Ok

/-! ## The source's functions -/

/-- The `switch` of `parse_lock_disposition`: how many shared and exclusive locks to take. -/
def lockDispositionCounts (lockDisposition : ℕ) : Except Exception (ℤ × ℤ) :=
  if lockDisposition = lockLeaveAlone then .ok (0, 0)
  else if lockDisposition = lockTryAcquireShared then .ok (1, 0)
  else if lockDisposition = lockTryAcquireExclusive then .ok (0, 1)
  else if lockDisposition = lockReleaseShared then .ok (-1, 0)
  else if lockDisposition = lockReleaseExclusive then .ok (0, -1)
  else .error (.exception "Unknown lock_disposition")

/-- `parse_lock_disposition`, from the `numeric_cast` of its argument on. -/
def parseLockDisposition (alive : Liveness) (connection : Connection) (lockDisposition : UInt64)
    (l : CompassLock) : Except Exception (ℤ × ℤ) × CompassLock :=
  if 2 ^ 32 ≤ lockDisposition.toNat then (.error .badNumericCast, l) else
  match lockDispositionCounts lockDisposition.toNat with
  | .error e => (.error e, l)
  | .ok (shared, exclusive) =>
    let (heldShared, l) :=
      if shared < 0 then l.isLockedSharedBy (alive 0) connection.connectionUuid else (true, l)
    if !heldShared then
      (.error (.assertion "compass->is_locked_shared_by(connection->get_connection_uuid())"), l)
    else
      let (heldExclusive, l) :=
        if exclusive < 0 then l.isLockedExclusiveBy (alive 1) connection.connectionUuid
        else (true, l)
      if !heldExclusive then
        (.error (.assertion "compass->is_locked_exclusive_by(connection->get_connection_uuid())"), l)
      else
        (.ok (shared, exclusive), l)

/-- Go on with `f` unless an assertion failed. -/
def andThen (r : Except Exception Unit × CompassLock)
    (f : CompassLock → Except Exception Unit × CompassLock) : Except Exception Unit × CompassLock :=
  match r with
  | (.ok (), l) => f l
  | (.error e, l) => (.error e, l)

theorem andThen_of_ok {r : Except Exception Unit × CompassLock}
    {f : CompassLock → Except Exception Unit × CompassLock} (h : r.1 = .ok ()) :
    andThen r f = f r.2 := by
  obtain ⟨_, l⟩ := r
  cases h
  rfl

/-- A loop of `commit_lock_disposition`: assert that `op` succeeds, `n` times. -/
def assertTimes (expr : String) (op : Alive → CompassLock → Bool × CompassLock) :
    Liveness → ℕ → CompassLock → Except Exception Unit × CompassLock
  | _, 0, l => (.ok (), l)
  | alive, n + 1, l =>
    match op (alive 0) l with
    | (true, l) => assertTimes expr op (alive.after 1) n l
    | (false, l) => (.error (.assertion expr), l)

def commitLockDisposition (alive : Liveness) (connection : Connection) (shared exclusive : ℤ)
    (l : CompassLock) : Except Exception Unit × CompassLock :=
  let x := exclusive.toNat
  let s := shared.toNat
  let x' := (-exclusive).toNat
  let s' := (-shared).toNat
  andThen (assertTimes "compass->try_lock_exclusive(connection)"
    (fun a => CompassLock.tryLockExclusive a connection) alive x l) fun l =>
  andThen (assertTimes "compass->try_lock_shared(connection)"
    (fun a => CompassLock.tryLockShared a connection) (alive.after x) s l) fun l =>
  andThen (assertTimes "compass->release_lock_exclusive(connection)"
    (fun a => CompassLock.releaseLockExclusive a connection) (alive.after (x + s)) x' l) fun l =>
  assertTimes "compass->release_lock_shared(connection)"
    (fun a => CompassLock.releaseLockShared a connection) (alive.after (x + s + x')) s' l

def getCompassLockState (alive : Liveness) (connection : Connection) (l : CompassLock) :
    ℕ × CompassLock :=
  let (b, l) := l.isLockedExclusiveBy (alive 0) connection.connectionUuid
  if b then (lockExclusiveByMe, l) else
  let (b, l) := l.isLockedExclusive (alive 1)
  if b then (lockExclusiveByOthers, l) else
  let (b, l) := l.isLockedSharedBy (alive 2) connection.connectionUuid
  if b then (lockSharedByMe, l) else
  let (b, l) := l.isLockedShared (alive 3)
  if b then (lockSharedByOthers, l) else (lockFreeForAcquisition, l)

/-- The part of both servlets under `if(locked)`: write the value, if there is one to write, and
commit the lock disposition.  Answers `succeeded`. -/
def updateLocked (alive : Liveness) (shut : Alive) (connection : Connection) (locked : Bool)
    (valueNew : Option Bytes) (shared exclusive : ℤ) (p : Compass) : Outcome Bool :=
  if locked then
    let written : Outcome Unit :=
      match valueNew with
      | some v => p.setValue (alive 0) (alive 1) shut v
      | none => ⟨.ok (), p, []⟩
    written.andThen fun _ p =>
      let (committed, lock) :=
        commitLockDisposition (alive.after 2) connection shared exclusive p.lock
      ⟨committed.map fun _ => true, { p with lock := lock }, []⟩
  else
    ⟨.ok false, p, []⟩

/-- The servlet of `Compare_exchange_request`, up to `update_last_access_time`. -/
def compareExchangeServlet (alive : Liveness) (shut : Alive) (connection : Connection)
    (req : CompareExchangeRequest) (p : Compass) : Outcome CompareExchangeResponse :=
  let (parsed, lock) := parseLockDisposition alive connection req.lockDisposition p.lock
  match parsed with
  | .error e => ⟨.error e, { p with lock := lock }, []⟩
  | .ok (shared, exclusive) =>
    let valueOld := p.getValue
    let versionOld := p.getVersion
    -- Search for the first match.
    let criterionIndex := req.criteria.findIdx fun criterion => criterion.valueCmp = valueOld
    let (locked, lock, shared, exclusive) : Bool × CompassLock × ℤ × ℤ :=
      if !req.criteria.isEmpty && req.criteria.length ≤ criterionIndex then
        -- Don't lock the value if the comparison fails.
        (false, lock, shared, exclusive)
      else if req.criteria.isEmpty && exclusive ≤ 0 then
        -- Ask for shared locking if the value isn't to be modified.
        let (locked, lock) := lock.tryLockShared (alive 2) connection
        (locked, lock, shared - (if locked then 1 else 0), exclusive)
      else
        -- Otherwise, ask for exclusive locking.
        let (locked, lock) := lock.tryLockExclusive (alive 2) connection
        (locked, lock, shared, exclusive - (if locked then 1 else 0))
    let valueNew := req.criteria[criterionIndex]?.map Criterion.valueNew
    (updateLocked (alive.after 3) shut connection locked valueNew shared exclusive
      { p with lock := lock }).andThen fun succeeded p =>
    let (lockState, lock) := getCompassLockState (alive.after 9) connection p.lock
    ⟨.ok ⟨valueOld, versionOld, succeeded, criterionIndex, lockState⟩, { p with lock := lock }, []⟩

/-- The servlet of `Exchange_request`, up to `update_last_access_time`. -/
def exchangeServlet (alive : Liveness) (shut : Alive) (connection : Connection)
    (req : ExchangeRequest) (p : Compass) : Outcome ExchangeResponse :=
  let (parsed, lock) := parseLockDisposition alive connection req.lockDisposition p.lock
  match parsed with
  | .error e => ⟨.error e, { p with lock := lock }, []⟩
  | .ok (shared, exclusive) =>
    let valueOld := p.getValue
    let versionOld := p.getVersion
    -- Ask for exclusive locking.
    let (locked, lock) := lock.tryLockExclusive (alive 2) connection
    let exclusive := exclusive - (if locked then 1 else 0)
    (updateLocked (alive.after 3) shut connection locked (some req.valueNew) shared exclusive
      { p with lock := lock }).andThen fun succeeded p =>
    let (lockState, lock) := getCompassLockState (alive.after 9) connection p.lock
    ⟨.ok ⟨valueOld, versionOld, succeeded, lockState⟩, { p with lock := lock }, []⟩

/-! ## From look to look

`Reached alive c i s x l l'`: by look `i` the table went from `l` to `l'`, keeps its invariant, and
of all live connections only `c`'s counts moved, by `s` and `x`. -/

structure Reached (alive : Liveness) (c : Connection) (i : ℕ) (s x : ℤ) (l l' : CompassLock) :
    Prop where
  inv : l'.Inv (alive i)
  changed : CompassLock.Changed (alive i) c s x l l'

section Reached

variable {alive : Liveness} {c : Connection} {i j : ℕ} {s s' x x' : ℤ} {l l' l'' : CompassLock}

theorem Reached.refl (h : l.Inv (alive i)) : Reached alive c i 0 0 l l :=
  ⟨h, CompassLock.Changed.refl _ _ _⟩

theorem Reached.later (hok : alive.Ok c) (h : Reached alive c i s x l l') (hij : i ≤ j) :
    Reached alive c j s x l l' :=
  ⟨h.inv.anti (hok.anti hij), h.changed.anti (hok.anti hij)⟩

theorem Reached.trans (h : Reached alive c i s x l l') (hok : alive.Ok c) (hij : i ≤ j)
    (h' : Reached alive c j s' x' l' l'') : Reached alive c j (s + s') (x + x') l l'' :=
  ⟨h'.inv, (h.later hok hij).changed.trans h'.changed⟩

/-- Looks counted from the `k`-th on, counted from the start. -/
theorem Reached.of_after {k : ℕ} (h : Reached (alive.after k) c i s x l l') :
    Reached alive c (k + i) s x l l' := ⟨h.inv, h.changed⟩

theorem Reached.after {k : ℕ} (hok : alive.Ok c) (h : Reached alive c i s x l l') (hik : i ≤ k) :
    Reached (alive.after k) c 0 s x l l' :=
  ⟨h.inv.anti (hok.anti hik), h.changed.anti (hok.anti hik)⟩

/-- **One operation at look `i`.** -/
theorem Reached.of_effect {r : Bool × CompassLock} (h : CompassLock.Effect (alive i) c s x l r) :
    Reached alive c i (if r.1 then s else 0) (if r.1 then x else 0) l r.2 := ⟨h.inv, h.changed⟩

theorem Reached.ite {b : Bool} {r r' : ℕ × CompassLock} (h : Reached alive c i s x l r.2)
    (h' : Reached alive c i s x l r'.2) : Reached alive c i s x l (if b then r else r').2 := by
  cases b
  · exact h'
  · exact h

theorem Reached.exclusiveFree (h : Reached alive c i s x l l') {d : Connection} (hd : alive i d)
    (hne : d ≠ c) (hfree : l.shared d = 0 ∧ l.exclusive d = 0) :
    l'.shared d = 0 ∧ l'.exclusive d = 0 := by
  rwa [h.changed.shared_other hd hne, h.changed.exclusive_other hd hne]

end Reached

/-! ## The commit cannot fail -/

section Commit

variable {c : Connection} {s x : ℤ}

/-- **The loop rule.**  If `op` succeeds wherever `P` holds with a turn left, and keeps `P`, then
all the turns succeed and the amounts add up. -/
theorem assertTimes_spec (expr : String) (op : Alive → CompassLock → Bool × CompassLock)
    (P : Alive → ℕ → CompassLock → Prop)
    (hanti : ∀ {a a' : Alive} {n l}, (∀ d, a' d → a d) → P a n l → P a' n l)
    (hop : ∀ {a : Alive} {n l}, DistinctUuids a → a c → l.Inv a → P a (n + 1) l →
      (op a l).1 = true ∧ CompassLock.Effect a c s x l (op a l) ∧ P a n (op a l).2) :
    ∀ (n : ℕ) {alive : Liveness} {l : CompassLock}, alive.Ok c → l.Inv (alive 0) →
      P (alive 0) n l →
      (assertTimes expr op alive n l).1 = .ok () ∧
        Reached alive c n (n * s) (n * x) l (assertTimes expr op alive n l).2 := by
  intro n
  induction n with
  | zero =>
    intro alive l _ hinv _
    exact ⟨rfl, by simpa [assertTimes] using Reached.refl hinv⟩
  | succ n ih =>
    intro alive l hok hinv hP
    obtain ⟨htrue, heff, hP'⟩ := hop (hok.distinct_at 0) (hok.self 0) hinv hP
    have hone := @Reached.of_effect alive c 0 s x l _ heff
    rw [htrue, if_pos rfl, if_pos rfl] at hone
    have hrest := ih (hok.after 1) (hone.later hok (Nat.zero_le 1)).inv
      (hanti (hok.anti (Nat.zero_le 1)) hP')
    have heq : assertTimes expr op alive (n + 1) l
        = assertTimes expr op (alive.after 1) n (op (alive 0) l).2 := by
      rw [assertTimes]
      split
      case h_1 l' h => rw [h]
      case h_2 l' h => rw [h] at htrue; exact absurd htrue (by simp)
    rw [heq]
    refine ⟨hrest.1, ?_⟩
    have := hone.trans hok (Nat.zero_le (n + 1)) (Nat.add_comm 1 n ▸ hrest.2.of_after)
    convert this using 1 <;> push_cast <;> ring

variable {alive : Liveness} {l : CompassLock}

/-- Nobody else alive holds anything. -/
def OthersFree (a : Alive) (c : Connection) (l : CompassLock) : Prop :=
  ∀ d, a d → d ≠ c → l.shared d = 0 ∧ l.exclusive d = 0

/-- Nobody else alive is a writer. -/
def OthersRead (a : Alive) (c : Connection) (l : CompassLock) : Prop :=
  ∀ d, a d → d ≠ c → l.exclusive d = 0

/-- **`commit_lock_disposition` moves the caller's counts by exactly the amounts it is given** — no
assertion fails if the locks to take are free and the locks to release are held. -/
theorem commitLockDisposition_spec (shared exclusive : ℤ) (hok : alive.Ok c)
    (hinv : l.Inv (alive 0))
    (hx : 0 < exclusive → OthersFree (alive 0) c l) (hs : 0 < shared → OthersRead (alive 0) c l)
    (hrx : 0 ≤ l.exclusive c + exclusive) (hrs : 0 ≤ l.shared c + shared) :
    (commitLockDisposition alive c shared exclusive l).1 = .ok () ∧
      Reached alive c (exclusive.natAbs + shared.natAbs) shared exclusive l
        (commitLockDisposition alive c shared exclusive l).2 := by
  -- Acquire the exclusive locks.
  obtain ⟨hok₁, h₁⟩ := assertTimes_spec (c := c) (s := 0) (x := 1)
    "compass->try_lock_exclusive(connection)"
    (fun a => CompassLock.tryLockExclusive a c)
    (fun a n l => 0 < n → OthersFree a c l)
    (fun hsub hP hn d hd => hP hn d (hsub d hd))
    (fun {a n l} hdist hc hinv hP => by
      have hfree := hP n.succ_pos
      have heff := CompassLock.tryLockExclusive_effect hinv hdist hc
      refine ⟨(CompassLock.tryLockExclusive_iff hinv hdist hc).mpr hfree, heff,
        fun _ d hd hne => ?_⟩
      rw [heff.changed.shared_other hd hne, heff.changed.exclusive_other hd hne]
      exact hfree d hd hne)
    exclusive.toNat hok hinv (fun hn => hx (by omega))
  -- Acquire the shared locks.
  obtain ⟨hok₂, h₂⟩ := assertTimes_spec (c := c) (s := 1) (x := 0)
    "compass->try_lock_shared(connection)"
    (fun a => CompassLock.tryLockShared a c)
    (fun a n l => 0 < n → OthersRead a c l)
    (fun hsub hP hn d hd => hP hn d (hsub d hd))
    (fun {a n l} hdist hc hinv hP => by
      have hfree := hP n.succ_pos
      have heff := CompassLock.tryLockShared_effect hinv hdist hc
      refine ⟨(CompassLock.tryLockShared_iff hinv hdist hc).mpr hfree, heff, fun _ d hd hne => ?_⟩
      rw [heff.changed.exclusive_other hd hne]
      exact hfree d hd hne)
    shared.toNat (hok.after exclusive.toNat) h₁.inv (fun hn d hd hne => by
      rw [h₁.changed.exclusive_other hd hne]
      exact hs (by omega) d (hok.anti (Nat.zero_le _) d hd) hne)
  have h₂' := h₁.trans hok (Nat.le_add_right _ _) h₂.of_after
  have hself := hok.self (exclusive.toNat + shared.toNat)
  -- Release the exclusive locks.
  obtain ⟨hok₃, h₃⟩ := assertTimes_spec (c := c) (s := 0) (x := -1)
    "compass->release_lock_exclusive(connection)"
    (fun a => CompassLock.releaseLockExclusive a c)
    (fun a n l => n ≤ l.exclusive c) (fun _ hP => hP)
    (fun {a n l} hdist hc hinv hP => by
      have heff := CompassLock.releaseLockExclusive_effect hinv hdist hc
      have htrue := (CompassLock.releaseLockExclusive_iff hinv hdist hc).mpr (by omega)
      have hcount := heff.changed.exclusive_self hc
      rw [htrue, if_pos rfl] at hcount
      exact ⟨htrue, heff, by omega⟩)
    (-exclusive).toNat (hok.after (exclusive.toNat + shared.toNat)) h₂'.inv (by
      have hcount := h₂'.changed.exclusive_self hself
      omega)
  have h₃' := h₂'.trans hok (Nat.le_add_right _ _) h₃.of_after
  -- Release the shared locks.
  obtain ⟨hok₄, h₄⟩ := assertTimes_spec (c := c) (s := -1) (x := 0)
    "compass->release_lock_shared(connection)"
    (fun a => CompassLock.releaseLockShared a c)
    (fun a n l => n ≤ l.shared c) (fun _ hP => hP)
    (fun {a n l} hdist hc hinv hP => by
      have heff := CompassLock.releaseLockShared_effect hinv hdist hc
      have htrue := (CompassLock.releaseLockShared_iff hinv hdist hc).mpr (by omega)
      have hcount := heff.changed.shared_self hc
      rw [htrue, if_pos rfl] at hcount
      exact ⟨htrue, heff, by omega⟩)
    (-shared).toNat (hok.after (exclusive.toNat + shared.toNat + (-exclusive).toNat)) h₃'.inv (by
      have hcount := h₃'.changed.shared_self (hok.self _)
      omega)
  have h₄' := h₃'.trans hok (Nat.le_add_right _ _) h₄.of_after
  rw [commitLockDisposition, andThen_of_ok hok₁, andThen_of_ok hok₂, andThen_of_ok hok₃]
  refine ⟨hok₄, ?_⟩
  convert h₄' using 1 <;> omega

end Commit

/-! ## The other pieces -/

section Pieces

variable {alive : Liveness} {c : Connection} {l : CompassLock}

/-- The amounts of a lock disposition: one lock of one kind at most. -/
theorem lockDispositionCounts_bounds {n : ℕ} {s x : ℤ} (h : lockDispositionCounts n = .ok (s, x)) :
    -1 ≤ s ∧ s ≤ 1 ∧ -1 ≤ x ∧ x ≤ 1 ∧ (s = 0 ∨ x = 0) := by
  unfold lockDispositionCounts at h
  split at h
  all_goals repeat' split at h
  all_goals simp only [Except.ok.injEq, Prod.mk.injEq, reduceCtorEq] at h
  all_goals obtain ⟨rfl, rfl⟩ := h
  all_goals decide

/-- Only a release lowers a count, and only a release of that kind of lock. -/
theorem lockDispositionCounts_neg {n : ℕ} {s x : ℤ} (h : lockDispositionCounts n = .ok (s, x)) :
    (s < 0 → n = lockReleaseShared) ∧ (x < 0 → n = lockReleaseExclusive) := by
  unfold lockDispositionCounts at h
  split at h
  all_goals repeat' split at h
  all_goals simp only [Except.ok.injEq, Prod.mk.injEq, reduceCtorEq] at h
  all_goals obtain ⟨rfl, rfl⟩ := h
  all_goals refine ⟨fun hneg => ?_, fun hneg => ?_⟩
  all_goals first | assumption | exact absurd hneg (by decide)

/-- **Parsing moves no count**, and lets through only releases of locks the caller holds. -/
theorem parseLockDisposition_spec (hok : alive.Ok c) (hinv : l.Inv (alive 0)) (n : UInt64) :
    Reached alive c 2 0 0 l (parseLockDisposition alive c n l).2 ∧
      ∀ s x, (parseLockDisposition alive c n l).1 = .ok (s, x) →
        lockDispositionCounts n.toNat = .ok (s, x) ∧ (s < 0 → 0 < l.shared c) ∧
          (x < 0 → 0 < l.exclusive c) := by
  have hrefl : Reached alive c 2 0 0 l l := (Reached.refl hinv).later hok (Nat.zero_le 2)
  unfold parseLockDisposition
  split
  · exact ⟨hrefl, fun _ _ h => by simp at h⟩
  split
  · exact ⟨hrefl, fun _ _ h => by simp at h⟩
  rename_i s x hcounts
  have hbounds := lockDispositionCounts_bounds hcounts
  have hshared := hinv.readers_contains_iff (hok.distinct_at 0) (hok.self 0)
  have hexclusive := (hinv.anti (hok.anti (Nat.zero_le 1))).writers_contains_iff
    (hok.distinct_at 1) (hok.self 1)
  have h₀ : Reached alive c 2 0 0 l (l.collectExpiredConnections (alive 0)) :=
    Reached.later hok (Reached.of_effect (CompassLock.effect_collect hinv c true)) (Nat.zero_le 2)
  have h₁ : Reached alive c 2 0 0 l (l.collectExpiredConnections (alive 1)) :=
    Reached.later hok (Reached.of_effect
      (CompassLock.effect_collect (hinv.anti (hok.anti (Nat.zero_le 1))) c true)) (Nat.le_succ 1)
  rcases lt_or_ge s 0 with hs | hs
  · -- A release of a shared lock.
    have hx : ¬ x < 0 := by omega
    simp only [if_pos hs, if_neg hx, CompassLock.isLockedSharedBy]
    split
    · exact ⟨h₀, fun _ _ h => by simp at h⟩
    · rename_i hheld
      refine ⟨h₀, fun s' x' h => ?_⟩
      obtain ⟨rfl, rfl⟩ : s = s' ∧ x = x' := by simpa using h
      exact ⟨hcounts, fun _ => hshared.mp (by simpa using hheld), fun h => absurd h hx⟩
  rcases lt_or_ge x 0 with hx | hx
  · -- A release of an exclusive lock.
    have hs' : ¬ s < 0 := by omega
    simp only [if_neg hs', if_pos hx, CompassLock.isLockedExclusiveBy, Bool.not_true,
      Bool.false_eq_true, if_false]
    split
    · exact ⟨h₁, fun _ _ h => by simp at h⟩
    · rename_i hheld
      refine ⟨h₁, fun s' x' h => ?_⟩
      obtain ⟨rfl, rfl⟩ : s = s' ∧ x = x' := by simpa using h
      exact ⟨hcounts, fun h => absurd h hs', fun _ => hexclusive.mp (by simpa using hheld)⟩
  · simp only [if_neg (not_lt.mpr hs), if_neg (not_lt.mpr hx), Bool.not_true, Bool.false_eq_true,
      if_false]
    refine ⟨hrefl, fun s' x' h => ?_⟩
    obtain ⟨rfl, rfl⟩ : s = s' ∧ x = x' := by simpa using h
    exact ⟨hcounts, fun h => absurd h (not_lt.mpr hs), fun h => absurd h (not_lt.mpr hx)⟩

/-- Reading the lock state moves no count. -/
theorem getCompassLockState_spec (hok : alive.Ok c) (hinv : l.Inv (alive 0)) :
    Reached alive c 3 0 0 l (getCompassLockState alive c l).2 := by
  have hlook : ∀ {i l'}, i ≤ 3 → Reached alive c i 0 0 l l' →
      Reached alive c i 0 0 l (l'.collectExpiredConnections (alive i)) := fun _ h => by
    simpa using h.trans hok le_rfl (Reached.of_effect (CompassLock.effect_collect h.inv c true))
  have h₀ := hlook (Nat.zero_le 3) (Reached.refl hinv)
  have h₁ := hlook (by omega) (h₀.later hok (Nat.zero_le 1))
  have h₂ := hlook (by omega) (h₁.later hok (Nat.le_succ 1))
  have h₃ := hlook le_rfl (h₂.later hok (Nat.le_succ 2))
  exact (h₀.later hok (Nat.zero_le 3)).ite <| (h₁.later hok (by omega)).ite <|
    (h₂.later hok (by omega)).ite <| h₃.ite h₃

end Pieces

/-! ## What a request does to a compass -/

/-- The record left by a request that writes `written`, or writes nothing. -/
def Compass.daoAfter (p : Compass) : Option Bytes → Option OrmCompass
  | some v => some (p.daoWritten v)
  | none => p.dao

/-- What a request that writes `written` sends to the watchers `seen` finds. -/
def Compass.sentFor (seen shut : Alive) (p : Compass) : Option Bytes → List Sent
  | some v => p.notifications seen shut v
  | none => []

/-- **All that a request does**: it grants `c` the amounts `grant`, writes `written` if anything,
and notifies the watchers of that write.  A write or an exclusive grant finds nobody else alive in
the lock, a shared grant finds nobody else alive writing. -/
structure Handled (fin shut : Alive) (c : Connection) (grant : ℤ × ℤ) (written : Option Bytes)
    (p p' : Compass) (sent : List Sent) : Prop where
  key : p'.compassKey = p.compassKey
  watcherMap : p'.watcherMap = p.watcherMap
  dao : p'.dao = p.daoAfter written
  inv : p'.lock.Inv fin
  changed : CompassLock.Changed fin c grant.1 grant.2 p.lock p'.lock
  othersFree : written.isSome ∨ 0 < grant.2 → OthersFree fin c p.lock
  othersRead : 0 < grant.1 → OthersRead fin c p.lock
  sent : ∃ seen : Alive, (∀ d, fin d → seen d) ∧ sent = p.sentFor seen shut written

section Handled

variable {alive : Liveness} {fin shut : Alive} {c : Connection} {p : Compass} {shared exclusive : ℤ}

/-- A request that grants nothing and writes nothing. -/
theorem Handled.of_reached {l : CompassLock} {i : ℕ} (hfin : ∀ d, fin d → alive i d)
    (h : Reached alive c i 0 0 p.lock l) :
    Handled fin shut c (0, 0) none p { p with lock := l } [] where
  key := rfl
  watcherMap := rfl
  dao := rfl
  inv := h.inv.anti hfin
  changed := h.changed.anti hfin
  othersFree h := by simp at h
  othersRead h := by simp at h
  sent := ⟨fin, fun _ h => h, rfl⟩

/-- **Under the lock nothing can go wrong**: the value is written, the disposition committed. -/
theorem updateLocked_spec (shut : Alive) (p : Compass) (valueNew : Option Bytes)
    (shared exclusive : ℤ) (hok : alive.Ok c) (hinv : p.lock.Inv (alive 0))
    (hwrite : valueNew.isSome → 0 < p.lock.exclusive c)
    (hx : 0 < exclusive → OthersFree (alive 0) c p.lock)
    (hs : 0 < shared → OthersRead (alive 0) c p.lock)
    (hrx : 0 ≤ p.lock.exclusive c + exclusive) (hrs : 0 ≤ p.lock.shared c + shared) :
    ∃ l, updateLocked alive shut c true valueNew shared exclusive p
        = ⟨.ok true, { p with dao := p.daoAfter valueNew, lock := l },
            p.sentFor (alive 1) shut valueNew⟩ ∧
      Reached alive c (2 + (exclusive.natAbs + shared.natAbs)) shared exclusive p.lock l := by
  have hcommit : ∀ {l₀ : CompassLock}, Reached alive c 0 0 0 p.lock l₀ →
      ∃ l, commitLockDisposition (alive.after 2) c shared exclusive l₀ = (.ok (), l) ∧
        Reached alive c (2 + (exclusive.natAbs + shared.natAbs)) shared exclusive p.lock l := by
    intro l₀ h₀
    have hself := hok.self 0
    have hcx := h₀.changed.exclusive_self hself
    have hcs := h₀.changed.shared_self hself
    have hsub := hok.anti (Nat.zero_le 2)
    obtain ⟨hres, hreach⟩ := commitLockDisposition_spec shared exclusive (hok.after 2)
      (h₀.after hok (Nat.zero_le 2)).inv
      (fun hpos d hd hne => h₀.exclusiveFree (hsub d hd) hne (hx hpos d (hsub d hd) hne))
      (fun hpos d hd hne => by
        rw [h₀.changed.exclusive_other (hsub d hd) hne]
        exact hs hpos d (hsub d hd) hne)
      (by omega) (by omega)
    refine ⟨_, Prod.ext hres rfl, ?_⟩
    simpa using h₀.trans hok (Nat.zero_le _) hreach.of_after
  cases valueNew with
  | none =>
    obtain ⟨l, hl, hreach⟩ := hcommit (Reached.refl hinv)
    refine ⟨l, ?_, hreach⟩
    simp [updateLocked, Outcome.andThen, hl, Except.map, Compass.daoAfter, Compass.sentFor]
  | some v =>
    have hwriter : (p.lock.collectExpiredConnections (alive 0)).writers.isEmpty = false := by
      rw [← Bool.not_eq_true, CompassLock.writers_isEmpty_iff]
      intro hnone
      have := hnone c (hok.self 0)
      have := hwrite rfl
      omega
    have hlook : Reached alive c 0 0 0 p.lock (p.lock.collectExpiredConnections (alive 0)) := by
      simpa using Reached.of_effect (CompassLock.effect_collect hinv c true)
    obtain ⟨l, hl, hreach⟩ := hcommit hlook
    refine ⟨l, ?_, hreach⟩
    simp [updateLocked, Outcome.andThen, Compass.setValue, CompassLock.isLockedExclusive, hwriter,
      hl, Except.map, Compass.daoAfter, Compass.sentFor, Compass.daoWritten,
      Compass.notifications]

/-- The last look, at the lock state, turns what was reached under the lock into `Handled`. -/
theorem Handled.of_update (hok : alive.Ok c) (hfin : ∀ i d, fin d → alive i d)
    {valueNew : Option Bytes} {l : CompassLock}
    (h : Reached alive c 9 shared exclusive p.lock l)
    (hfree : valueNew.isSome ∨ 0 < exclusive → OthersFree (alive 2) c p.lock)
    (hread : 0 < shared → OthersRead (alive 2) c p.lock) :
    Handled fin shut c (shared, exclusive) valueNew p
      { p with dao := p.daoAfter valueNew, lock := (getCompassLockState (alive.after 9) c l).2 }
      (p.sentFor (alive 4) shut valueNew) := by
  have hstate := (getCompassLockState_spec (hok.after 9) (h.after hok le_rfl).inv).of_after
  have hend := h.trans hok (Nat.le_add_right 9 3) hstate
  rw [add_zero, add_zero] at hend
  exact
    { key := rfl
      watcherMap := rfl
      dao := rfl
      inv := hend.inv.anti (hfin _)
      changed := hend.changed.anti (hfin _)
      othersFree := fun hw d hd hne => hfree hw d (hfin 2 d hd) hne
      othersRead := fun hs d hd hne => hread hs d (hfin 2 d hd) hne
      sent := ⟨alive 4, hfin 4, rfl⟩ }

/-- **The exclusive path of both servlets.** -/
theorem updateExclusive_spec (shut : Alive) (valueNew : Option Bytes) (hok : alive.Ok c)
    {l : CompassLock}
    (hparse : Reached alive c 2 0 0 p.lock l)
    (hbounds : -1 ≤ shared ∧ shared ≤ 1 ∧ -1 ≤ exclusive ∧ exclusive ≤ 1 ∧
      (shared = 0 ∨ exclusive = 0))
    (hrs : shared < 0 → 0 < p.lock.shared c) (hrx : exclusive < 0 → 0 < p.lock.exclusive c)
    (hlocked : (l.tryLockExclusive (alive 2) c).1 = true) :
    OthersFree (alive 2) c p.lock ∧
      ∃ l', updateLocked (alive.after 3) shut c true valueNew shared (exclusive - 1)
          { p with lock := (l.tryLockExclusive (alive 2) c).2 }
          = ⟨.ok true, { p with dao := p.daoAfter valueNew, lock := l' },
              p.sentFor (alive 4) shut valueNew⟩ ∧
        Reached alive c 9 shared exclusive p.lock l' := by
  have hself := hok.self 2
  have hfree : OthersFree (alive 2) c p.lock := fun d hd hne => by
    have := (CompassLock.tryLockExclusive_iff hparse.inv (hok.distinct_at 2) hself).mp hlocked d hd
      hne
    rwa [hparse.changed.shared_other hd hne, hparse.changed.exclusive_other hd hne] at this
  have htry := hparse.trans hok le_rfl (Reached.of_effect (i := 2)
    (CompassLock.tryLockExclusive_effect hparse.inv (hok.distinct_at 2) hself))
  rw [hlocked, if_pos rfl, if_pos rfl, add_zero, zero_add] at htry
  have hcs := htry.changed.shared_self hself
  have hcx := htry.changed.exclusive_self hself
  have hsub := hok.anti (Nat.le_succ 2)
  obtain ⟨l', hupdate, hreach⟩ := updateLocked_spec shut
    { p with lock := (l.tryLockExclusive (alive 2) c).2 } valueNew shared (exclusive - 1)
    (hok.after 3) (htry.after hok (Nat.le_succ 2)).inv
    (fun _ => by simp only; omega) (fun h => by omega)
    (fun _ d hd hne => by
      rw [htry.changed.exclusive_other (hsub d hd) hne]
      exact (hfree d (hsub d hd) hne).2)
    (by simp only; omega) (by simp only; omega)
  refine ⟨hfree, l', hupdate, ?_⟩
  have hend := htry.trans hok (by omega) hreach.of_after
  simp only [zero_add, add_sub_cancel] at hend
  exact hend.later hok (by omega)

/-- **The shared path**, taken where nothing is to be written. -/
theorem updateShared_spec (shut : Alive) (hok : alive.Ok c) {l : CompassLock}
    (hparse : Reached alive c 2 0 0 p.lock l)
    (hbounds : -1 ≤ shared ∧ shared ≤ 1 ∧ -1 ≤ exclusive ∧ exclusive ≤ 0 ∧
      (shared = 0 ∨ exclusive = 0))
    (hrs : shared < 0 → 0 < p.lock.shared c) (hrx : exclusive < 0 → 0 < p.lock.exclusive c)
    (hlocked : (l.tryLockShared (alive 2) c).1 = true) :
    OthersRead (alive 2) c p.lock ∧
      ∃ l', updateLocked (alive.after 3) shut c true none (shared - 1) exclusive
          { p with lock := (l.tryLockShared (alive 2) c).2 }
          = ⟨.ok true, { p with lock := l' }, []⟩ ∧
        Reached alive c 9 shared exclusive p.lock l' := by
  have hself := hok.self 2
  have hread : OthersRead (alive 2) c p.lock := fun d hd hne => by
    have := (CompassLock.tryLockShared_iff hparse.inv (hok.distinct_at 2) hself).mp hlocked d hd hne
    rwa [hparse.changed.exclusive_other hd hne] at this
  have htry := hparse.trans hok le_rfl (Reached.of_effect (i := 2)
    (CompassLock.tryLockShared_effect hparse.inv (hok.distinct_at 2) hself))
  rw [hlocked, if_pos rfl, if_pos rfl, add_zero, zero_add] at htry
  have hcs := htry.changed.shared_self hself
  have hcx := htry.changed.exclusive_self hself
  obtain ⟨l', hupdate, hreach⟩ := updateLocked_spec shut
    { p with lock := (l.tryLockShared (alive 2) c).2 } none (shared - 1) exclusive
    (hok.after 3) (htry.after hok (Nat.le_succ 2)).inv
    (fun h => by simp at h) (fun h => by omega) (fun h => by omega)
    (by simp only; omega) (by simp only; omega)
  refine ⟨hread, l', hupdate, ?_⟩
  have hend := htry.trans hok (by omega) hreach.of_after
  simp only [zero_add, add_sub_cancel] at hend
  exact hend.later hok (by omega)

end Handled

/-! ## The two servlets -/

section Servlets

variable {alive : Liveness} {fin shut : Alive} {c : Connection} {p : Compass}

/-- Where the lock was not obtained nothing is done under it. -/
@[simp] theorem updateLocked_false (valueNew : Option Bytes) (s x : ℤ) :
    updateLocked alive shut c false valueNew s x p = ⟨.ok false, p, []⟩ := rfl

/-- Without the lock only expired entries go. -/
theorem Handled.of_unlocked (hok : alive.Ok c) (hfin : ∀ i d, fin d → alive i d) {l : CompassLock}
    (h : Reached alive c 2 0 0 p.lock l) :
    Handled fin shut c (0, 0) none p
      { p with lock := (getCompassLockState (alive.after 9) c l).2 } [] := by
  have h₉ := h.later hok (show 2 ≤ 9 by omega)
  have hstate := (getCompassLockState_spec (hok.after 9) (h₉.after hok le_rfl).inv).of_after
  have hend := h₉.trans hok (Nat.le_add_right 9 3) hstate
  exact Handled.of_reached (hfin _) hend

/-- A failed attempt moves no count. -/
theorem Reached.of_failed {l : CompassLock} {s x : ℤ} {r : Bool × CompassLock} (hok : alive.Ok c)
    (h : Reached alive c 2 0 0 p.lock l) (heff : CompassLock.Effect (alive 2) c s x l r)
    (hr : r.1 = false) : Reached alive c 2 0 0 p.lock r.2 := by
  simpa [hr] using h.trans hok le_rfl (Reached.of_effect heff)

/-- **A request is rejected and does nothing, or is answered.**  The answer reports value and
version as they were; if it succeeded, the disposition took effect and, for a criterion that
matched, its value was written. -/
theorem compareExchangeServlet_spec (fin shut : Alive) (hok : alive.Ok c)
    (hfin : ∀ i d, fin d → alive i d) (hinv : p.lock.Inv (alive 0)) (req : CompareExchangeRequest)
    {o : Outcome _}
    (ho : compareExchangeServlet alive shut c req p = o) :
    (∃ e, o.result = .error e ∧
        (parseLockDisposition alive c req.lockDisposition p.lock).1 = .error e ∧
        Handled fin shut c (0, 0) none p o.compass o.sent) ∨
      ∃ r grant, o.result = .ok r ∧
        lockDispositionCounts req.lockDisposition.toNat = .ok grant ∧
        r.valueOld = p.getValue ∧ r.versionOld = p.getVersion ∧
        r.criterionIndex = req.criteria.findIdx (fun criterion => criterion.valueCmp = p.getValue) ∧
        Handled fin shut c (if r.succeeded then grant else (0, 0))
          (if r.succeeded then req.criteria[r.criterionIndex]?.map Criterion.valueNew else none)
          p o.compass o.sent := by
  obtain ⟨hparse, hgrant⟩ := parseLockDisposition_spec hok hinv req.lockDisposition
  unfold compareExchangeServlet at ho
  generalize hr : parseLockDisposition alive c req.lockDisposition p.lock = r at *
  obtain ⟨parsed, l⟩ := r
  rcases parsed with e | ⟨s, x⟩
  · subst ho
    exact Or.inl ⟨e, rfl, rfl, Handled.of_reached (hfin 2) hparse⟩
  obtain ⟨hcounts, hrs, hrx⟩ := hgrant s x rfl
  have hbounds := lockDispositionCounts_bounds hcounts
  have hdist := hok.distinct_at 2
  have hself := hok.self 2
  refine Or.inr ?_
  simp only at ho
  generalize hidx : req.criteria.findIdx (fun criterion => criterion.valueCmp = p.getValue) = idx
    at ho ⊢
  by_cases hmiss : (!req.criteria.isEmpty && decide (req.criteria.length ≤ idx)) = true
  · -- No criterion matched: nothing is locked.
    rw [if_pos hmiss] at ho
    subst ho
    exact ⟨_, (s, x), rfl, hcounts, rfl, rfl, rfl, Handled.of_unlocked hok hfin hparse⟩
  rw [if_neg hmiss] at ho
  by_cases hread : (req.criteria.isEmpty && decide (x ≤ 0)) = true
  · -- Nothing to write: a shared lock is enough.
    rw [if_pos hread] at ho
    simp only [Bool.and_eq_true, decide_eq_true_eq, List.isEmpty_iff] at hread
    have heff := CompassLock.tryLockShared_effect hparse.inv hdist hself
    have hnone : req.criteria[idx]?.map Criterion.valueNew = none := by simp [hread.1]
    rw [hnone] at ho
    cases hlocked : (l.tryLockShared (alive 2) c).1 with
    | false =>
      simp only [hlocked, updateLocked_false] at ho
      subst ho
      exact ⟨_, (s, x), rfl, hcounts, rfl, rfl, rfl,
        Handled.of_unlocked hok hfin (Reached.of_failed hok hparse heff hlocked)⟩
    | true =>
      obtain ⟨hothers, l', hupdate, hreach⟩ := updateShared_spec shut hok hparse
        ⟨hbounds.1, hbounds.2.1, hbounds.2.2.1, hread.2, hbounds.2.2.2.2⟩ hrs hrx hlocked
      simp only [hlocked, if_true, hupdate] at ho
      subst ho
      refine ⟨_, (s, x), rfl, hcounts, rfl, rfl, rfl, ?_⟩
      simp only [if_true, hnone, Outcome.andThen_ok, List.append_nil]
      exact Handled.of_update hok hfin hreach (fun h => by simp at h; omega) fun _ => hothers
  · -- Something to write, or an exclusive lock to take.
    rw [if_neg hread] at ho
    have heff := CompassLock.tryLockExclusive_effect hparse.inv hdist hself
    cases hlocked : (l.tryLockExclusive (alive 2) c).1 with
    | false =>
      simp only [hlocked, updateLocked_false] at ho
      subst ho
      exact ⟨_, (s, x), rfl, hcounts, rfl, rfl, rfl,
        Handled.of_unlocked hok hfin (Reached.of_failed hok hparse heff hlocked)⟩
    | true =>
      obtain ⟨hothers, l', hupdate, hreach⟩ := updateExclusive_spec shut
        (req.criteria[idx]?.map Criterion.valueNew) hok hparse hbounds hrs hrx hlocked
      simp only [hlocked, if_true, hupdate] at ho
      subst ho
      refine ⟨_, (s, x), rfl, hcounts, rfl, rfl, rfl, ?_⟩
      simp only [if_true, Outcome.andThen_ok, List.append_nil]
      exact Handled.of_update hok hfin hreach (fun _ => hothers)
        fun _ d hd hne => (hothers d hd hne).2

/-- The same for `Exchange_request`, which always has a value to write. -/
theorem exchangeServlet_spec (fin shut : Alive) (hok : alive.Ok c)
    (hfin : ∀ i d, fin d → alive i d) (hinv : p.lock.Inv (alive 0)) (req : ExchangeRequest)
    {o : Outcome _}
    (ho : exchangeServlet alive shut c req p = o) :
    (∃ e, o.result = .error e ∧
        (parseLockDisposition alive c req.lockDisposition p.lock).1 = .error e ∧
        Handled fin shut c (0, 0) none p o.compass o.sent) ∨
      ∃ r grant, o.result = .ok r ∧
        lockDispositionCounts req.lockDisposition.toNat = .ok grant ∧
        r.valueOld = p.getValue ∧ r.versionOld = p.getVersion ∧
        Handled fin shut c (if r.succeeded then grant else (0, 0))
          (if r.succeeded then some req.valueNew else none) p o.compass o.sent := by
  obtain ⟨hparse, hgrant⟩ := parseLockDisposition_spec hok hinv req.lockDisposition
  unfold exchangeServlet at ho
  generalize hr : parseLockDisposition alive c req.lockDisposition p.lock = r at *
  obtain ⟨parsed, l⟩ := r
  rcases parsed with e | ⟨s, x⟩
  · subst ho
    exact Or.inl ⟨e, rfl, rfl, Handled.of_reached (hfin 2) hparse⟩
  obtain ⟨hcounts, hrs, hrx⟩ := hgrant s x rfl
  have hbounds := lockDispositionCounts_bounds hcounts
  have heff := CompassLock.tryLockExclusive_effect hparse.inv (hok.distinct_at 2) (hok.self 2)
  refine Or.inr ?_
  cases hlocked : (l.tryLockExclusive (alive 2) c).1 with
  | false =>
    simp only [hlocked, updateLocked_false] at ho
    subst ho
    exact ⟨_, (s, x), rfl, hcounts, rfl, rfl,
      Handled.of_unlocked hok hfin (Reached.of_failed hok hparse heff hlocked)⟩
  | true =>
    obtain ⟨hothers, l', hupdate, hreach⟩ := updateExclusive_spec shut (some req.valueNew) hok
      hparse hbounds hrs hrx hlocked
    simp only [hlocked, if_true, hupdate] at ho
    subst ho
    refine ⟨_, (s, x), rfl, hcounts, rfl, rfl, ?_⟩
    simp only [if_true, Outcome.andThen_ok, List.append_nil]
    exact Handled.of_update hok hfin hreach (fun _ => hothers)
      fun _ d hd hne => (hothers d hd hne).2

end Servlets

end Circe.Pilot
