import Circe.Foundations.Run
import Circe.Pilot.CompassLock

/-!
# Pilot/LockHistory — a lock in the hands of connections that come and go

Connections ask for a lock, release it and look at it, in any order; between two operations any of
them may expire, and others come in.  What a connection holds is what it was granted less what it
released (`LockHistory.Tracks`), and who may lock follows from that (`recursive_lock`).
-/

namespace Circe.Pilot

/-- The operations of a `Compass_lock`. -/
inductive LockOperation
  | isLockedShared
  | isLockedSharedBy (connectionUuid : Uuid)
  | tryLockShared (connection : Connection)
  | releaseLockShared (connection : Connection)
  | isLockedExclusive
  | isLockedExclusiveBy (connectionUuid : Uuid)
  | tryLockExclusive (connection : Connection)
  | releaseLockExclusive (connection : Connection)
deriving DecidableEq

namespace LockOperation

def perform (alive : Alive) (l : CompassLock) : LockOperation → Bool × CompassLock
  | isLockedShared => l.isLockedShared alive
  | isLockedSharedBy connectionUuid => l.isLockedSharedBy alive connectionUuid
  | tryLockShared connection => l.tryLockShared alive connection
  | releaseLockShared connection => l.releaseLockShared alive connection
  | isLockedExclusive => l.isLockedExclusive alive
  | isLockedExclusiveBy connectionUuid => l.isLockedExclusiveBy alive connectionUuid
  | tryLockExclusive connection => l.tryLockExclusive alive connection
  | releaseLockExclusive connection => l.releaseLockExclusive alive connection

/-- The connection an operation is passed, which is alive. -/
def connection : LockOperation → Option Connection
  | tryLockShared c | releaseLockShared c | tryLockExclusive c | releaseLockExclusive c => some c
  | _ => none

/-- The shared and exclusive locks that an operation is about. -/
def amount : LockOperation → ℤ × ℤ
  | tryLockShared _ => (1, 0)
  | releaseLockShared _ => (-1, 0)
  | tryLockExclusive _ => (0, 1)
  | releaseLockExclusive _ => (0, -1)
  | _ => (0, 0)

end LockOperation

/-! ## One operation -/

namespace CompassLock

variable {alive : Alive} {l : CompassLock} (op : LockOperation)

/-- **Every operation keeps the invariant** and changes the counts of the connection it is
passed. -/
theorem effect_perform (h : Inv alive l) (huuid : DistinctUuids alive)
    (hlive : ∀ c ∈ op.connection, alive c) (c : Connection) (hc : ∀ d ∈ op.connection, d = c) :
    Effect alive c op.amount.1 op.amount.2 l (op.perform alive l) := by
  cases op with
  | isLockedShared | isLockedSharedBy | isLockedExclusive | isLockedExclusiveBy =>
    exact effect_collect h c _
  | tryLockShared d =>
    obtain rfl := hc d rfl
    exact tryLockShared_effect h huuid (hlive d rfl)
  | releaseLockShared d =>
    obtain rfl := hc d rfl
    exact releaseLockShared_effect h huuid (hlive d rfl)
  | tryLockExclusive d =>
    obtain rfl := hc d rfl
    exact tryLockExclusive_effect h huuid (hlive d rfl)
  | releaseLockExclusive d =>
    obtain rfl := hc d rfl
    exact releaseLockExclusive_effect h huuid (hlive d rfl)

/-- **What an operation does to a live connection's counts.** -/
theorem counts_perform (h : Inv alive l) (huuid : DistinctUuids alive)
    (hlive : ∀ c ∈ op.connection, alive c) {d : Connection} (hd : alive d) :
    ((op.perform alive l).2.shared d : ℤ) = l.shared d
        + (if op = .tryLockShared d ∧ (op.perform alive l).1 = true then 1 else 0)
        - (if op = .releaseLockShared d ∧ (op.perform alive l).1 = true then 1 else 0) ∧
      ((op.perform alive l).2.exclusive d : ℤ) = l.exclusive d
        + (if op = .tryLockExclusive d ∧ (op.perform alive l).1 = true then 1 else 0)
        - (if op = .releaseLockExclusive d ∧ (op.perform alive l).1 = true then 1 else 0) := by
  have heffect := effect_perform op h huuid hlive (op.connection.getD d)
    (by simp +contextual [Option.mem_def])
  have hshared := heffect.changed.shared d hd
  have hexclusive := heffect.changed.exclusive d hd
  generalize op.perform alive l = r at hshared hexclusive ⊢
  rw [hshared, hexclusive]
  cases op <;> cases r.1 <;>
    simp [LockOperation.connection, LockOperation.amount, apply_ite, sub_eq_add_neg]

end CompassLock

/-! ## The entries of others -/

/-- Every live entry is one connection's exactly when no other live connection has one. -/
theorem Holders.forall_live_iff {alive : Alive} {m : Holders} {c : Connection} :
    (∀ e ∈ m.entries, alive e.2 → e.2 = c) ↔ ∀ d, alive d → d ≠ c → m.count d = 0 := by
  constructor
  · intro h d hd hne
    by_contra hpos
    obtain ⟨k, hk⟩ := FlatMultimap.count_pos_iff.mp (Nat.pos_of_ne_zero hpos)
    exact hne (h (k, d) hk hd)
  · intro h e he halive
    by_contra hne
    have hpos : 0 < m.count e.2 := FlatMultimap.count_pos_iff.mpr ⟨e.1, he⟩
    rw [h e.2 halive hne] at hpos
    exact absurd hpos (lt_irrefl 0)

/-! ## Histories -/

inductive LockEvent
  | connect (connection : Connection)
  | expire (connection : Connection)
  | operate (op : LockOperation)
deriving DecidableEq

/-- An event and what the operation answered. -/
structure LockLabel where
  event : LockEvent
  answer : Bool
deriving DecidableEq

/-- How often an operation was done with success. -/
def succeeded (op : LockOperation) (history : List LockLabel) : ℕ :=
  history.countP fun l => l = ⟨.operate op, true⟩

/-- A lock, the connections that are alive, and all that ever were. -/
structure LockHistory where
  lock : CompassLock
  live : List Connection
  known : List Connection

namespace LockHistory

def start : LockHistory := ⟨.empty, [], []⟩

def alive (x : LockHistory) : Alive := fun c => decide (c ∈ x.live)

/-- A connection that comes in is a new one, with a UUID no live one has; an operation is passed a
live one. -/
def Enabled (x : LockHistory) : LockEvent → Prop
  | .connect c => c ∉ x.known ∧ ∀ d ∈ x.live, d.connectionUuid ≠ c.connectionUuid
  | .expire _ => True
  | .operate op => ∀ c ∈ op.connection, c ∈ x.live

instance (x : LockHistory) : DecidablePred x.Enabled
  | .connect _ => inferInstanceAs (Decidable (_ ∧ _))
  | .expire _ => inferInstanceAs (Decidable True)
  | .operate op => inferInstanceAs (Decidable (∀ c ∈ op.connection, c ∈ x.live))

def next (x : LockHistory) (event : LockEvent) : LockLabel × LockHistory :=
  match event with
  | .connect c => (⟨event, true⟩, { x with live := c :: x.live, known := c :: x.known })
  | .expire c => (⟨event, true⟩, { x with live := x.live.filter (· ≠ c) })
  | .operate op =>
    let (answer, lock) := op.perform x.alive x.lock
    (⟨event, answer⟩, { x with lock := lock })

def Step (x : LockHistory) (l : LockLabel) (y : LockHistory) : Prop :=
  x.Enabled l.event ∧ x.next l.event = (l, y)

theorem step_next (x : LockHistory) (event : LockEvent) (h : x.Enabled event) :
    Step x (x.next event).1 (x.next event).2 := by
  cases event <;> exact ⟨h, rfl⟩

/-- The connections that are alive: known, and told apart by their UUIDs. -/
structure Inv (x : LockHistory) : Prop where
  lock : x.lock.Inv x.alive
  distinct : DistinctUuids x.alive
  known : ∀ c ∈ x.live, c ∈ x.known
  unknown : ∀ c, c ∉ x.known → x.lock.shared c = 0 ∧ x.lock.exclusive c = 0

/-- **What a connection holds is what it was granted less what it released.** -/
def Tracks (history : List LockLabel) (x : LockHistory) (c : Connection) : Prop :=
  (x.lock.shared c : ℤ) = succeeded (.tryLockShared c) history
      - succeeded (.releaseLockShared c) history ∧
    (x.lock.exclusive c : ℤ) = succeeded (.tryLockExclusive c) history
      - succeeded (.releaseLockExclusive c) history

variable {x y : LockHistory} {l : LockLabel} {history : List LockLabel}

theorem succeeded_concat (op : LockOperation) :
    succeeded op (history ++ [l]) = succeeded op history
      + if l = ⟨.operate op, true⟩ then 1 else 0 := by
  rw [succeeded, List.countP_append, List.countP_singleton, succeeded]
  simp only [decide_eq_true_eq]

theorem alive_iff {c : Connection} : x.alive c = true ↔ c ∈ x.live := decide_eq_true_iff

/-- A connection that comes in or goes changes nobody's counts. -/
theorem Tracks.of_lock {c : Connection} (h : x.Tracks history c) (hlock : y.lock = x.lock)
    (hquiet : ∀ op, l.event ≠ .operate op) : y.Tracks (history ++ [l]) c := by
  have hnone (op : LockOperation) : l ≠ ⟨.operate op, true⟩ := fun hl =>
    hquiet op (congrArg LockLabel.event hl)
  simp only [Tracks, succeeded_concat, hlock, if_neg (hnone _), Nat.add_zero]
  exact h

theorem inv_start : start.Inv :=
  ⟨CompassLock.inv_empty _, by simp [DistinctUuids, alive, start], by simp [start],
    fun _ _ => ⟨rfl, rfl⟩⟩

/-- A new connection holds nothing. -/
theorem Inv.connect (hx : x.Inv) {c : Connection} (henabled : x.Enabled (.connect c)) :
    (x.next (.connect c)).2.Inv := by
  obtain ⟨hnew, huuid⟩ := henabled
  have hold {d : Connection} (hd : (x.next (.connect c)).2.alive d = true) (hne : d ≠ c) :
      x.alive d = true :=
    alive_iff.mpr ((List.mem_cons.mp (alive_iff.mp hd)).resolve_left hne)
  refine ⟨⟨hx.lock.keyedReaders, hx.lock.keyedWriters, fun {d e} hd he hpos hne => ?_⟩, ?_, ?_, ?_⟩
  · have hdc : d ≠ c := by
      rintro rfl
      exact absurd hpos (by simp [next, (hx.unknown d hnew).2])
    by_cases hec : e = c
    · exact hec ▸ hx.unknown c hnew
    · exact hx.lock.exclusion (hold hd hdc) (hold he hec) hpos hne
  · intro d e hd he hsame
    by_cases hdc : d = c <;> by_cases hec : e = c
    · rw [hdc, hec]
    · exact absurd (hdc ▸ hsame).symm (huuid e (alive_iff.mp (hold he hec)))
    · exact absurd (hec ▸ hsame) (huuid d (alive_iff.mp (hold hd hdc)))
    · exact hx.distinct d e (hold hd hdc) (hold he hec) hsame
  · intro d hd
    rcases List.mem_cons.mp hd with rfl | hd
    · exact List.mem_cons_self
    · exact List.mem_cons_of_mem _ (hx.known d hd)
  · exact fun d hd => hx.unknown d fun hknown => hd (List.mem_cons_of_mem _ hknown)

theorem Inv.expire (hx : x.Inv) (c : Connection) : (x.next (.expire c)).2.Inv := by
  have hsub (d : Connection) (hd : (x.next (.expire c)).2.alive d = true) : x.alive d = true :=
    alive_iff.mpr (List.mem_filter.mp (alive_iff.mp hd)).1
  exact ⟨hx.lock.anti hsub, fun d e hd he => hx.distinct d e (hsub d hd) (hsub e he),
    fun d hd => hx.known d (List.mem_filter.mp hd).1, hx.unknown⟩

theorem Inv.operate (hx : x.Inv) {op : LockOperation} (henabled : x.Enabled (.operate op)) :
    (x.next (.operate op)).2.Inv := by
  have hlive : ∀ c ∈ op.connection, x.alive c = true := fun c hc => alive_iff.mpr (henabled c hc)
  have heffect (c : Connection) (hc : ∀ d ∈ op.connection, d = c) :=
    CompassLock.effect_perform op hx.lock hx.distinct hlive c hc
  have hinv : (x.next (.operate op)).2.lock.Inv x.alive :=
    (heffect (op.connection.getD ⟨0, 0⟩) (by simp +contextual [Option.mem_def])).inv
  refine ⟨hinv, hx.distinct, hx.known, fun c hc => ?_⟩
  -- A connection that never was is not the one the operation is passed.
  obtain ⟨d, hd, hne⟩ : ∃ d, (∀ e ∈ op.connection, e = d) ∧ c ≠ d := by
    cases hcaller : op.connection with
    | none => exact ⟨⟨c.id + 1, 0⟩, by simp, fun h => absurd (congrArg Connection.id h) (by simp)⟩
    | some d =>
      refine ⟨d, by simp, ?_⟩
      rintro rfl
      exact hc (hx.known c (henabled c hcaller))
  obtain ⟨hshared, hexclusive⟩ := (heffect d hd).changed.others c hne
  obtain ⟨hs, he⟩ := hx.unknown c hc
  exact ⟨Nat.le_zero.mp (hs ▸ hshared), Nat.le_zero.mp (he ▸ hexclusive)⟩

theorem Step.inv (hx : x.Inv) (hstep : Step x l y) : y.Inv := by
  obtain ⟨henabled, hnext⟩ := hstep
  have hy : y = (x.next l.event).2 := (congrArg Prod.snd hnext).symm
  rw [hy]
  cases hevent : l.event with
  | connect c => exact hx.connect (hevent ▸ henabled)
  | expire c => exact hx.expire c
  | operate op => exact hx.operate (hevent ▸ henabled)

/-- **One step tracks what the live connections hold**, and that those to come hold nothing. -/
theorem Step.tracks (hx : x.Inv) (hstep : Step x l y)
    (h : ∀ c, c ∈ x.live ∨ c ∉ x.known → x.Tracks history c) :
    ∀ c, c ∈ y.live ∨ c ∉ y.known → y.Tracks (history ++ [l]) c := by
  intro c hc
  have hinv := hstep.inv hx
  obtain ⟨henabled, hnext⟩ := hstep
  obtain ⟨event, answer⟩ := l
  dsimp only at henabled hnext
  cases event with
  | connect d =>
    obtain ⟨-, rfl⟩ := Prod.mk.inj hnext
    refine (h c ?_).of_lock rfl (by simp)
    rcases hc with hlive | hunknown
    · rcases List.mem_cons.mp hlive with rfl | hlive
      · exact .inr henabled.1
      · exact .inl hlive
    · exact .inr fun hknown => hunknown (List.mem_cons_of_mem _ hknown)
  | expire d =>
    obtain ⟨-, rfl⟩ := Prod.mk.inj hnext
    exact (h c (hc.imp_left fun hlive => (List.mem_filter.mp hlive).1)).of_lock rfl (by simp)
  | operate op =>
    have hcounts := CompassLock.counts_perform op hx.lock hx.distinct
      (fun d hd => alive_iff.mpr (henabled d hd)) (d := c)
    generalize hr : op.perform x.alive x.lock = r at hcounts
    have hstep : (⟨⟨.operate op, r.1⟩, { x with lock := r.2 }⟩ : LockLabel × LockHistory)
        = (⟨.operate op, answer⟩, y) := by
      rw [← hr]
      exact hnext
    obtain ⟨hl, rfl⟩ := Prod.mk.inj hstep
    obtain rfl : r.1 = answer := congrArg LockLabel.answer hl
    obtain ⟨hshared, hexclusive⟩ := h c hc
    simp only [Tracks, succeeded_concat, LockLabel.mk.injEq, LockEvent.operate.injEq]
    rcases hc with hlive | hunknown
    · obtain ⟨hs, he⟩ := hcounts (alive_iff.mpr hlive)
      rw [hs, he, hshared, hexclusive]
      push_cast
      exact ⟨by ring, by ring⟩
    · have hother (op' : LockOperation) (hop' : op'.connection = some c) : op ≠ op' := by
        rintro rfl
        exact hunknown (hx.known c (henabled c hop'))
      simp only [hother (.tryLockShared c) rfl, hother (.releaseLockShared c) rfl,
        hother (.tryLockExclusive c) rfl, hother (.releaseLockExclusive c) rfl, false_and, if_false,
        Nat.add_zero]
      rw [(hinv.unknown c hunknown).1, (hinv.unknown c hunknown).2]
      rw [(hx.unknown c hunknown).1] at hshared
      rw [(hx.unknown c hunknown).2] at hexclusive
      exact ⟨hshared, hexclusive⟩

/-- **Whole histories.** -/
theorem tracks_of_run (hrun : Lts.Run Step start history x) :
    x.Inv ∧ ∀ c, c ∈ x.live ∨ c ∉ x.known → x.Tracks history c := by
  refine hrun.historyInvariant
    (J := fun history x => x.Inv ∧ ∀ c, c ∈ x.live ∨ c ∉ x.known → x.Tracks history c)
    (fun h hstep => ⟨hstep.inv h.1, hstep.tracks h.1 h.2⟩) ⟨inv_start, fun c _ => ?_⟩
  exact ⟨rfl, rfl⟩

/-- Every live entry of the lock is this connection's. -/
def HeldOnlyBy (x : LockHistory) (c : Connection) : Prop :=
  ∀ e ∈ x.lock.readers.entries ++ x.lock.writers.entries, x.alive e.2 → e.2 = c

theorem heldOnlyBy_iff {c : Connection} :
    x.HeldOnlyBy c ↔ ∀ d, x.alive d → d ≠ c → x.lock.shared d = 0 ∧ x.lock.exclusive d = 0 := by
  rw [HeldOnlyBy, List.forall_mem_append, Holders.forall_live_iff, Holders.forall_live_iff]
  exact ⟨fun h d hd hne => ⟨h.1 d hd hne, h.2 d hd hne⟩,
    fun h => ⟨fun d hd hne => (h d hd hne).1, fun d hd hne => (h d hd hne).2⟩⟩

end LockHistory

/-- **A recursive readers-writer lock**, after some history. -/
structure IsRecursiveLock (history : List LockLabel) (x : LockHistory) : Prop where
  exclusion : ∀ w ∈ x.lock.writers.entries, x.alive w.2 → x.HeldOnlyBy w.2
  tryLockExclusive : ∀ c ∈ x.live,
    (x.lock.tryLockExclusive x.alive c).1 = true ↔ x.HeldOnlyBy c
  tryLockShared : ∀ c ∈ x.live, (x.lock.tryLockShared x.alive c).1 = true ↔
    ∀ e ∈ x.lock.writers.entries, x.alive e.2 → e.2 = c
  tracks : ∀ c ∈ x.live, x.Tracks history c
  releaseLockShared : ∀ c ∈ x.live,
    (x.lock.releaseLockShared x.alive c).1 = true ↔ 0 < x.lock.shared c
  releaseLockExclusive : ∀ c ∈ x.live,
    (x.lock.releaseLockExclusive x.alive c).1 = true ↔ 0 < x.lock.exclusive c
  others : ∀ op, x.Enabled (.operate op) → ∀ d ∈ x.live, op.connection ≠ some d →
    (op.perform x.alive x.lock).2.shared d = x.lock.shared d ∧
      (op.perform x.alive x.lock).2.exclusive d = x.lock.exclusive d

/-- **`Compass_lock` is a recursive readers-writer lock**, after any history. -/
theorem recursive_lock {history : List LockLabel} {x : LockHistory}
    (hrun : Lts.Run LockHistory.Step .start history x) : IsRecursiveLock history x := by
  obtain ⟨hinv, htracks⟩ := LockHistory.tracks_of_run hrun
  have hlive {c : Connection} (hc : c ∈ x.live) : x.alive c = true := LockHistory.alive_iff.mpr hc
  refine ⟨fun w hw halive => ?_, fun c hc => ?_, fun c hc => ?_, fun c hc => htracks c (.inl hc),
    fun c hc => CompassLock.releaseLockShared_iff hinv.lock hinv.distinct (hlive hc),
    fun c hc => CompassLock.releaseLockExclusive_iff hinv.lock hinv.distinct (hlive hc),
    fun op henabled d hd hne => ?_⟩
  · have hpos : 0 < x.lock.exclusive w.2 := FlatMultimap.count_pos_iff.mpr ⟨w.1, hw⟩
    exact LockHistory.heldOnlyBy_iff.mpr fun d hd hne => hinv.lock.exclusion halive hd hpos hne
  · rw [LockHistory.heldOnlyBy_iff]
    exact CompassLock.tryLockExclusive_iff hinv.lock hinv.distinct (hlive hc)
  · rw [Holders.forall_live_iff]
    exact CompassLock.tryLockShared_iff hinv.lock hinv.distinct (hlive hc)
  · obtain ⟨hs, he⟩ := CompassLock.counts_perform op hinv.lock hinv.distinct
      (fun c hc => hlive (henabled c hc)) (hlive hd)
    have hother (op' : LockOperation) (hop' : op'.connection = some d) : op ≠ op' := by
      rintro rfl
      exact hne hop'
    simp only [hother (.tryLockShared d) rfl, hother (.releaseLockShared d) rfl, false_and,
      if_false,
      add_zero, sub_zero, Nat.cast_inj] at hs
    simp only [hother (.tryLockExclusive d) rfl, hother (.releaseLockExclusive d) rfl, false_and,
      if_false, add_zero, sub_zero, Nat.cast_inj] at he
    exact ⟨hs, he⟩

/-- A reader upgrades, keeps another out and dies; the other gets in. -/
def lockHistoryTrial : List LockEvent :=
  [.connect ⟨0, 1⟩, .connect ⟨1, 2⟩, .operate (.tryLockShared ⟨0, 1⟩),
    .operate (.tryLockExclusive ⟨0, 1⟩), .operate (.tryLockShared ⟨1, 2⟩), .expire ⟨0, 1⟩,
    .operate (.tryLockShared ⟨1, 2⟩), .operate (.tryLockShared ⟨1, 2⟩),
    .operate (.releaseLockShared ⟨1, 2⟩)]

theorem recursive_lock_trial :
    IsRecursiveLock (Lts.trace LockHistory.next .start lockHistoryTrial)
        (Lts.final LockHistory.next .start lockHistoryTrial) ∧
      (Lts.trace LockHistory.next .start lockHistoryTrial).map LockLabel.answer
        = [true, true, true, true, false, true, true, true, true] ∧
      (Lts.final LockHistory.next .start lockHistoryTrial).lock.shared ⟨1, 2⟩ = 1 :=
  ⟨recursive_lock (Lts.Run.of_admits LockHistory.next LockHistory.Enabled
    (LockHistory.step_next _ _) .start lockHistoryTrial (by decide +kernel)),
    by decide +kernel, by decide +kernel⟩

end Circe.Pilot
