import Circe.Foundations.FlatMap
import Circe.Protocol.Basic
import Mathlib.Tactic.Ring

/-!
# Pilot/CompassLock — the lock table of a compass

Entries are weak pointers to connections: an entry whose connection is gone is dropped the next time
anyone looks.  What is alive at a look is a parameter (`Alive`), so an operation is a function of
the table and of the liveness it finds.

* `Inv` — entries stand under their connection's UUID, and a live writer excludes every other live
  connection;
* `Changed c s x l l'` — the table went from `l` to `l'` and, among live connections, only `c`'s
  counts moved: by `s` shared and `x` exclusive locks.

Every operation keeps `Inv` and is described by one `Changed`; `Changed.trans` adds the amounts up.
-/

namespace Circe.Pilot

/-- A `Common::Interserver_connection` as the pilot sees it: the object, by its identity, and the
UUID it took from its hello. -/
structure Connection where
  id : ℕ
  connectionUuid : Uuid
deriving DecidableEq

/-- Which connection objects a look at weak pointers still finds. -/
abbrev Alive := Connection → Bool

/-- Distinct live connections have distinct UUIDs. -/
def DistinctUuids (alive : Alive) : Prop :=
  ∀ c d : Connection, alive c → alive d → c.connectionUuid = d.connectionUuid → c = d

/-! ## One table of holders

`m_readers` and `m_writers` are two tables of one kind; what a look at a table of live entries says
is proved once for both. -/

/-- Who holds a lock, one entry an acquisition. -/
abbrev Holders := FlatMultimap Uuid Connection

namespace Holders

/-- Entries stand under their connection's UUID. -/
def Keyed (m : Holders) : Prop := ∀ e ∈ m.entries, e.1 = e.2.connectionUuid

/-- The entries whose connection is still there. -/
def live (alive : Alive) (m : Holders) : Holders := m.eraseIf fun c => !alive c

variable {alive : Alive} {m : Holders} {c : Connection}

@[simp] theorem count_live (hc : alive c = true) : (m.live alive).count c = m.count c :=
  FlatMultimap.count_eraseIf_of_not (by simp [hc])

theorem mem_live {e : Uuid × Connection} :
    e ∈ (m.live alive).entries ↔ e ∈ m.entries ∧ alive e.2 := by
  simp [live]

theorem Keyed.live (h : m.Keyed) : (m.live alive).Keyed := fun e he => h e (mem_live.mp he).1

theorem Keyed.emplace (h : m.Keyed) (c : Connection) :
    Keyed (m.emplace c.connectionUuid c) := fun e he => by
  rcases FlatMultimap.mem_entries_emplace.mp he with rfl | he
  · rfl
  · exact h e he

theorem Keyed.eraseFirst (h : m.Keyed) (k : Uuid) : Keyed (m.eraseFirst k) :=
  fun e he => h e (FlatMultimap.mem_of_mem_eraseFirst he)

/-- A live entry under a live connection's UUID is that connection's own. -/
theorem Keyed.own (h : m.Keyed) (huuid : DistinctUuids alive) (hc : alive c)
    {e : Uuid × Connection} (he : e ∈ (m.live alive).entries) (hkey : e.1 = c.connectionUuid) :
    e.2 = c := by
  obtain ⟨hmem, halive⟩ := mem_live.mp he
  exact huuid _ _ halive hc ((h e hmem).symm.trans hkey)

/-- **The table knows a live connection's UUID exactly when that connection is a holder.** -/
theorem Keyed.contains_iff (h : m.Keyed) (huuid : DistinctUuids alive) (hc : alive c) :
    (m.live alive).contains c.connectionUuid = true ↔ 0 < m.count c := by
  rw [← count_live hc, FlatMultimap.count_pos_iff, FlatMultimap.contains_iff]
  constructor
  · rintro ⟨⟨k, d⟩, he, hkey⟩
    obtain rfl : d = c := h.own huuid hc he hkey
    exact ⟨k, he⟩
  · rintro ⟨k, hk⟩
    exact ⟨(k, c), hk, h.live _ hk⟩

/-- The range of a live connection's UUID is the whole table when nobody else alive is in it. -/
theorem Keyed.onlyKey_iff (h : m.Keyed) (huuid : DistinctUuids alive) (hc : alive c) :
    (m.live alive).onlyKey c.connectionUuid = true ↔ ∀ d, alive d → d ≠ c → m.count d = 0 := by
  rw [FlatMultimap.onlyKey_iff]
  constructor
  · intro hall d hd hne
    by_contra hpos
    rw [← count_live hd] at hpos
    obtain ⟨k, hk⟩ := FlatMultimap.count_pos_iff.mp (Nat.pos_of_ne_zero hpos)
    exact hne (h.own huuid hc hk (hall _ hk))
  · rintro hzero ⟨k, d⟩ he
    have hd : alive d := (mem_live.mp he).2
    obtain rfl | hne := eq_or_ne d c
    · exact h.live _ he
    · have hpos : 0 < (m.live alive).count d := FlatMultimap.count_pos_iff.mpr ⟨k, he⟩
      rw [count_live hd, hzero d hd hne] at hpos
      exact absurd hpos (lt_irrefl 0)

theorem isEmpty_iff : (m.live alive).isEmpty = true ↔ ∀ d, alive d → m.count d = 0 := by
  rw [FlatMultimap.isEmpty_iff]
  constructor
  · intro hnone d hd
    by_contra hpos
    rw [← count_live hd] at hpos
    obtain ⟨k, hk⟩ := FlatMultimap.count_pos_iff.mp (Nat.pos_of_ne_zero hpos)
    exact hnone _ hk
  · rintro hzero ⟨k, d⟩ he
    have hd : alive d := (mem_live.mp he).2
    have hpos : 0 < (m.live alive).count d := FlatMultimap.count_pos_iff.mpr ⟨k, he⟩
    rw [count_live hd, hzero d hd] at hpos
    exact absurd hpos (lt_irrefl 0)

/-- Releasing one acquisition of a live holder. -/
theorem Keyed.count_eraseFirst (h : m.Keyed) (huuid : DistinctUuids alive) (hc : alive c)
    (hpos : 0 < m.count c) {d : Connection} (hd : alive d) :
    ((m.live alive).eraseFirst c.connectionUuid).count d = m.count d - if c = d then 1 else 0 := by
  rw [FlatMultimap.count_eraseFirst d (fun e he hkey => h.own huuid hc he hkey)
    ((h.contains_iff huuid hc).mpr hpos), count_live hd]

end Holders

/-! ## The source's operations -/

structure CompassLock where
  readers : Holders
  writers : Holders
deriving DecidableEq

namespace CompassLock

/-- A lock nobody holds. -/
def empty : CompassLock := ⟨.empty, .empty⟩

instance : Inhabited CompassLock := ⟨empty⟩

def collectExpiredConnections (alive : Alive) (l : CompassLock) : CompassLock where
  readers := l.readers.live alive
  writers := l.writers.live alive

def isLockedShared (alive : Alive) (l : CompassLock) : Bool × CompassLock :=
  let l := l.collectExpiredConnections alive
  (!l.readers.isEmpty && l.writers.isEmpty, l)

def isLockedSharedBy (alive : Alive) (connectionUuid : Uuid) (l : CompassLock) :
    Bool × CompassLock :=
  let l := l.collectExpiredConnections alive
  (l.readers.contains connectionUuid, l)

def tryLockShared (alive : Alive) (connection : Connection) (l : CompassLock) :
    Bool × CompassLock :=
  let l := l.collectExpiredConnections alive
  -- Allow recursive locking; at the first attempt only this connection may be a writer.
  if !l.readers.contains connection.connectionUuid &&
      !l.writers.onlyKey connection.connectionUuid then
    (false, l)
  else
    (true, { l with readers := l.readers.emplace connection.connectionUuid connection })

def releaseLockShared (alive : Alive) (connection : Connection) (l : CompassLock) :
    Bool × CompassLock :=
  let l := l.collectExpiredConnections alive
  if l.readers.contains connection.connectionUuid then
    (true, { l with readers := l.readers.eraseFirst connection.connectionUuid })
  else
    (false, l)

def isLockedExclusive (alive : Alive) (l : CompassLock) : Bool × CompassLock :=
  let l := l.collectExpiredConnections alive
  (!l.writers.isEmpty, l)

def isLockedExclusiveBy (alive : Alive) (connectionUuid : Uuid) (l : CompassLock) :
    Bool × CompassLock :=
  let l := l.collectExpiredConnections alive
  (l.writers.contains connectionUuid, l)

def tryLockExclusive (alive : Alive) (connection : Connection) (l : CompassLock) :
    Bool × CompassLock :=
  let l := l.collectExpiredConnections alive
  -- Allow recursive locking; at the first attempt there must be no other reader and no writer.
  if !l.writers.contains connection.connectionUuid &&
      (!l.readers.onlyKey connection.connectionUuid || !l.writers.isEmpty) then
    (false, l)
  else
    (true, { l with writers := l.writers.emplace connection.connectionUuid connection })

def releaseLockExclusive (alive : Alive) (connection : Connection) (l : CompassLock) :
    Bool × CompassLock :=
  let l := l.collectExpiredConnections alive
  if l.writers.contains connection.connectionUuid then
    (true, { l with writers := l.writers.eraseFirst connection.connectionUuid })
  else
    (false, l)

/-! ## Counts and the invariant -/

/-- The shared locks a connection holds, entry by entry. -/
def shared (l : CompassLock) (c : Connection) : ℕ := l.readers.count c

/-- The exclusive locks a connection holds, entry by entry. -/
def exclusive (l : CompassLock) (c : Connection) : ℕ := l.writers.count c

/-- Entries stand under their connection's UUID, and a live writer excludes every other live
connection. -/
structure Inv (alive : Alive) (l : CompassLock) : Prop where
  keyedReaders : l.readers.Keyed
  keyedWriters : l.writers.Keyed
  exclusion : ∀ {c d : Connection}, alive c → alive d → 0 < l.exclusive c → d ≠ c →
    l.shared d = 0 ∧ l.exclusive d = 0

theorem inv_empty (alive : Alive) : Inv alive empty :=
  ⟨by simp [empty, Holders.Keyed], by simp [empty, Holders.Keyed], by simp [empty, exclusive]⟩

/-- **Deaths keep the invariant**: it speaks of live connections only. -/
theorem Inv.anti {alive alive' : Alive} {l : CompassLock} (h : Inv alive l)
    (hsub : ∀ c, alive' c → alive c) : Inv alive' l :=
  ⟨h.keyedReaders, h.keyedWriters, fun hc hd => h.exclusion (hsub _ hc) (hsub _ hd)⟩

/-- **Among live connections only `c`'s counts moved**, by `s` shared and `x` exclusive locks; the
counts of a connection that is gone can only shrink. -/
structure Changed (alive : Alive) (c : Connection) (s x : ℤ) (l l' : CompassLock) : Prop where
  shared : ∀ d, alive d → (l'.shared d : ℤ) = l.shared d + if c = d then s else 0
  exclusive : ∀ d, alive d → (l'.exclusive d : ℤ) = l.exclusive d + if c = d then x else 0
  others : ∀ d, d ≠ c → l'.shared d ≤ l.shared d ∧ l'.exclusive d ≤ l.exclusive d

section Changed

variable {alive alive' : Alive} {c : Connection} {s s' x x' : ℤ} {l l' l'' : CompassLock}

theorem Changed.refl (alive : Alive) (c : Connection) (l : CompassLock) : Changed alive c 0 0 l l :=
  ⟨by simp, by simp, by simp⟩

theorem Changed.anti (h : Changed alive c s x l l') (hsub : ∀ d, alive' d → alive d) :
    Changed alive' c s x l l' :=
  ⟨fun d hd => h.shared d (hsub d hd), fun d hd => h.exclusive d (hsub d hd), h.others⟩

theorem Changed.trans (h : Changed alive c s x l l') (h' : Changed alive c s' x' l' l'') :
    Changed alive c (s + s') (x + x') l l'' where
  shared d hd := by
    rw [h'.shared d hd, h.shared d hd]
    split <;> ring
  exclusive d hd := by
    rw [h'.exclusive d hd, h.exclusive d hd]
    split <;> ring
  others d hne := ⟨(h'.others d hne).1.trans (h.others d hne).1,
    (h'.others d hne).2.trans (h.others d hne).2⟩

theorem Changed.shared_other (h : Changed alive c s x l l') {d : Connection} (hd : alive d)
    (hne : d ≠ c) : l'.shared d = l.shared d := by
  have := h.shared d hd
  rw [if_neg hne.symm] at this
  omega

theorem Changed.exclusive_other (h : Changed alive c s x l l') {d : Connection} (hd : alive d)
    (hne : d ≠ c) : l'.exclusive d = l.exclusive d := by
  have := h.exclusive d hd
  rw [if_neg hne.symm] at this
  omega

theorem Changed.shared_self (h : Changed alive c s x l l') (hc : alive c) :
    (l'.shared c : ℤ) = l.shared c + s := by
  simpa using h.shared c hc

theorem Changed.exclusive_self (h : Changed alive c s x l l') (hc : alive c) :
    (l'.exclusive c : ℤ) = l.exclusive c + x := by
  simpa using h.exclusive c hc

end Changed

/-! ## What each operation does

`Effect alive c s x l r`: the operation left the table `r.2`, which satisfies the invariant again;
where it answered `true` it changed `c`'s counts by `s` and `x`, and where `false` nobody's. -/

structure Effect (alive : Alive) (c : Connection) (s x : ℤ) (l : CompassLock)
    (r : Bool × CompassLock) : Prop where
  inv : Inv alive r.2
  changed : Changed alive c (if r.1 then s else 0) (if r.1 then x else 0) l r.2

section Operations

variable {alive : Alive} {l : CompassLock} {c : Connection}

theorem collect_le (alive : Alive) (l : CompassLock) (d : Connection) :
    (l.collectExpiredConnections alive).shared d ≤ l.shared d ∧
      (l.collectExpiredConnections alive).exclusive d ≤ l.exclusive d :=
  ⟨l.readers.count_eraseIf_le _ d, l.writers.count_eraseIf_le _ d⟩

theorem changed_collect (alive : Alive) (c : Connection) (l : CompassLock) :
    Changed alive c 0 0 l (l.collectExpiredConnections alive) where
  shared d hd := by simp [CompassLock.shared, collectExpiredConnections, hd]
  exclusive d hd := by simp [CompassLock.exclusive, collectExpiredConnections, hd]
  others d _ := collect_le alive l d

@[simp] theorem count_collect_readers {d : Connection} (hd : alive d) :
    (l.collectExpiredConnections alive).readers.count d = l.shared d := Holders.count_live hd

@[simp] theorem count_collect_writers {d : Connection} (hd : alive d) :
    (l.collectExpiredConnections alive).writers.count d = l.exclusive d := Holders.count_live hd

theorem Inv.collect (h : Inv alive l) : Inv alive (l.collectExpiredConnections alive) where
  keyedReaders := h.keyedReaders.live
  keyedWriters := h.keyedWriters.live
  exclusion {d e} hd he hpos hne := by
    have hch := changed_collect alive d l
    have hx : (l.collectExpiredConnections alive).exclusive d = l.exclusive d := by
      simpa using hch.exclusive_self hd
    rw [hch.shared_other he hne, hch.exclusive_other he hne]
    exact h.exclusion hd he (hx ▸ hpos) hne

theorem Inv.readers_contains_iff (h : Inv alive l) (huuid : DistinctUuids alive) (hc : alive c) :
    (l.collectExpiredConnections alive).readers.contains c.connectionUuid = true
      ↔ 0 < l.shared c := h.keyedReaders.contains_iff huuid hc

theorem Inv.writers_contains_iff (h : Inv alive l) (huuid : DistinctUuids alive) (hc : alive c) :
    (l.collectExpiredConnections alive).writers.contains c.connectionUuid = true
      ↔ 0 < l.exclusive c := h.keyedWriters.contains_iff huuid hc

theorem Inv.readers_onlyKey_iff (h : Inv alive l) (huuid : DistinctUuids alive) (hc : alive c) :
    (l.collectExpiredConnections alive).readers.onlyKey c.connectionUuid = true
      ↔ ∀ d, alive d → d ≠ c → l.shared d = 0 := h.keyedReaders.onlyKey_iff huuid hc

theorem Inv.writers_onlyKey_iff (h : Inv alive l) (huuid : DistinctUuids alive) (hc : alive c) :
    (l.collectExpiredConnections alive).writers.onlyKey c.connectionUuid = true
      ↔ ∀ d, alive d → d ≠ c → l.exclusive d = 0 := h.keyedWriters.onlyKey_iff huuid hc

theorem writers_isEmpty_iff : (l.collectExpiredConnections alive).writers.isEmpty = true
      ↔ ∀ d, alive d → l.exclusive d = 0 := Holders.isEmpty_iff

/-- A look alone: expired entries go, nobody's live count moves. -/
theorem effect_collect (h : Inv alive l) (c : Connection) (b : Bool) :
    Effect alive c 0 0 l (b, l.collectExpiredConnections alive) :=
  ⟨h.collect, by simpa using changed_collect alive c l⟩

/-- **`try_lock_shared` answers `true` exactly when no other live connection is a writer.**  A
connection that already reads is let through unchecked; the invariant says the check would pass. -/
theorem tryLockShared_iff (h : Inv alive l) (huuid : DistinctUuids alive) (hc : alive c) :
    (l.tryLockShared alive c).1 = true ↔ ∀ d, alive d → d ≠ c → l.exclusive d = 0 := by
  have hcontains := h.readers_contains_iff huuid hc
  have honly := h.writers_onlyKey_iff huuid hc
  have hrec : 0 < l.shared c → ∀ d, alive d → d ≠ c → l.exclusive d = 0 := by
    intro hpos d hd hne
    by_contra hx
    have := (h.exclusion hd hc (Nat.pos_of_ne_zero hx) hne.symm).1
    omega
  simp only [tryLockShared]
  split
  case isTrue hcond =>
    simp only [Bool.and_eq_true, Bool.not_eq_true'] at hcond
    simp only [Bool.false_eq_true, false_iff]
    intro hzero
    rw [honly.mpr hzero] at hcond
    exact absurd hcond.2 (by simp)
  case isFalse hcond =>
    simp only [Bool.and_eq_true, Bool.not_eq_true', not_and, Bool.not_eq_false] at hcond
    simp only [true_iff]
    by_cases hpos : 0 < l.shared c
    · exact hrec hpos
    · exact honly.mp (hcond (by rwa [← Bool.not_eq_true, hcontains]))

/-- **`try_lock_exclusive` answers `true` exactly when no other live connection holds anything.** -/
theorem tryLockExclusive_iff (h : Inv alive l) (huuid : DistinctUuids alive) (hc : alive c) :
    (l.tryLockExclusive alive c).1 = true
      ↔ ∀ d, alive d → d ≠ c → l.shared d = 0 ∧ l.exclusive d = 0 := by
  have hcontains := h.writers_contains_iff huuid hc
  have honly := h.readers_onlyKey_iff huuid hc
  simp only [tryLockExclusive]
  split
  case isTrue hcond =>
    simp only [Bool.and_eq_true, Bool.or_eq_true, Bool.not_eq_true'] at hcond
    simp only [Bool.false_eq_true, false_iff]
    intro hzero
    rcases hcond.2 with hreaders | hwriters
    · rw [honly.mpr fun d hd hne => (hzero d hd hne).1] at hreaders
      exact absurd hreaders (by simp)
    · have hself : l.exclusive c = 0 := by
        by_contra hx
        have := hcontains.mpr (Nat.pos_of_ne_zero hx)
        rw [hcond.1] at this
        exact absurd this (by simp)
      have hnone : ∀ d, alive d → l.exclusive d = 0 := fun d hd => by
        obtain rfl | hne := eq_or_ne d c
        · exact hself
        · exact (hzero d hd hne).2
      rw [writers_isEmpty_iff.mpr hnone] at hwriters
      exact absurd hwriters (by simp)
  case isFalse hcond =>
    simp only [Bool.and_eq_true, Bool.or_eq_true, Bool.not_eq_true', not_and, not_or,
      Bool.not_eq_false] at hcond
    simp only [true_iff]
    by_cases hpos : 0 < l.exclusive c
    · exact fun d hd hne => h.exclusion hc hd hpos hne
    · obtain ⟨hreaders, hwriters⟩ := hcond (by rwa [← Bool.not_eq_true, hcontains])
      exact fun d hd hne => ⟨honly.mp hreaders d hd hne, writers_isEmpty_iff.mp hwriters d hd⟩

theorem tryLockShared_effect (h : Inv alive l) (huuid : DistinctUuids alive) (hc : alive c) :
    Effect alive c 1 0 l (l.tryLockShared alive c) := by
  have hiff := tryLockShared_iff h huuid hc
  have hch := changed_collect alive c l
  simp only [tryLockShared] at hiff ⊢
  split at hiff
  case isTrue hcond =>
    rw [if_pos hcond]
    exact ⟨h.collect, by simpa using hch⟩
  case isFalse hcond =>
    rw [if_neg hcond]
    have hfree := hiff.mp rfl
    have hgrant : Changed alive c 1 0 l { l.collectExpiredConnections alive with
        readers := (l.collectExpiredConnections alive).readers.emplace c.connectionUuid c } :=
      { shared := fun d hd => by
          simp [CompassLock.shared, FlatMultimap.count_emplace, count_collect_readers hd]
        exclusive := fun d hd => by simp [CompassLock.exclusive, count_collect_writers hd]
        others := fun d hne => by
          simpa [CompassLock.shared, CompassLock.exclusive, FlatMultimap.count_emplace, hne.symm]
            using collect_le alive l d }
    refine ⟨⟨h.collect.keyedReaders.emplace c, h.collect.keyedWriters,
      fun {d e} hd he hpos hne => ?_⟩,
      hgrant⟩
    have hx : ∀ f, alive f → _ = l.exclusive f := fun f hf => by
      have := hgrant.exclusive f hf
      simp only [ite_self, add_zero, Nat.cast_inj] at this
      exact this
    rw [hx d hd] at hpos
    rw [hx e he]
    obtain ⟨hs, hx'⟩ := h.exclusion hd he hpos hne
    -- A live writer is `c` itself, so `e` is not the new reader.
    have hdc : d = c := by
      by_contra hdc
      exact absurd (hfree d hd hdc) (by omega)
    exact ⟨(hgrant.shared_other he (hdc ▸ hne)).trans hs, hx'⟩

theorem tryLockExclusive_effect (h : Inv alive l) (huuid : DistinctUuids alive) (hc : alive c) :
    Effect alive c 0 1 l (l.tryLockExclusive alive c) := by
  have hiff := tryLockExclusive_iff h huuid hc
  have hch := changed_collect alive c l
  simp only [tryLockExclusive] at hiff ⊢
  split at hiff
  case isTrue hcond =>
    rw [if_pos hcond]
    exact ⟨h.collect, by simpa using hch⟩
  case isFalse hcond =>
    rw [if_neg hcond]
    have hfree := hiff.mp rfl
    have hgrant : Changed alive c 0 1 l { l.collectExpiredConnections alive with
        writers := (l.collectExpiredConnections alive).writers.emplace c.connectionUuid c } :=
      { shared := fun d hd => by simp [CompassLock.shared, count_collect_readers hd]
        exclusive := fun d hd => by
          simp [CompassLock.exclusive, FlatMultimap.count_emplace, count_collect_writers hd]
        others := fun d hne => by
          simpa [CompassLock.shared, CompassLock.exclusive, FlatMultimap.count_emplace, hne.symm]
            using collect_le alive l d }
    refine ⟨⟨h.collect.keyedReaders, h.collect.keyedWriters.emplace c,
      fun {d e} hd he hpos hne => ?_⟩,
      hgrant⟩
    -- Everybody but `c` holds nothing, so the writer `d` is `c` and `e` is not.
    have hdc : d = c := by
      by_contra hdc
      rw [hgrant.exclusive_other hd hdc, (hfree d hd hdc).2] at hpos
      exact absurd hpos (lt_irrefl 0)
    have hec : e ≠ c := hdc ▸ hne
    rw [hgrant.shared_other he hec, hgrant.exclusive_other he hec]
    exact hfree e he hec

/-- Entries that only go away keep the invariant. -/
theorem Inv.of_le {l' : CompassLock} (h : Inv alive l) (hr : l'.readers.Keyed)
    (hw : l'.writers.Keyed) (hs : ∀ d, alive d → l'.shared d ≤ l.shared d)
    (hx : ∀ d, alive d → l'.exclusive d ≤ l.exclusive d) : Inv alive l' where
  keyedReaders := hr
  keyedWriters := hw
  exclusion {d e} hd he hpos hne := by
    obtain ⟨hs', hx'⟩ := h.exclusion hd he (hpos.trans_le (hx d hd)) hne
    exact ⟨Nat.le_zero.mp (hs' ▸ hs e he), Nat.le_zero.mp (hx' ▸ hx e he)⟩

/-- **`release_lock_shared` succeeds exactly when the connection reads.** -/
theorem releaseLockShared_iff (h : Inv alive l) (huuid : DistinctUuids alive) (hc : alive c) :
    (l.releaseLockShared alive c).1 = true ↔ 0 < l.shared c := by
  rw [← h.readers_contains_iff huuid hc]
  simp only [releaseLockShared]
  split <;> simp_all

/-- **`release_lock_exclusive` succeeds exactly when the connection writes.** -/
theorem releaseLockExclusive_iff (h : Inv alive l) (huuid : DistinctUuids alive) (hc : alive c) :
    (l.releaseLockExclusive alive c).1 = true ↔ 0 < l.exclusive c := by
  rw [← h.writers_contains_iff huuid hc]
  simp only [releaseLockExclusive]
  split <;> simp_all

theorem releaseLockShared_effect (h : Inv alive l) (huuid : DistinctUuids alive) (hc : alive c) :
    Effect alive c (-1) 0 l (l.releaseLockShared alive c) := by
  have hiff := releaseLockShared_iff h huuid hc
  have hch := changed_collect alive c l
  simp only [releaseLockShared] at hiff ⊢
  split at hiff
  case isFalse hcond =>
    rw [if_neg hcond]
    exact ⟨h.collect, by simpa using hch⟩
  case isTrue hcond =>
    rw [if_pos hcond]
    have hpos := hiff.mp rfl
    have hcount : ∀ d, alive d → _ = l.shared d - if c = d then 1 else 0 := fun d hd =>
      h.keyedReaders.count_eraseFirst huuid hc hpos hd
    refine ⟨h.of_le (h.keyedReaders.live.eraseFirst _) h.keyedWriters.live
      (fun d hd => (hcount d hd).trans_le (Nat.sub_le _ _))
      (fun d hd => (count_collect_writers hd).le), ?_⟩
    refine ⟨fun d hd => ?_, fun d hd => by simp [CompassLock.exclusive, count_collect_writers hd],
      fun d _ => ⟨(FlatMultimap.count_eraseFirst_le ..).trans (collect_le alive l d).1,
        (collect_le alive l d).2⟩⟩
    have := hcount d hd
    simp only [CompassLock.shared, collectExpiredConnections] at this hpos ⊢
    rw [this]
    split
    · simp_all; omega
    · simp_all

theorem releaseLockExclusive_effect (h : Inv alive l) (huuid : DistinctUuids alive) (hc : alive c) :
    Effect alive c 0 (-1) l (l.releaseLockExclusive alive c) := by
  have hiff := releaseLockExclusive_iff h huuid hc
  have hch := changed_collect alive c l
  simp only [releaseLockExclusive] at hiff ⊢
  split at hiff
  case isFalse hcond =>
    rw [if_neg hcond]
    exact ⟨h.collect, by simpa using hch⟩
  case isTrue hcond =>
    rw [if_pos hcond]
    have hpos := hiff.mp rfl
    have hcount : ∀ d, alive d → _ = l.exclusive d - if c = d then 1 else 0 := fun d hd =>
      h.keyedWriters.count_eraseFirst huuid hc hpos hd
    refine ⟨h.of_le h.keyedReaders.live (h.keyedWriters.live.eraseFirst _)
      (fun d hd => (count_collect_readers hd).le)
      (fun d hd => (hcount d hd).trans_le (Nat.sub_le _ _)), ?_⟩
    refine ⟨fun d hd => by simp [CompassLock.shared, count_collect_readers hd], fun d hd => ?_,
      fun d _ => ⟨(collect_le alive l d).1,
        (FlatMultimap.count_eraseFirst_le ..).trans (collect_le alive l d).2⟩⟩
    have := hcount d hd
    simp only [CompassLock.exclusive, collectExpiredConnections] at this hpos ⊢
    rw [this]
    split
    · simp_all; omega
    · simp_all

end Operations

end CompassLock

end Circe.Pilot
