import Circe.Foundations.VersionedRegister
import Mathlib.Logic.Function.Basic

/-!
# Foundations/ExpiringStore — registers that are forgotten when nobody asks for them

A key has a versioned register once it has been written.  An access may write it, and makes it one
that was asked for at that time; a collection forgets the registers that were asked for last at its
expiry time or before.

* `read_access` — an access writes the register of its own key and no other;
* `read_run` — a register that every collection spares is the replay of its writes;
* `spares_of_accessed` — a collection spares what was asked for after its expiry time.
-/

/-- A register, and when it was asked for last. -/
structure Entry (α : Type*) where
  register : Register α
  lastAccess : ℕ
deriving DecidableEq

abbrev ExpiringStore (κ α : Type*) := κ → Option (Entry α)

namespace ExpiringStore

variable {κ α : Type*}

/-- What can be done to a store. -/
inductive Op (κ α : Type*)
  | access (key : κ) (written : Option α) (now : ℕ)
  | collect (expiryTime : ℕ)
  | idle
deriving DecidableEq

variable [Inhabited α] [DecidableEq κ]

/-- The register of a key; one that was never written has the default value and version `0`. -/
def read (s : ExpiringStore κ α) (k : κ) : Register α :=
  ((s k).map Entry.register).getD ⟨default, 0⟩

def apply (s : ExpiringStore κ α) : Op κ α → ExpiringStore κ α
  | .access k none now => Function.update s k ((s k).map fun e => { e with lastAccess := now })
  | .access k (some v) now => Function.update s k (some ⟨(s.read k).write (some v), now⟩)
  | .collect expiryTime => fun k => (s k).filter fun e => expiryTime < e.lastAccess
  | .idle => s

def run (s : ExpiringStore κ α) (ops : List (Op κ α)) : ExpiringStore κ α := ops.foldl apply s

/-- What an operation writes to `k`. -/
def Op.writtenTo (k : κ) : Op κ α → Option α
  | .access k' written _ => if k' = k then written else none
  | _ => none

/-- The operation is not before `time`, if it is an access. -/
def Op.NotBefore (time : ℕ) : Op κ α → Prop
  | .access _ _ now => time ≤ now
  | _ => True

/-- The operation does not forget the register of `k`. -/
def Spares (s : ExpiringStore κ α) (k : κ) : Op κ α → Prop
  | .collect expiryTime => ∀ e ∈ s k, expiryTime < e.lastAccess
  | _ => True

variable {s : ExpiringStore κ α} {k k' : κ} {op : Op κ α} {ops : List (Op κ α)}

theorem run_append (s : ExpiringStore κ α) (ops ops' : List (Op κ α)) :
    s.run (ops ++ ops') = (s.run ops).run ops' := List.foldl_append

theorem run_cons (s : ExpiringStore κ α) (op : Op κ α) (ops : List (Op κ α)) :
    s.run (op :: ops) = (s.apply op).run ops := rfl

/-! ## One operation -/

/-- An access leaves the entries of other keys. -/
theorem apply_access_of_ne (h : k' ≠ k) (written : Option α) (now : ℕ) :
    s.apply (.access k' written now) k = s k := by
  cases written <;> exact Function.update_of_ne h.symm ..

/-- **An access writes the register of its own key.** -/
theorem read_access (s : ExpiringStore κ α) (k k' : κ) (written : Option α) (now : ℕ) :
    (s.apply (.access k written now)).read k' =
      (s.read k').write (if k = k' then written else none) := by
  by_cases hk : k = k'
  · subst hk
    cases written with
    | none => cases h : s k <;> simp [apply, read, h]
    | some v => simp [apply, read]
  · rw [read, apply_access_of_ne hk, if_neg hk]
    rfl

/-- A key that has no entry after an access had none before. -/
theorem eq_none_of_apply_access {written : Option α} {now : ℕ}
    (h : s.apply (.access k written now) k = none) : s k = none := by
  cases written with
  | none => simpa [apply] using h
  | some v => simp [apply] at h

/-- A collection leaves an entry that it spares. -/
theorem apply_collect_of_spares {expiryTime : ℕ} (h : s.Spares k (.collect expiryTime)) :
    s.apply (.collect expiryTime) k = s k := by
  simp only [apply]
  cases hentry : s k with
  | none => rfl
  | some e => exact Option.filter_some_pos (by simpa using h e hentry)

/-- A register that is spared moves by what is written to it. -/
theorem read_apply (h : s.Spares k op) :
    (s.apply op).read k = (s.read k).write (op.writtenTo k) := by
  cases op with
  | access k' written now => exact s.read_access k' k written now
  | collect expiryTime =>
    rw [read, apply_collect_of_spares h]
    rfl
  | idle => rfl

/-! ## Many operations -/

/-- **A register that is spared is the replay of its writes.** -/
theorem read_run (h : ∀ pre op post, ops = pre ++ op :: post → (s.run pre).Spares k op) :
    (s.run ops).read k = (s.read k).replay (ops.map (Op.writtenTo k)) := by
  induction ops generalizing s with
  | nil => rfl
  | cons op ops ih =>
    have hfirst : s.Spares k op := h [] op ops rfl
    rw [run_cons, ih fun pre op' post hsplit => h (op :: pre) op' post (by rw [hsplit]; rfl),
      read_apply hfirst]
    rfl

/-- A key that was asked for at `time` or later. -/
def AskedSince (s : ExpiringStore κ α) (k : κ) (time : ℕ) : Prop :=
  ∀ e ∈ s k, time ≤ e.lastAccess

theorem askedSince_access (s : ExpiringStore κ α) (k : κ) (written : Option α) (now : ℕ) :
    (s.apply (.access k written now)).AskedSince k now := by
  intro e he
  cases written with
  | none =>
    rw [apply, Function.update_self] at he
    obtain ⟨_, -, rfl⟩ := Option.map_eq_some_iff.mp he
    exact le_rfl
  | some v =>
    rw [apply, Function.update_self] at he
    obtain rfl := Option.some.inj he
    exact le_rfl

theorem AskedSince.apply {time : ℕ} (h : s.AskedSince k time) (hop : op.NotBefore time) :
    (s.apply op).AskedSince k time := by
  cases op with
  | access k' written now =>
    by_cases hk : k' = k
    · subst hk
      exact fun e he => hop.trans (askedSince_access s k' written now e he)
    · rw [AskedSince, apply_access_of_ne hk]
      exact h
  | collect expiryTime => exact fun e he => h e (Option.filter_eq_some_iff.mp he).1
  | idle => exact h

theorem AskedSince.run {time : ℕ} (h : s.AskedSince k time) (hops : ∀ op ∈ ops, op.NotBefore time) :
    (s.run ops).AskedSince k time := by
  induction ops generalizing s with
  | nil => exact h
  | cons op ops ih =>
    obtain ⟨hop, hrest⟩ := List.forall_mem_cons.mp hops
    exact ih (h.apply hop) hrest

/-- **A collection spares what was asked for after its expiry time.** -/
theorem spares_of_accessed {pre post : List (Op κ α)} {written : Option α} {now expiryTime : ℕ}
    (hpost : ∀ op ∈ post, op.NotBefore now) (hlate : expiryTime < now) :
    (s.run (pre ++ .access k written now :: post)).Spares k (.collect expiryTime) := by
  rw [run_append, run_cons]
  exact fun e he => hlate.trans_le ((askedSince_access _ k written now).run hpost e he)

end ExpiringStore
