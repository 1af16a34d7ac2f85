import Mathlib.Algebra.Order.Ring.Nat
import Mathlib.Data.List.Infix

/-!
# Foundations/VersionedRegister — a value that counts its writes

A register holds a value and a 64-bit version that every write steps, wrapping around.  While fewer
than `2 ^ 64` writes happen the version tells the states apart: `Register.replay_eq_of_version_eq`.
-/

/-- A value with a version. -/
structure Register (α : Type*) where
  value : α
  version : UInt64
deriving DecidableEq

namespace Register

variable {α : Type*} {r : Register α} {ws : List (Option α)}

/-- Write a value, or none. -/
def write (r : Register α) : Option α → Register α
  | some v => ⟨v, r.version + 1⟩
  | none => r

@[simp] theorem write_none (r : Register α) : r.write none = r := rfl

@[simp] theorem write_some (r : Register α) (v : α) : r.write (some v) = ⟨v, r.version + 1⟩ := rfl

/-- The register after a history, each entry of which may have written. -/
def replay (r : Register α) (ws : List (Option α)) : Register α := ws.foldl write r

@[simp] theorem replay_nil (r : Register α) : r.replay [] = r := rfl

@[simp] theorem replay_append (r : Register α) (ws ws' : List (Option α)) :
    r.replay (ws ++ ws') = (r.replay ws).replay ws' := List.foldl_append

/-- The number of writes of a history. -/
def writes (ws : List (Option α)) : ℕ := ws.countP Option.isSome

@[simp] theorem writes_append (ws ws' : List (Option α)) :
    writes (ws ++ ws') = writes ws + writes ws' := List.countP_append

/-- **The version counts the writes**, modulo `2 ^ 64`. -/
theorem version_replay (r : Register α) (ws : List (Option α)) :
    (r.replay ws).version = r.version + UInt64.ofNat (writes ws) := by
  induction ws generalizing r with
  | nil => simp [writes]
  | cons w ws ih =>
    have hcons : r.replay (w :: ws) = (r.write w).replay ws := rfl
    rw [hcons, ih]
    cases w with
    | none => simp [writes]
    | some v =>
      have hcount : writes (some v :: ws) = writes ws + 1 := by simp [writes]
      rw [hcount, write_some, UInt64.ofNat_add, UInt64.add_assoc, UInt64.add_comm 1]
      rfl

/-- As a number the version does not wrap while it has room. -/
theorem toNat_version_replay (h : r.version.toNat + writes ws < 2 ^ 64) :
    (r.replay ws).version.toNat = r.version.toNat + writes ws := by
  rw [version_replay, UInt64.toNat_add, UInt64.toNat_ofNat', Nat.add_mod_mod, Nat.mod_eq_of_lt h]

/-- A history without writes changes nothing. -/
theorem replay_of_writes_eq_zero (h : writes ws = 0) : r.replay ws = r := by
  induction ws generalizing r with
  | nil => rfl
  | cons w ws ih =>
    cases w with
    | none => exact ih (by simpa [writes] using h)
    | some v => simp [writes] at h

/-- **The same version means the same state**, over fewer than `2 ^ 64` writes. -/
theorem replay_eq_of_version_eq (h : writes ws < 2 ^ 64)
    (hversion : (r.replay ws).version = r.version) : r.replay ws = r := by
  have hnat := congrArg UInt64.toNat hversion
  rw [version_replay, UInt64.toNat_add, UInt64.toNat_ofNat', Nat.add_mod_mod] at hnat
  have hlt := r.version.toNat_lt
  exact replay_of_writes_eq_zero (by omega)

/-- The same for two moments of one history. -/
theorem replay_eq_of_prefix {ws₁ ws₂ : List (Option α)} (h : writes ws < 2 ^ 64)
    (h₁ : ws₁ <+: ws) (h₂ : ws₂ <+: ws)
    (hversion : (r.replay ws₁).version = (r.replay ws₂).version) : r.replay ws₁ = r.replay ws₂ := by
  have hle : ∀ {vs : List (Option α)}, vs <+: ws → writes vs < 2 ^ 64 := fun hpre =>
    (hpre.sublist.countP_le (p := Option.isSome)).trans_lt h
  rcases List.prefix_or_prefix_of_prefix h₁ h₂ with ⟨vs, rfl⟩ | ⟨vs, rfl⟩
  · have := hle h₂
    rw [writes_append] at this
    rw [replay_append] at hversion ⊢
    exact (replay_eq_of_version_eq (by omega) hversion.symm).symm
  · have := hle h₁
    rw [writes_append] at this
    rw [replay_append] at hversion ⊢
    exact replay_eq_of_version_eq (by omega) hversion

end Register
