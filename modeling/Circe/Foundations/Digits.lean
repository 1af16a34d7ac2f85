import Mathlib.Algebra.Order.Ring.Nat
import Mathlib.Data.List.Induction
import Mathlib.Tactic.Ring

/-!
# Foundations/Digits — numbers written with a fixed number of digits

`digits base width n` are the `width` low digits of `n`, the most significant one first, and
`ofDigits` reads them back.  Each undoes the other: a number below `base ^ width` is not changed
(`ofDigits_digits_of_lt`), nor are digits below the base (`digits_ofDigits`).
-/

namespace Digits

/-- The `width` low digits of a number, the most significant one first. -/
def digits (base : ℕ) : ℕ → ℕ → List ℕ
  | 0, _ => []
  | width + 1, n => digits base width (n / base) ++ [n % base]

/-- The number that some digits spell. -/
def ofDigits (base : ℕ) (ds : List ℕ) : ℕ := ds.foldl (fun n d => n * base + d) 0

variable {base width n : ℕ}

@[simp] theorem length_digits (base width n : ℕ) : (digits base width n).length = width := by
  induction width generalizing n with
  | zero => rfl
  | succ width ih => rw [digits, List.length_append, ih, List.length_singleton]

theorem lt_of_mem_digits (hbase : 0 < base) {d : ℕ} (hd : d ∈ digits base width n) : d < base := by
  induction width generalizing n with
  | zero => cases hd
  | succ width ih =>
    rcases List.mem_append.mp hd with hd | hd
    · exact ih hd
    · rw [List.mem_singleton.mp hd]
      exact Nat.mod_lt n hbase

@[simp] theorem ofDigits_concat (base : ℕ) (ds : List ℕ) (d : ℕ) :
    ofDigits base (ds ++ [d]) = ofDigits base ds * base + d := by
  rw [ofDigits, List.foldl_append, List.foldl_cons, List.foldl_nil, ofDigits]

theorem ofDigits_digits (base width n : ℕ) :
    ofDigits base (digits base width n) = n % base ^ width := by
  induction width generalizing n with
  | zero => rw [digits, pow_zero, Nat.mod_one]; rfl
  | succ width ih =>
    rw [digits, ofDigits_concat, ih, pow_succ, Nat.mul_comm (base ^ width), Nat.mod_mul]
    ring

/-- **A number with few enough digits is read back.** -/
theorem ofDigits_digits_of_lt (h : n < base ^ width) : ofDigits base (digits base width n) = n :=
  (ofDigits_digits base width n).trans (Nat.mod_eq_of_lt h)

/-- **Digits are read back.** -/
theorem digits_ofDigits {ds : List ℕ} (hds : ∀ d ∈ ds, d < base) :
    digits base ds.length (ofDigits base ds) = ds := by
  induction ds using List.reverseRecOn with
  | nil => rfl
  | append_singleton ds d ih =>
    have hlast : d < base := hds d (by simp)
    have hbase : 0 < base := Nat.zero_lt_of_lt hlast
    rw [List.length_append, List.length_singleton, digits, ofDigits_concat,
      Nat.mul_comm, Nat.mul_add_div hbase, Nat.div_eq_of_lt hlast, Nat.add_zero,
      Nat.mul_add_mod, Nat.mod_eq_of_lt hlast, ih fun d' hd' => hds d' (List.mem_append_left _ hd')]

end Digits
