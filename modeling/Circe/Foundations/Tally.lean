import Mathlib.Algebra.BigOperators.Group.List.Basic
import Mathlib.Algebra.Order.Ring.Nat
import Mathlib.Data.List.Perm.Basic

/-!
# Foundations/Tally — counting in a list that changes at one place

An invariant that says how many things there are, over all the places of a system, is kept by steps
that change one place.  These are the sums before and after.
-/

namespace Tally

variable {α β : Type*} {l : List α} {i : ℕ} {a : α}

/-- Taken out at one place. -/
theorem countP_eraseIdx_add (p : α → Bool) (h : l[i]? = some a) :
    (l.eraseIdx i).countP p + [a].countP p = l.countP p := by
  obtain ⟨hlt, rfl⟩ := List.getElem?_eq_some_iff.mp h
  have hperm := (List.getElem_cons_eraseIdx_perm hlt).countP_eq p
  simp only [List.countP_cons, List.countP_nil] at hperm ⊢
  omega

/-- Changed at one place. -/
theorem countP_set_add (p : α → Bool) (h : l[i]? = some a) (b : α) :
    (l.set i b).countP p + (p a).toNat = l.countP p + (p b).toNat := by
  obtain ⟨hlt, rfl⟩ := List.getElem?_eq_some_iff.mp h
  have hafter := (List.set_perm_cons_eraseIdx hlt b).countP_eq p
  have hbefore := (List.getElem_cons_eraseIdx_perm hlt).countP_eq p
  rw [List.countP_cons] at hafter hbefore
  cases hb : p b <;> cases ha : p l[i] <;> simp_all

/-- What no element says, no tally says. -/
theorem countP_le_of_count_le [BEq α] [LawfulBEq α] {l₁ l₂ : List α} (p : α → Bool)
    (h : ∀ a, l₁.count a ≤ l₂.count a) : l₁.countP p ≤ l₂.countP p :=
  (List.subperm_ext_iff.mpr fun a _ => h a).countP_le p

theorem mem_of_count_le [BEq α] [LawfulBEq α] {l₁ l₂ : List α} (h : l₁.count a ≤ l₂.count a)
    (ha : a ∈ l₁) : a ∈ l₂ :=
  List.count_pos_iff.mp (Nat.lt_of_lt_of_le (List.count_pos_iff.mpr ha) h)

/-- A sum over the places, one of them changed. -/
theorem sum_set_add (f : α → ℕ) (h : l[i]? = some a) (b : α) :
    ((l.set i b).map f).sum + f a = (l.map f).sum + f b := by
  obtain ⟨hlt, rfl⟩ := List.getElem?_eq_some_iff.mp h
  have hbefore := ((List.getElem_cons_eraseIdx_perm hlt).map f).sum_eq
  have hafter := ((List.set_perm_cons_eraseIdx hlt b).map f).sum_eq
  rw [List.map_cons, List.sum_cons] at hbefore hafter
  omega

/-- What a sum says of each place. -/
theorem le_sum (f : α → ℕ) (h : a ∈ l) : f a ≤ (l.map f).sum := by
  obtain ⟨i, hi⟩ := List.mem_iff_getElem?.mp h
  obtain ⟨hlt, rfl⟩ := List.getElem?_eq_some_iff.mp hi
  have hbefore := ((List.getElem_cons_eraseIdx_perm hlt).map f).sum_eq
  rw [List.map_cons, List.sum_cons] at hbefore
  omega

/-- A sum over the elements of a key, where there is one. -/
theorem sum_key [DecidableEq β] (key : α → β) (f : α → ℕ) (hkeys : (l.map key).Nodup)
    (h : a ∈ l) : (l.map fun b => if key b = key a then f b else 0).sum = f a := by
  obtain ⟨i, hi⟩ := List.mem_iff_getElem?.mp h
  obtain ⟨hlt, rfl⟩ := List.getElem?_eq_some_iff.mp hi
  have hperm := List.getElem_cons_eraseIdx_perm hlt
  have hnodup := (hperm.map key).nodup_iff.mpr hkeys
  rw [List.map_cons, List.nodup_cons] at hnodup
  have hothers : ∀ b ∈ l.eraseIdx i, (if key b = key l[i] then f b else 0) = 0 := by
    intro b hb
    rw [if_neg]
    intro hkey
    exact hnodup.1 (hkey ▸ List.mem_map_of_mem hb)
  rw [← (hperm.map _).sum_eq, List.map_cons, List.sum_cons, if_pos rfl,
    List.map_congr_left hothers]
  simp

end Tally
