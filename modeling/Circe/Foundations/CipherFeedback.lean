import Mathlib.Algebra.Order.Ring.Nat
import Mathlib.Data.List.Basic

/-!
# Foundations/CipherFeedback — a block cipher in cipher feedback mode

`encrypt` cuts a text into blocks of `n` bytes, the last of them possibly shorter, and mixes each
with the encryption of the ciphertext block before it.
-/

namespace CipherFeedback

variable {β : Type*} {n : ℕ}

/-- The ciphertext block after the block `prev`: `C i = P i ⊕ E (C (i - 1))`, of the first `n` bytes
of a text, or of all of them where there are fewer. -/
def cipherBlock (mix : β → β → β) (E : Vector β n → Vector β n) (prev : Vector β n)
    (plain : List β) : List β :=
  List.zipWith mix (plain.take n) (E prev).toList

theorem length_cipherBlock (mix : β → β → β) (E : Vector β n → Vector β n) (prev : Vector β n)
    (plain : List β) : (cipherBlock mix E prev plain).length = min n plain.length := by
  rw [cipherBlock, List.length_zipWith, List.length_take, Vector.length_toList]
  omega

/-- Cipher feedback from the block `prev` on. -/
def encrypt [NeZero n] (mix : β → β → β) (E : Vector β n → Vector β n) (prev : Vector β n)
    (plain : List β) : List β :=
  let c := cipherBlock mix E prev plain
  if h : n ≤ plain.length then
    c ++ encrypt mix E ⟨c.toArray, by simp [c, length_cipherBlock, h]⟩ (plain.drop n)
  else c
termination_by plain.length
decreasing_by
  rw [List.length_drop]
  have := NeZero.ne n
  omega

variable [NeZero n] (mix : β → β → β) (E : Vector β n → Vector β n)

/-- A text of less than a block. -/
theorem encrypt_of_lt (prev : Vector β n) {plain : List β} (h : plain.length < n) :
    encrypt mix E prev plain = List.zipWith mix plain (E prev).toList := by
  rw [encrypt, dif_neg (Nat.not_le.mpr h), cipherBlock, List.take_of_length_le h.le]

/-- **A whole block, and the text after it.** -/
theorem encrypt_append (prev : Vector β n) {first : List β} (hfirst : first.length = n)
    (rest : List β) :
    ∃ block : Vector β n, block.toList = List.zipWith mix first (E prev).toList ∧
      encrypt mix E prev (first ++ rest) = block.toList ++ encrypt mix E block rest := by
  have hle : n ≤ (first ++ rest).length := by simp [hfirst]
  have hc : cipherBlock mix E prev (first ++ rest) = List.zipWith mix first (E prev).toList := by
    rw [cipherBlock, List.take_left' hfirst]
  refine ⟨⟨(cipherBlock mix E prev (first ++ rest)).toArray, ?_⟩, hc, ?_⟩
  · rw [List.size_toArray, length_cipherBlock, Nat.min_eq_left hle]
  · rw [encrypt, dif_pos hle, List.drop_left' hfirst]
    rfl

end CipherFeedback
