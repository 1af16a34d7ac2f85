import Mathlib.Data.List.Basic
import Mathlib.Algebra.Order.Ring.Nat

/-!
# Foundations/Codec — wire formats

A codec writes a value and reads it back from the front of a buffer, leaving what follows it
(`Codec.deserialize_serialize`); the law is a field, so a format that loses something cannot be
built.  Formats of records are put together with `Codec.prod`, `Codec.list` and `Codec.ofEquiv` from
the variable-length integer `Codec.nat`.
-/

/-- A format of `α` over bytes; reading can fail with an `ε`. -/
structure Codec (ε α : Type*) where
  serialize : α → List UInt8
  deserialize : List UInt8 → Except ε (α × List UInt8)
  deserialize_serialize : ∀ a rest, deserialize (serialize a ++ rest) = .ok (a, rest)

namespace Codec

variable {ε α β : Type*}

attribute [simp] deserialize_serialize

@[simp] theorem deserialize_serialize_self (c : Codec ε α) (a : α) :
    c.deserialize (c.serialize a) = .ok (a, []) := by
  simpa using c.deserialize_serialize a []

/-- Where there is something to tell apart, a value takes some bytes. -/
theorem serialize_ne_nil [Nontrivial α] (c : Codec ε α) (a : α) : c.serialize a ≠ [] := by
  intro h
  obtain ⟨b, hne⟩ := exists_ne a
  have hread := c.deserialize_serialize a (c.serialize b)
  rw [h, List.nil_append, deserialize_serialize_self] at hread
  exact hne (congrArg Prod.fst (Except.ok.inj hread))

/-- One value after the other. -/
def prod (c : Codec ε α) (d : Codec ε β) : Codec ε (α × β) where
  serialize x := c.serialize x.1 ++ d.serialize x.2
  deserialize bytes :=
    (c.deserialize bytes).bind fun (a, rest) =>
      (d.deserialize rest).map fun (b, rest) => ((a, b), rest)
  deserialize_serialize := by
    intro x rest
    rw [List.append_assoc, deserialize_serialize]
    simp [Except.bind, Except.map]

/-- The format of a type with the same values. -/
def ofEquiv (c : Codec ε α) (f : β → α) (g : α → β) (h : ∀ b, g (f b) = b) : Codec ε β where
  serialize b := c.serialize (f b)
  deserialize bytes := (c.deserialize bytes).map fun (a, rest) => (g a, rest)
  deserialize_serialize := by
    intro b rest
    simp [Except.map, h]

/-! ## Integers, seven bits to the byte -/

/-- The bytes of `n`, the least significant first; the top bit says that more follow.  `fuel` bounds
their number. -/
def varint : ℕ → ℕ → List UInt8
  | 0, _ => []
  | fuel + 1, n =>
    if n < 128 then [UInt8.ofNat n] else UInt8.ofNat (n % 128 + 128) :: varint fuel (n / 128)

def readVarint : List UInt8 → Option (ℕ × List UInt8)
  | [] => none
  | b :: rest =>
    if b.toNat < 128 then some (b.toNat, rest)
    else (readVarint rest).map fun (n, rest) => (b.toNat - 128 + 128 * n, rest)

theorem readVarint_varint (fuel n : ℕ) (rest : List UInt8) (h : n < fuel) :
    readVarint (varint fuel n ++ rest) = some (n, rest) := by
  induction fuel generalizing n with
  | zero => exact absurd h (Nat.not_lt_zero n)
  | succ fuel ih =>
    rw [varint]
    split
    case isTrue hsmall =>
      have hbyte : (UInt8.ofNat n).toNat = n := by simp; omega
      simp [readVarint, hbyte, hsmall]
    case isFalse hlarge =>
      have hbyte : (UInt8.ofNat (n % 128 + 128)).toNat = n % 128 + 128 := by simp; omega
      have hrest := ih (n / 128) (by omega)
      simp only [List.cons_append, readVarint, hbyte, hrest]
      rw [if_neg (by omega)]
      simp only [Option.map_some, Option.some.injEq, Prod.mk.injEq, and_true]
      omega

def nat (e : ε) : Codec ε ℕ where
  serialize n := varint (n + 1) n
  deserialize bytes := (readVarint bytes).elim (.error e) .ok
  deserialize_serialize := by
    intro n rest
    rw [readVarint_varint _ _ _ n.lt_succ_self]
    rfl

/-! ## Sequences, their length first -/

def readList (c : Codec ε α) : ℕ → List UInt8 → Except ε (List α × List UInt8)
  | 0, bytes => .ok ([], bytes)
  | n + 1, bytes =>
    (c.deserialize bytes).bind fun (a, rest) =>
      (readList c n rest).map fun (as, rest) => (a :: as, rest)

theorem readList_flatMap (c : Codec ε α) (as : List α) (rest : List UInt8) :
    readList c as.length (as.flatMap c.serialize ++ rest) = .ok (as, rest) := by
  induction as with
  | nil => rfl
  | cons a as ih =>
    rw [List.flatMap_cons, List.append_assoc, List.length_cons, readList, deserialize_serialize]
    simp [Except.bind, Except.map, ih]

def list (c : Codec ε α) (e : ε) : Codec ε (List α) where
  serialize as := (nat e).serialize as.length ++ as.flatMap c.serialize
  deserialize bytes := ((nat e).deserialize bytes).bind fun (n, rest) => readList c n rest
  deserialize_serialize := by
    intro as rest
    rw [List.append_assoc, deserialize_serialize]
    exact readList_flatMap c as rest

end Codec
