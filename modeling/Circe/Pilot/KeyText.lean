import Circe.Foundations.Digits
import Circe.Pilot.Compass
import Mathlib.Data.List.GetD
import Mathlib.Tactic.IntervalCases

/-!
# Pilot/KeyText — keys as text

A key is kept in the database as its forty characters.  Writing a digest in base 85 loses nothing
(`key_encoding_lossless`).  Reading a key back checks less than the grammar of keys asks for: `copy`
takes the first forty characters of a longer text, and `strchr` finds the NUL at the end of the
table (`keyGrammar_iff`).
-/

namespace Circe.Pilot

open Digits

/-! ## Text -/

namespace CompassKey

def toString (k : CompassKey) : Bytes := k.chars.toList

/-- `strchr` searches the table as far as its terminator, and finds that as well. -/
def isCharacterInvalid (ch : UInt8) : Bool := !(sTable ++ [0]).contains ch

/-- `Compass_key::from_string`; `copy` copies forty characters at most. -/
def fromString (str : Bytes) : Except Exception CompassKey :=
  if h : (str.take 40).length = 40 then
    if (str.take 40).any isCharacterInvalid then
      .error (.exception "Invalid character in Compass_key")
    else .ok ⟨⟨(str.take 40).toArray, h⟩⟩
  else .error (.exception "Unexpected length of Compass_key string")

end CompassKey

/-- The constructor "to open" as far as it may throw: the key is read from the record. -/
def Compass.load (dao : OrmCompass) : Except Exception Compass :=
  (CompassKey.fromString dao.compassKey).map fun compassKey => .ofDao compassKey dao

/-! ## What is accepted -/

namespace CompassKey

variable {str : Bytes} {ch : UInt8}

theorem zero_notMem_sTable : 0 ∉ sTable := by decide +kernel

theorem isCharacterInvalid_iff : isCharacterInvalid ch = true ↔ ch ∉ sTable ∧ ch ≠ 0 := by
  simp [isCharacterInvalid]

theorem toString_of_fromString {k : CompassKey} (h : fromString str = .ok k) :
    k.toString = str.take 40 := by
  rw [fromString] at h
  split at h
  case isTrue hlength =>
    split at h
    case isTrue => cases h
    case isFalse =>
      cases h
      rfl
  case isFalse => cases h

/-- **What `from_string` accepts**: forty characters or more, the first forty of them from the table
or NUL. -/
theorem fromString_isOk_iff :
    (∃ k, fromString str = .ok k) ↔
      40 ≤ str.length ∧ ∀ ch ∈ str.take 40, ch ∈ sTable ∨ ch = 0 := by
  have hlength : (str.take 40).length = 40 ↔ 40 ≤ str.length := by
    rw [List.length_take]
    omega
  have hvalid : (str.take 40).any isCharacterInvalid = true ↔
      ¬ ∀ ch ∈ str.take 40, ch ∈ sTable ∨ ch = 0 := by
    rw [List.any_eq_true]
    push Not
    exact exists_congr fun ch => and_congr_right fun _ => isCharacterInvalid_iff
  rw [fromString]
  split
  case isTrue h =>
    split
    case isTrue hinvalid => simp [hvalid.mp hinvalid]
    case isFalse hinvalid =>
      rw [hvalid, not_not] at hinvalid
      exact ⟨fun _ => ⟨hlength.mp h, hinvalid⟩, fun _ => ⟨_, rfl⟩⟩
  case isFalse h => simp [mt hlength.mpr h]

end CompassKey

/-- **The grammar of keys**: forty characters of the table are accepted and nothing else, and the
key accepted is written as it was read. -/
structure KeyGrammar (str : Bytes) : Prop where
  accepts : (∃ k, CompassKey.fromString str = .ok k) ↔ str.length = 40 ∧ ∀ ch ∈ str, ch ∈ sTable
  reads : ∀ k, CompassKey.fromString str = .ok k → k.toString = str

/-- Nothing is there that the two checks overlook: a forty-first character, or a NUL. -/
def KeyChecked (str : Bytes) : Prop :=
  str.length < 40 ∨ (∃ ch ∈ str.take 40, ch ∉ sTable ∧ ch ≠ 0) ∨ (str.length = 40 ∧ 0 ∉ str)

/-- **`from_string` follows the grammar exactly where its checks see everything**, and is injective
there. -/
theorem keyGrammar_iff (str : Bytes) :
    (KeyGrammar str ↔ KeyChecked str) ∧
      ∀ str' k, KeyChecked str → KeyChecked str' → CompassKey.fromString str = .ok k →
        CompassKey.fromString str' = .ok k → str = str' := by
  have hchecked {str : Bytes} (h : KeyChecked str) {k : CompassKey}
      (hk : CompassKey.fromString str = .ok k) : str.length = 40 ∧ 0 ∉ str := by
    obtain ⟨hlength, hchars⟩ := CompassKey.fromString_isOk_iff.mp ⟨k, hk⟩
    rcases h with hshort | ⟨ch, hch, hnot, hne⟩ | hexact
    · omega
    · exact absurd (hchars ch hch) (by simp [hnot, hne])
    · exact hexact
  have htoString {str : Bytes} (h : KeyChecked str) {k : CompassKey}
      (hk : CompassKey.fromString str = .ok k) : k.toString = str := by
    rw [CompassKey.toString_of_fromString hk, List.take_of_length_le (hchecked h hk).1.le]
  refine ⟨⟨fun h => ?_, fun h => ⟨⟨?_, ?_⟩, fun k hk => htoString h hk⟩⟩, ?_⟩
  · by_contra hnot
    simp only [KeyChecked, not_or, not_lt, not_exists, not_and] at hnot
    obtain ⟨hlength, hchars, hoverlooked⟩ := hnot
    have hok := CompassKey.fromString_isOk_iff.mpr ⟨hlength, fun ch hch => by
      by_contra hch'
      exact hchars ch hch (fun h => hch' (.inl h)) (fun h => hch' (.inr h))⟩
    obtain ⟨hlength, hchars⟩ := h.accepts.mp hok
    exact hoverlooked hlength fun hzero => CompassKey.zero_notMem_sTable (hchars 0 hzero)
  · rintro ⟨k, hk⟩
    obtain ⟨hlength, hzero⟩ := hchecked h hk
    refine ⟨hlength, fun ch hch => ?_⟩
    have hchars := (CompassKey.fromString_isOk_iff.mp ⟨k, hk⟩).2
    rw [List.take_of_length_le hlength.le] at hchars
    exact (hchars ch hch).resolve_right fun h => hzero (h ▸ hch)
  · rintro ⟨hlength, hchars⟩
    exact CompassKey.fromString_isOk_iff.mpr
      ⟨hlength.ge, fun ch hch => .inl (hchars ch (List.mem_of_mem_take hch))⟩
  · intro str' k h h' hk hk'
    rw [← htoString h hk, htoString h' hk']

/-- Forty-one characters are accepted, and so are forty NULs. -/
theorem not_keyGrammar :
    ¬ KeyGrammar (List.replicate 41 48) ∧ ¬ KeyGrammar (List.replicate 40 0) := by
  constructor <;> intro h
  · exact absurd (h.accepts.mp ⟨_, rfl⟩).1 (by decide)
  · exact CompassKey.zero_notMem_sTable ((h.accepts.mp ⟨_, rfl⟩).2 0 (by decide))

/-! ## Digests in base 85 -/

namespace CompassKey

/-- The characters of a word. -/
def wordChars (word : UInt32) : List UInt8 := (digits 85 5 word.toNat).map fun d => sTable.getD d 0

/-- The word that five characters spell. -/
def decodeWord (chars : List UInt8) : ℕ := ofDigits 85 (chars.map sTable.idxOf)

/-- The bytes that a key spells: eight words of four bytes, the most significant first. -/
def decode (k : CompassKey) : List UInt8 :=
  (List.range 8).flatMap fun i =>
    (digits 256 4 (decodeWord ((k.chars.toList.drop (i * 5)).take 5))).map UInt8.ofNat

/-- The bytes of a word. -/
def wordBytes (sha256 : Sha256) (i : ℕ) : List UInt8 := (sha256.toList.drop (i * 4)).take 4

/-! ### The two loops -/

theorem writeWord_eq (i : ℕ) (word : UInt32) (chars : Vector UInt8 40) :
    writeWord i word chars =
      (((((chars.setIfInBounds (i * 5 + 4) (sTable.getD (word % 85).toNat 0)).setIfInBounds
          (i * 5 + 3) (sTable.getD (word / 85 % 85).toNat 0)).setIfInBounds
          (i * 5 + 2) (sTable.getD (word / 85 / 85 % 85).toNat 0)).setIfInBounds
          (i * 5 + 1) (sTable.getD (word / 85 / 85 / 85 % 85).toNat 0)).setIfInBounds
          (i * 5) (sTable.getD (word / 85 / 85 / 85 / 85 % 85).toNat 0),
        word / 85 / 85 / 85 / 85 / 85) := rfl

theorem wordChars_eq (word : UInt32) :
    wordChars word =
      [sTable.getD (word / 85 / 85 / 85 / 85 % 85).toNat 0,
        sTable.getD (word / 85 / 85 / 85 % 85).toNat 0, sTable.getD (word / 85 / 85 % 85).toNat 0,
        sTable.getD (word / 85 % 85).toNat 0, sTable.getD (word % 85).toNat 0] := by
  simp [wordChars, digits]

/-- **Five digits are enough**: nothing is left of a word. -/
theorem writeWord_snd (i : ℕ) (word : UInt32) (chars : Vector UInt8 40) :
    (writeWord i word chars).2 = 0 := by
  have hword := word.toNat_lt
  rw [writeWord_eq]
  refine UInt32.toNat_inj.mp ?_
  simp only [UInt32.toNat_div, UInt32.reduceToNat, UInt32.toNat_zero]
  omega

/-- A word is written to its own five places. -/
theorem getElem?_writeWord {i : ℕ} (hi : i < 8) (word : UInt32) (chars : Vector UInt8 40) (n : ℕ) :
    (writeWord i word chars).1[n]? = if n / 5 = i then (wordChars word)[n % 5]? else chars[n]? := by
  rw [writeWord_eq, wordChars_eq]
  simp only [Vector.getElem?_setIfInBounds]
  by_cases h : n / 5 = i
  · rw [if_pos h]
    obtain ⟨j, hj, rfl⟩ : ∃ j < 5, n = i * 5 + j := ⟨n % 5, by omega, by omega⟩
    have hmod : (i * 5 + j) % 5 = j := by omega
    rw [hmod]
    interval_cases j <;> simp <;> omega
  · rw [if_neg h]
    have hplace (j : ℕ) (hj : j < 5) : i * 5 + j ≠ n := by omega
    have hfirst : i * 5 ≠ n := hplace 0 (by omega)
    simp [hplace 4 (by omega), hplace 3 (by omega), hplace 2 (by omega), hplace 1 (by omega),
      hfirst]

/-- After `k` words. -/
theorem getElem?_writeWords (sha256 : Sha256) {k : ℕ} (hk : k ≤ 8) (n : ℕ) :
    ((List.range k).foldl (fun chars i => (writeWord i (readWord sha256 i) chars).1)
        (Vector.replicate 40 0))[n]?
      = if n / 5 < k then (wordChars (readWord sha256 (n / 5)))[n % 5]?
        else if n < 40 then some 0 else none := by
  induction k with
  | zero => simp [Vector.getElem?_replicate]
  | succ k ih =>
    rw [List.range_succ, List.foldl_append, List.foldl_cons, List.foldl_nil,
      getElem?_writeWord (by omega), ih (by omega)]
    by_cases heq : n / 5 = k
    · rw [if_pos heq, if_pos (by omega), heq]
    · rw [if_neg heq]
      by_cases hlt : n / 5 < k
      · rw [if_pos hlt, if_pos (by omega)]
      · have hlt' : ¬ n / 5 < k + 1 := by omega
        rw [if_neg hlt, if_neg hlt']

/-- **A key is the characters of its words.** -/
theorem wordChars_of_fromHashOf (sha256 : Bytes → Sha256) (data : Bytes) {i : ℕ} (hi : i < 8) :
    ((fromHashOf sha256 data).chars.toList.drop (i * 5)).take 5
      = wordChars (readWord (sha256 data) i) := by
  refine List.ext_getElem? fun j => ?_
  rw [List.getElem?_take]
  split
  case isTrue hj =>
    have hdiv : (i * 5 + j) / 5 = i := by omega
    have hmod : (i * 5 + j) % 5 = j := by omega
    rw [List.getElem?_drop, Vector.getElem?_toList]
    refine (getElem?_writeWords (sha256 data) le_rfl (i * 5 + j)).trans ?_
    rw [hdiv, hmod, if_pos hi]
  case isFalse hj =>
    rw [List.getElem?_eq_none]
    simpa [wordChars] using not_lt.mp hj

theorem wordBytes_eq (sha256 : Sha256) {i : ℕ} (hi : i < 8) :
    wordBytes sha256 i
      = [sha256[i * 4]!, sha256[i * 4 + 1]!, sha256[i * 4 + 2]!, sha256[i * 4 + 3]!] := by
  have hlength : sha256.toList.length = 32 := sha256.length_toList
  have hcons {k : ℕ} (hk : k < 32) :
      sha256.toList.drop k = sha256[k]! :: sha256.toList.drop (k + 1) := by
    rw [List.drop_eq_getElem_cons (hk.trans_eq hlength.symm), getElem!_pos sha256 k hk,
      Vector.getElem_toList]
  rw [wordBytes, hcons (by omega), hcons (by omega), hcons (by omega), hcons (by omega)]
  rfl

/-- **A word is the number its bytes spell.** -/
theorem toNat_readWord (sha256 : Sha256) {i : ℕ} (hi : i < 8) :
    (readWord sha256 i).toNat = ofDigits 256 ((wordBytes sha256 i).map UInt8.toNat) := by
  rw [wordBytes_eq _ hi]
  have hbyte (k : ℕ) : (sha256[k]!).toNat < 256 := UInt8.toNat_lt _
  have h₀ := hbyte (i * 4)
  have h₁ := hbyte (i * 4 + 1)
  have h₂ := hbyte (i * 4 + 2)
  have h₃ := hbyte (i * 4 + 3)
  simp [readWord, List.range_succ, ofDigits]
  omega

/-! ### Back again -/

theorem sTable_nodup : sTable.Nodup := by decide +kernel

theorem length_sTable : sTable.length = 85 := by decide +kernel

theorem idxOf_sTable {d : ℕ} (hd : d < 85) : sTable.idxOf (sTable.getD d 0) = d := by
  rw [List.getD_eq_getElem _ _ (hd.trans_eq length_sTable.symm)]
  exact sTable_nodup.idxOf_getElem d _

theorem getD_mem_sTable {d : ℕ} (hd : d < 85) : sTable.getD d 0 ∈ sTable := by
  rw [List.getD_eq_getElem _ _ (hd.trans_eq length_sTable.symm)]
  exact List.getElem_mem _

theorem decodeWord_wordChars (word : UInt32) : decodeWord (wordChars word) = word.toNat := by
  have hdigits : (digits 85 5 word.toNat).map (sTable.idxOf ∘ fun d => sTable.getD d 0)
      = digits 85 5 word.toNat := by
    refine (List.map_congr_left fun d hd => ?_).trans (List.map_id _)
    exact idxOf_sTable (lt_of_mem_digits (by decide) hd)
  rw [decodeWord, wordChars, List.map_map, hdigits]
  exact ofDigits_digits_of_lt (word.toNat_lt.trans (by decide))

theorem digits_readWord (sha256 : Sha256) {i : ℕ} (hi : i < 8) :
    (digits 256 4 (readWord sha256 i).toNat).map UInt8.ofNat = wordBytes sha256 i := by
  have hbytes : ∀ d ∈ (wordBytes sha256 i).map UInt8.toNat, d < 256 := by
    intro d hd
    obtain ⟨b, -, rfl⟩ := List.mem_map.mp hd
    exact b.toNat_lt
  have hback := digits_ofDigits hbytes
  rw [List.length_map, wordBytes_eq _ hi] at hback
  rw [toNat_readWord _ hi, wordBytes_eq _ hi]
  refine (congrArg (List.map UInt8.ofNat) hback).trans ?_
  simp

/-- A list in pieces of `w`. -/
theorem flatMap_drop_take {α : Type*} (l : List α) (w n : ℕ) :
    ((List.range n).flatMap fun i => (l.drop (i * w)).take w) = l.take (n * w) := by
  induction n with
  | zero => simp
  | succ n ih => rw [List.range_succ, List.flatMap_append, ih, Nat.succ_mul, List.take_add]; simp

/-- **A key spells its digest.** -/
theorem decode_fromHashOf (sha256 : Bytes → Sha256) (data : Bytes) :
    decode (fromHashOf sha256 data) = (sha256 data).toList := by
  have hwords : decode (fromHashOf sha256 data)
      = (List.range 8).flatMap (wordBytes (sha256 data)) := by
    refine List.flatMap_congr fun i hi => ?_
    have hi := List.mem_range.mp hi
    rw [wordChars_of_fromHashOf sha256 data hi, decodeWord_wordChars, digits_readWord _ hi]
  rw [hwords]
  refine (flatMap_drop_take _ 4 8).trans (List.take_of_length_le ?_)
  exact (Vector.length_toList ..).le

/-- The characters of a key are those of the table. -/
theorem mem_sTable_of_fromHashOf (sha256 : Bytes → Sha256) (data : Bytes) {ch : UInt8}
    (hch : ch ∈ (fromHashOf sha256 data).toString) : ch ∈ sTable := by
  have hpieces := flatMap_drop_take (fromHashOf sha256 data).toString 5 8
  have hlength : (fromHashOf sha256 data).toString.length = 40 := Vector.length_toList ..
  rw [List.take_of_length_le hlength.le] at hpieces
  rw [← hpieces] at hch
  obtain ⟨i, hi, hch⟩ := List.mem_flatMap.mp hch
  rw [toString, wordChars_of_fromHashOf sha256 data (List.mem_range.mp hi)] at hch
  obtain ⟨d, hd, rfl⟩ := List.mem_map.mp hch
  exact getD_mem_sTable (lt_of_mem_digits (by decide) hd)

/-- A key all of whose characters are in the table is read back. -/
theorem fromString_toString {k : CompassKey} (h : ∀ ch ∈ k.toString, ch ∈ sTable) :
    fromString k.toString = .ok k := by
  have hlength : k.toString.length = 40 := Vector.length_toList ..
  obtain ⟨k', hk'⟩ := fromString_isOk_iff.mpr
    ⟨hlength.ge, fun ch hch => .inl (h ch (List.mem_of_mem_take hch))⟩
  have hsame := toString_of_fromString hk'
  rw [List.take_of_length_le hlength.le] at hsame
  have hkeys : k' = k := by
    cases k
    cases k'
    exact congrArg CompassKey.mk (Vector.toList_inj.mp hsame)
  rw [hk', hkeys]

end CompassKey

/-- **The encoding of a digest loses nothing**: it spells the digest, nothing of a word is left, and
the record of a new compass is loaded under its key. -/
structure EncodesDigest (sha256 : Bytes → Sha256) (data : Bytes) : Prop where
  injective : ∀ data', CompassKey.fromHashOf sha256 data = .fromHashOf sha256 data' ↔
    sha256 data = sha256 data'
  decodes : (CompassKey.fromHashOf sha256 data).decode = (sha256 data).toList
  reduced : ∀ i chars,
    (CompassKey.writeWord i (CompassKey.readWord (sha256 data) i) chars).2 = 0
  accepted : CompassKey.fromString (CompassKey.fromHashOf sha256 data).toString
    = .ok (.fromHashOf sha256 data)
  reloaded : ∀ p : Compass, p.compassKey = .fromHashOf sha256 data → p.dao = none → ∀ value,
    Compass.load (p.daoWritten value) = .ok (.ofDao p.compassKey (p.daoWritten value))

theorem key_encoding_lossless (sha256 : Bytes → Sha256) (data : Bytes) :
    EncodesDigest sha256 data := by
  have haccepted := CompassKey.fromString_toString
    (fun ch hch => CompassKey.mem_sTable_of_fromHashOf sha256 data hch)
  refine ⟨fun data' => ⟨fun h => ?_, fun h => ?_⟩, CompassKey.decode_fromHashOf sha256 data,
    fun i chars => CompassKey.writeWord_snd i _ chars, haccepted, fun p hp hdao value => ?_⟩
  · have hdecode := congrArg CompassKey.decode h
    rw [CompassKey.decode_fromHashOf, CompassKey.decode_fromHashOf] at hdecode
    exact Vector.toList_inj.mp hdecode
  · unfold CompassKey.fromHashOf
    rw [h]
  · have hkey : (p.daoWritten value).compassKey = (CompassKey.fromHashOf sha256 data).toString := by
      simp only [Compass.daoWritten, hdao, hp, Option.getD_none, CompassKey.toString]
    rw [Compass.load, hkey, haccepted, hp, Except.map]

end Circe.Pilot
