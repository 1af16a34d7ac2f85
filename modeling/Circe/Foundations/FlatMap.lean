import Mathlib.Data.List.Nodup
import Mathlib.Data.List.Perm.Basic
import Mathlib.Order.Lattice
import Mathlib.Order.Basic

/-!
# Foundations/FlatMap — maps kept as a list sorted by key

`FlatMultimap` allows several entries of one key, `FlatMap` does not; the order of the keys is a
field of the structure, so an unsorted table cannot be built.  A table is read through the
membership and permutation lemmas below, never through the position an entry was inserted at.
-/

variable {κ υ : Type*}

/-! ## Insertion after the entries of smaller or equal key -/

/-- Insert an entry before the first entry of a greater key. -/
def insertUpper [LinearOrder κ] (e : κ × υ) : List (κ × υ) → List (κ × υ)
  | [] => [e]
  | f :: es => if e.1 < f.1 then e :: f :: es else f :: insertUpper e es

theorem insertUpper_perm [LinearOrder κ] (e : κ × υ) (es : List (κ × υ)) :
    (insertUpper e es).Perm (e :: es) := by
  induction es with
  | nil => exact List.Perm.refl _
  | cons f es ih =>
    rw [insertUpper]
    split
    · exact List.Perm.refl _
    · exact (ih.cons f).trans (List.Perm.swap e f es)

@[simp] theorem mem_insertUpper [LinearOrder κ] {e f : κ × υ} {es : List (κ × υ)} :
    f ∈ insertUpper e es ↔ f = e ∨ f ∈ es := by
  rw [(insertUpper_perm e es).mem_iff, List.mem_cons]

theorem pairwise_le_insertUpper [LinearOrder κ] (e : κ × υ) {es : List (κ × υ)}
    (h : es.Pairwise fun a b => a.1 ≤ b.1) :
    (insertUpper e es).Pairwise fun a b => a.1 ≤ b.1 := by
  induction es with
  | nil => simp [insertUpper]
  | cons f es ih =>
    obtain ⟨hf, hes⟩ := List.pairwise_cons.mp h
    rw [insertUpper]
    split
    case isTrue hlt =>
      refine List.pairwise_cons.mpr ⟨fun g hg => ?_, h⟩
      rcases List.mem_cons.mp hg with rfl | hg
      · exact hlt.le
      · exact hlt.le.trans (hf g hg)
    case isFalse hlt =>
      refine List.pairwise_cons.mpr ⟨fun g hg => ?_, ih hes⟩
      rcases mem_insertUpper.mp hg with rfl | hg
      · exact not_lt.mp hlt
      · exact hf g hg

/-- Where the key is new, a strictly sorted list stays strictly sorted. -/
theorem pairwise_lt_insertUpper [LinearOrder κ] (e : κ × υ) {es : List (κ × υ)}
    (h : es.Pairwise fun a b => a.1 < b.1) (hnew : ∀ f ∈ es, f.1 ≠ e.1) :
    (insertUpper e es).Pairwise fun a b => a.1 < b.1 := by
  induction es with
  | nil => simp [insertUpper]
  | cons f es ih =>
    obtain ⟨hf, hes⟩ := List.pairwise_cons.mp h
    rw [insertUpper]
    split
    case isTrue hlt =>
      refine List.pairwise_cons.mpr ⟨fun g hg => ?_, h⟩
      rcases List.mem_cons.mp hg with rfl | hg
      · exact hlt
      · exact hlt.trans (hf g hg)
    case isFalse hlt =>
      have hfe : f.1 < e.1 := lt_of_le_of_ne (not_lt.mp hlt) (hnew f List.mem_cons_self)
      refine List.pairwise_cons.mpr
        ⟨fun g hg => ?_, ih hes fun g hg => hnew g (List.mem_cons_of_mem f hg)⟩
      rcases mem_insertUpper.mp hg with rfl | hg
      · exact hfe
      · exact hf g hg

/-! ## Several entries of one key -/

/-- A table of entries sorted by key; entries of one key stand in the order they were added. -/
structure FlatMultimap (κ υ : Type*) [LinearOrder κ] where
  entries : List (κ × υ)
  sorted : entries.Pairwise fun a b => a.1 ≤ b.1
deriving DecidableEq

namespace FlatMultimap

variable [LinearOrder κ]

@[ext] theorem ext {m m' : FlatMultimap κ υ} (h : m.entries = m'.entries) : m = m' := by
  cases m; cases m'; cases h; rfl

def empty : FlatMultimap κ υ := ⟨[], List.Pairwise.nil⟩

instance : Inhabited (FlatMultimap κ υ) := ⟨empty⟩

@[simp] theorem entries_empty : (empty : FlatMultimap κ υ).entries = [] := rfl

/-- Add an entry, whatever the table holds. -/
def emplace (m : FlatMultimap κ υ) (k : κ) (v : υ) : FlatMultimap κ υ :=
  ⟨insertUpper (k, v) m.entries, pairwise_le_insertUpper _ m.sorted⟩

/-- The first entry of a key. -/
def find? (m : FlatMultimap κ υ) (k : κ) : Option (κ × υ) := m.entries.find? fun e => e.1 = k

def contains (m : FlatMultimap κ υ) (k : κ) : Bool := m.entries.any fun e => e.1 = k

/-- Every entry is one of this key: the range of the key is the whole table. -/
def onlyKey (m : FlatMultimap κ υ) (k : κ) : Bool := m.entries.all fun e => e.1 = k

def isEmpty (m : FlatMultimap κ υ) : Bool := m.entries.isEmpty

/-- Remove the first entry of a key. -/
def eraseFirst (m : FlatMultimap κ υ) (k : κ) : FlatMultimap κ υ :=
  ⟨m.entries.eraseP fun e => e.1 = k, m.sorted.sublist (List.eraseP_sublist ..)⟩

/-- Remove one entry. -/
def eraseEntry [DecidableEq υ] (m : FlatMultimap κ υ) (e : κ × υ) : FlatMultimap κ υ :=
  ⟨m.entries.erase e, m.sorted.sublist List.erase_sublist⟩

/-- Remove every entry whose value satisfies `p`. -/
def eraseIf (m : FlatMultimap κ υ) (p : υ → Bool) : FlatMultimap κ υ :=
  ⟨m.entries.filter fun e => !p e.2, m.sorted.sublist List.filter_sublist⟩

theorem entries_eraseEntry_sublist [DecidableEq υ] (m : FlatMultimap κ υ) (e : κ × υ) :
    (m.eraseEntry e).entries.Sublist m.entries := List.erase_sublist

theorem entries_eraseIf_sublist (m : FlatMultimap κ υ) (p : υ → Bool) :
    (m.eraseIf p).entries.Sublist m.entries := List.filter_sublist

theorem entries_emplace_perm (m : FlatMultimap κ υ) (k : κ) (v : υ) :
    (m.emplace k v).entries.Perm ((k, v) :: m.entries) := insertUpper_perm _ _

@[simp] theorem mem_entries_emplace {m : FlatMultimap κ υ} {k : κ} {v : υ} {e : κ × υ} :
    e ∈ (m.emplace k v).entries ↔ e = (k, v) ∨ e ∈ m.entries := mem_insertUpper

@[simp] theorem mem_entries_eraseIf {m : FlatMultimap κ υ} {p : υ → Bool} {e : κ × υ} :
    e ∈ (m.eraseIf p).entries ↔ e ∈ m.entries ∧ p e.2 = false := by
  simp [eraseIf]

theorem mem_of_mem_eraseFirst {m : FlatMultimap κ υ} {k : κ} {e : κ × υ}
    (h : e ∈ (m.eraseFirst k).entries) : e ∈ m.entries :=
  List.mem_of_mem_eraseP h

/-- `find?` finds the entry that `eraseFirst` removes. -/
theorem perm_eraseFirst {m : FlatMultimap κ υ} {k : κ} {e : κ × υ} (h : m.find? k = some e) :
    m.entries.Perm (e :: (m.eraseFirst k).entries) := by
  obtain ⟨hkey, before, after, hsplit, hbefore⟩ := List.find?_eq_some_iff_append.mp h
  have hpass : ∀ d ∈ before, ¬decide (d.1 = k) = true := fun d hd => by simpa using hbefore d hd
  have herase : (e :: after).eraseP (fun d => decide (d.1 = k)) = after :=
    List.eraseP_cons_of_pos hkey
  change m.entries.Perm (e :: m.entries.eraseP fun d => d.1 = k)
  rw [hsplit, List.eraseP_append_right _ hpass, herase]
  exact List.perm_middle

theorem perm_eraseEntry [DecidableEq υ] {m : FlatMultimap κ υ} {e : κ × υ} (h : e ∈ m.entries) :
    m.entries.Perm (e :: (m.eraseEntry e).entries) :=
  List.perm_cons_erase h

theorem eraseEntry_of_notMem [DecidableEq υ] {m : FlatMultimap κ υ} {e : κ × υ}
    (h : e ∉ m.entries) : m.eraseEntry e = m :=
  FlatMultimap.ext (List.erase_of_not_mem h)

theorem mem_of_mem_eraseEntry [DecidableEq υ] {m : FlatMultimap κ υ} {d e : κ × υ}
    (h : e ∈ (m.eraseEntry d).entries) : e ∈ m.entries :=
  List.mem_of_mem_erase h

theorem contains_iff {m : FlatMultimap κ υ} {k : κ} :
    m.contains k = true ↔ ∃ e ∈ m.entries, e.1 = k := by
  simp [contains]

theorem onlyKey_iff {m : FlatMultimap κ υ} {k : κ} :
    m.onlyKey k = true ↔ ∀ e ∈ m.entries, e.1 = k := by
  simp [onlyKey]

theorem isEmpty_iff {m : FlatMultimap κ υ} : m.isEmpty = true ↔ ∀ e, e ∉ m.entries := by
  rw [isEmpty, List.isEmpty_iff, List.eq_nil_iff_forall_not_mem]

/-! ### Counting the entries of a value -/

section Count

variable [DecidableEq υ]

/-- The number of entries that hold the value `v`, under any key. -/
def count (m : FlatMultimap κ υ) (v : υ) : ℕ := m.entries.countP fun e => e.2 = v

@[simp] theorem count_empty (v : υ) : (empty : FlatMultimap κ υ).count v = 0 := rfl

theorem count_pos_iff {m : FlatMultimap κ υ} {v : υ} :
    0 < m.count v ↔ ∃ k, (k, v) ∈ m.entries := by
  simp [count, List.countP_pos_iff]

theorem count_emplace (m : FlatMultimap κ υ) (k : κ) (v w : υ) :
    (m.emplace k v).count w = m.count w + if v = w then 1 else 0 := by
  rw [count, (m.entries_emplace_perm k v).countP_eq, List.countP_cons, count]
  simp

theorem count_eraseIf_of_not {m : FlatMultimap κ υ} {p : υ → Bool} {v : υ} (h : p v = false) :
    (m.eraseIf p).count v = m.count v := by
  rw [count, count, eraseIf, List.countP_filter]
  refine List.countP_congr fun e _ => ?_
  simp only [Bool.and_eq_true, decide_eq_true_eq, Bool.not_eq_true', and_iff_left_iff_imp]
  rintro rfl
  exact h

theorem count_eraseIf_le (m : FlatMultimap κ υ) (p : υ → Bool) (v : υ) :
    (m.eraseIf p).count v ≤ m.count v :=
  List.filter_sublist.countP_le

theorem count_eraseFirst_le (m : FlatMultimap κ υ) (k : κ) (v : υ) :
    (m.eraseFirst k).count v ≤ m.count v :=
  (List.eraseP_sublist ..).countP_le

/-- Removing an entry of a key whose entries all hold `v` takes one entry of `v` away. -/
theorem count_eraseFirst {m : FlatMultimap κ υ} {k : κ} {v : υ} (w : υ)
    (hkey : ∀ e ∈ m.entries, e.1 = k → e.2 = v) (hmem : m.contains k = true) :
    (m.eraseFirst k).count w = m.count w - if v = w then 1 else 0 := by
  obtain ⟨e, he, hek⟩ := contains_iff.mp hmem
  obtain ⟨a, l₁, l₂, _, hak, hsplit, herase⟩ :=
    List.exists_of_eraseP (p := fun e : κ × υ => decide (e.1 = k)) he (by simpa using hek)
  have hav : a.2 = v := hkey a (by rw [hsplit]; simp) (by simpa using hak)
  rw [count, count, eraseFirst]
  simp only [hsplit, List.countP_append, List.countP_cons, hav]
  split <;> simp_all

end Count

end FlatMultimap

/-! ## One entry a key -/

/-- A table with one entry a key, sorted by key. -/
structure FlatMap (κ υ : Type*) [LinearOrder κ] where
  entries : List (κ × υ)
  sorted : entries.Pairwise fun a b => a.1 < b.1
deriving DecidableEq

namespace FlatMap

variable [LinearOrder κ]

def empty : FlatMap κ υ := ⟨[], List.Pairwise.nil⟩

instance : Inhabited (FlatMap κ υ) := ⟨empty⟩

@[simp] theorem entries_empty : (empty : FlatMap κ υ).entries = [] := rfl

/-- The value stored under a key. -/
def find? (m : FlatMap κ υ) (k : κ) : Option υ :=
  (m.entries.find? fun e => e.1 = k).map Prod.snd

/-- Add an entry under a new key; a key the table has is refused. -/
def emplace (m : FlatMap κ υ) (k : κ) (v : υ) : Option (FlatMap κ υ) :=
  if h : ∀ f ∈ m.entries, f.1 ≠ k then
    some ⟨insertUpper (k, v) m.entries, pairwise_lt_insertUpper _ m.sorted h⟩
  else none

/-- Remove the entry of a key, if there is one. -/
def erase (m : FlatMap κ υ) (k : κ) : FlatMap κ υ :=
  ⟨m.entries.filter fun e => e.1 ≠ k, m.sorted.sublist List.filter_sublist⟩

/-- Remove every entry whose value satisfies `p`. -/
def eraseIf (m : FlatMap κ υ) (p : υ → Bool) : FlatMap κ υ :=
  ⟨m.entries.filter fun e => !p e.2, m.sorted.sublist List.filter_sublist⟩

/-- Add an entry under a key, unless the table has one. -/
def insertNew (m : FlatMap κ υ) (k : κ) (v : υ) : FlatMap κ υ := (m.emplace k v).getD m

/-- Change the value stored under a key. -/
def modify (m : FlatMap κ υ) (k : κ) (f : υ → υ) : FlatMap κ υ where
  entries := m.entries.map fun e => (e.1, if e.1 = k then f e.2 else e.2)
  sorted := List.pairwise_map.mpr m.sorted

@[simp] theorem mem_entries_erase {m : FlatMap κ υ} {k : κ} {e : κ × υ} :
    e ∈ (m.erase k).entries ↔ e ∈ m.entries ∧ e.1 ≠ k := by
  simp [erase]

@[simp] theorem mem_entries_eraseIf {m : FlatMap κ υ} {p : υ → Bool} {e : κ × υ} :
    e ∈ (m.eraseIf p).entries ↔ e ∈ m.entries ∧ p e.2 = false := by
  simp [eraseIf]

theorem mem_entries_emplace {m m' : FlatMap κ υ} {k : κ} {v : υ} (h : m.emplace k v = some m')
    {e : κ × υ} : e ∈ m'.entries ↔ e = (k, v) ∨ e ∈ m.entries := by
  rw [emplace] at h
  split at h
  · cases h
    exact mem_insertUpper
  · exact absurd h (by simp)

/-- A new entry has a new key. -/
theorem notMem_of_emplace {m m' : FlatMap κ υ} {k : κ} {v : υ} (h : m.emplace k v = some m')
    {w : υ} : (k, w) ∉ m.entries := by
  rw [emplace] at h
  split at h
  case isTrue hnew => exact fun hmem => hnew _ hmem rfl
  case isFalse => cases h

theorem mem_of_emplace_none {m : FlatMap κ υ} {k : κ} {v : υ} (h : m.emplace k v = none) :
    ∃ w, (k, w) ∈ m.entries := by
  rw [emplace] at h
  split at h
  case isTrue => cases h
  case isFalse hold =>
    push Not at hold
    obtain ⟨e, he, rfl⟩ := hold
    exact ⟨e.2, he⟩

theorem mem_entries_insertNew {m : FlatMap κ υ} {k : κ} {v : υ} {e : κ × υ} :
    e ∈ (m.insertNew k v).entries ↔ e ∈ m.entries ∨ (e = (k, v) ∧ ∀ w, (k, w) ∉ m.entries) := by
  rw [insertNew]
  cases h : m.emplace k v with
  | none =>
    obtain ⟨w, hw⟩ := mem_of_emplace_none h
    exact ⟨.inl, fun he => he.elim id fun hnew => absurd hw (hnew.2 w)⟩
  | some m' =>
    refine (mem_entries_emplace h).trans ⟨fun he => ?_, fun he => ?_⟩
    · exact he.elim (fun he => .inr ⟨he, fun w => notMem_of_emplace h⟩) .inl
    · exact he.elim .inr fun he => .inl he.1

theorem mem_entries_modify {m : FlatMap κ υ} {k : κ} {f : υ → υ} {e : κ × υ} :
    e ∈ (m.modify k f).entries ↔ ∃ v, (e.1, v) ∈ m.entries ∧ e.2 = if e.1 = k then f v else v := by
  rw [modify, List.mem_map]
  constructor
  · rintro ⟨d, hd, rfl⟩
    exact ⟨d.2, hd, rfl⟩
  · rintro ⟨v, hv, he⟩
    exact ⟨_, hv, Prod.ext rfl he.symm⟩

theorem nodup_keys (m : FlatMap κ υ) : (m.entries.map Prod.fst).Nodup :=
  (List.pairwise_map.mpr m.sorted).imp fun h => h.ne

/-- **A key names one entry.** -/
theorem eq_of_mem {m : FlatMap κ υ} {k : κ} {v w : υ} (hv : (k, v) ∈ m.entries)
    (hw : (k, w) ∈ m.entries) : v = w := by
  have h := List.inj_on_of_nodup_map m.nodup_keys hv hw rfl
  exact congrArg Prod.snd h

theorem find?_eq_some_iff {m : FlatMap κ υ} {k : κ} {v : υ} :
    m.find? k = some v ↔ (k, v) ∈ m.entries := by
  rw [find?, Option.map_eq_some_iff]
  constructor
  · rintro ⟨⟨k', v'⟩, hfind, rfl⟩
    have hkey : k' = k := by simpa using List.find?_some hfind
    exact hkey ▸ List.mem_of_find?_eq_some hfind
  · intro hmem
    obtain ⟨⟨k', v'⟩, hfind⟩ := Option.isSome_iff_exists.mp
      (List.find?_isSome (p := fun e : κ × υ => decide (e.1 = k)) |>.mpr ⟨_, hmem, by simp⟩)
    have hkey : k' = k := by simpa using List.find?_some hfind
    subst hkey
    exact ⟨_, hfind, eq_of_mem (List.mem_of_find?_eq_some hfind) hmem⟩

theorem find?_eq_none_iff {m : FlatMap κ υ} {k : κ} :
    m.find? k = none ↔ ∀ v, (k, v) ∉ m.entries := by
  simp only [Option.eq_none_iff_forall_ne_some, ne_eq, find?_eq_some_iff]

@[simp] theorem find?_erase (m : FlatMap κ υ) (k l : κ) :
    (m.erase k).find? l = if l = k then none else m.find? l := by
  ext v
  rw [find?_eq_some_iff, mem_entries_erase]
  split
  case isTrue h => simp [h]
  case isFalse h => simp [h, find?_eq_some_iff]

@[simp] theorem find?_eraseIf (m : FlatMap κ υ) (p : υ → Bool) (k : κ) :
    (m.eraseIf p).find? k = (m.find? k).filter fun v => !p v := by
  ext v
  rw [find?_eq_some_iff, mem_entries_eraseIf, Option.filter_eq_some_iff, find?_eq_some_iff,
    Bool.not_eq_true']

@[simp] theorem find?_insertNew (m : FlatMap κ υ) (k l : κ) (v : υ) :
    (m.insertNew k v).find? l = if l = k then some ((m.find? k).getD v) else m.find? l := by
  ext w
  rw [find?_eq_some_iff, mem_entries_insertNew]
  split
  case isTrue h =>
    subst h
    cases hfind : m.find? l with
    | none =>
      have hnone := find?_eq_none_iff.mp hfind
      simp [hnone, eq_comm]
    | some u =>
      have hu := find?_eq_some_iff.mp hfind
      have hold : (∀ w, (l, w) ∉ m.entries) ↔ False := ⟨fun h => h u hu, False.elim⟩
      rw [hold, and_false, or_false, Option.getD_some, Option.some_inj]
      exact ⟨fun hw => eq_of_mem hu hw, fun huw => huw ▸ hu⟩
  case isFalse h => simp [h, find?_eq_some_iff]

theorem find?_insertNew_getD (m : FlatMap κ υ) (k : κ) (v : υ) :
    (m.insertNew k ((m.find? k).getD v)).find? k = some ((m.find? k).getD v) := by
  rw [find?_insertNew, if_pos rfl]
  cases m.find? k with
  | none => rfl
  | some w => rfl

@[simp] theorem find?_modify (m : FlatMap κ υ) (k l : κ) (f : υ → υ) :
    (m.modify k f).find? l = if l = k then (m.find? l).map f else m.find? l := by
  ext w
  rw [find?_eq_some_iff, mem_entries_modify]
  split
  case isTrue => simp [find?_eq_some_iff, eq_comm]
  case isFalse => simp [find?_eq_some_iff]

/-- The entries of one key are that entry alone. -/
theorem filter_key {m : FlatMap κ υ} {k : κ} {v : υ} (hv : (k, v) ∈ m.entries) :
    (m.entries.filter fun e => e.1 = k) = [(k, v)] := by
  have hnodup : m.entries.Nodup := m.sorted.imp fun h heq => h.ne (congrArg Prod.fst heq)
  refine List.perm_singleton.mp ((List.perm_ext_iff_of_nodup (hnodup.filter _) (by simp)).mpr ?_)
  rintro ⟨k', w⟩
  simp only [List.mem_filter, decide_eq_true_eq, List.mem_singleton, Prod.mk.injEq]
  constructor
  · rintro ⟨hw, rfl⟩
    exact ⟨rfl, eq_of_mem hw hv⟩
  · rintro ⟨rfl, rfl⟩
    exact ⟨hv, rfl⟩

end FlatMap

/-! ## Sets -/

/-- A set kept as a sorted list. -/
abbrev FlatSet (κ : Type*) [LinearOrder κ] := FlatMap κ Unit

namespace FlatSet

variable [LinearOrder κ]

def elements (s : FlatSet κ) : List κ := s.entries.map Prod.fst

def insert (s : FlatSet κ) (k : κ) : FlatSet κ := s.insertNew k ()

theorem nodup_elements (s : FlatSet κ) : s.elements.Nodup := FlatMap.nodup_keys s

theorem mem_elements {s : FlatSet κ} {k : κ} : k ∈ s.elements ↔ (k, ()) ∈ s.entries := by
  rw [elements, List.mem_map]
  constructor
  · rintro ⟨e, he, rfl⟩
    exact he
  · exact fun h => ⟨_, h, rfl⟩

theorem mem_insert {s : FlatSet κ} {k l : κ} :
    l ∈ (s.insert k).elements ↔ l = k ∨ l ∈ s.elements := by
  rw [mem_elements, mem_elements, insert, FlatMap.mem_entries_insertNew]
  by_cases h : l = k
  · subst h
    by_cases hl : (l, ()) ∈ s.entries <;> simp [hl]
  · simp [h]

end FlatSet
