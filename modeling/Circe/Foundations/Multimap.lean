import Mathlib.Data.List.Basic
import Mathlib.Data.List.Induction

/-!
# Foundations/Multimap — maps with several values a key, by what they are used for

A `MultimapInterface` is read through `entries`, in the order a loop over it sees them; keys may be
compared by less than equality.  Two loops that copy a list of entries into a map differ: one that
appends keeps the values of every key (`values_appendAll`), one that sets keeps the last value of
every key (`values_setAll_empty`), which is all of them only where there is at most one
(`toList_getLast?_eq_iff`).
-/

variable {κ υ : Type*}

/-- The values of a key in a list of entries, in order. -/
def valuesAt (same : κ → κ → Bool) (es : List (κ × υ)) (k : κ) : List υ :=
  (es.filter fun e => same e.1 k).map Prod.snd

section ValuesAt

variable {same : κ → κ → Bool}

@[simp] theorem valuesAt_nil (k : κ) : valuesAt same ([] : List (κ × υ)) k = [] := rfl

theorem valuesAt_append (es es' : List (κ × υ)) (k : κ) :
    valuesAt same (es ++ es') k = valuesAt same es k ++ valuesAt same es' k := by
  rw [valuesAt, List.filter_append, List.map_append, valuesAt, valuesAt]

theorem valuesAt_singleton (k l : κ) (v : υ) :
    valuesAt same [(k, v)] l = if same k l then [v] else [] := by
  rw [valuesAt, List.filter_cons, List.filter_nil]
  split <;> rfl

end ValuesAt

/-- Only lists of at most one element are their last element. -/
theorem toList_getLast?_eq_iff (l : List υ) : l.getLast?.toList = l ↔ l.length ≤ 1 := by
  constructor
  · intro h
    rw [← h]
    exact Option.length_toList_le
  · intro h
    match l, h with
    | [], _ => rfl
    | [v], _ => rfl

/-- The last element is one of the elements. -/
theorem toList_getLast?_diff [BEq υ] [LawfulBEq υ] (l : List υ) :
    l.getLast?.toList.diff l = [] := by
  rcases List.eq_nil_or_concat l with rfl | ⟨l, v, rfl⟩
  · rfl
  · rw [List.concat_eq_append, List.getLast?_concat, Option.toList_some,
      List.cons_diff_of_mem List.mem_concat_self, List.nil_diff]

/-- A map with several values a key: `append` adds a value, `set` replaces all of them. -/
structure MultimapInterface (κ υ : Type*) where
  Map : Type*
  same : κ → κ → Bool
  entries : Map → List (κ × υ)
  empty : Map
  append : Map → κ → υ → Map
  set : Map → κ → υ → Map
  entries_empty : entries empty = []
  values_append : ∀ m k v l, valuesAt same (entries (append m k v)) l
    = if same k l then valuesAt same (entries m) l ++ [v] else valuesAt same (entries m) l
  values_set : ∀ m k v l, valuesAt same (entries (set m k v)) l
    = if same k l then [v] else valuesAt same (entries m) l

namespace MultimapInterface

variable (M : MultimapInterface κ υ)

/-- The values of a key, in order. -/
def values (m : M.Map) (k : κ) : List υ := valuesAt M.same (M.entries m) k

def has (m : M.Map) (k : κ) : Bool := !(M.values m k).isEmpty

/-- Copy a list of entries by appending each. -/
def appendAll (es : List (κ × υ)) (m : M.Map) : M.Map := es.foldl (fun m e => M.append m e.1 e.2) m

/-- Copy a list of entries by setting each. -/
def setAll (es : List (κ × υ)) (m : M.Map) : M.Map := es.foldl (fun m e => M.set m e.1 e.2) m

variable {M}

theorem has_eq_false_iff {m : M.Map} {k : κ} : M.has m k = false ↔ M.values m k = [] := by
  simp [has]

@[simp] theorem values_empty (k : κ) : M.values M.empty k = [] := by
  rw [values, M.entries_empty, valuesAt_nil]

/-- A key other than the one that is set keeps its values. -/
theorem values_set_of_not {m : M.Map} {k l : κ} {v : υ} (h : M.same k l = false) :
    M.values (M.set m k v) l = M.values m l :=
  (M.values_set m k v l).trans (if_neg (by simp [h]))

/-- **Appending keeps the values of every key**, after those it had. -/
theorem values_appendAll (es : List (κ × υ)) (m : M.Map) (k : κ) :
    M.values (M.appendAll es m) k = M.values m k ++ valuesAt M.same es k := by
  induction es using List.reverseRecOn with
  | nil => exact (List.append_nil _).symm
  | append_singleton es e ih =>
    rw [appendAll, List.foldl_concat, valuesAt_append, ← List.append_assoc, ← ih,
      valuesAt_singleton]
    refine (M.values_append _ e.1 e.2 k).trans ?_
    split
    · rfl
    · exact (List.append_nil _).symm

/-- **Setting keeps the last value of every key.** -/
theorem values_setAll_empty (es : List (κ × υ)) (k : κ) :
    M.values (M.setAll es M.empty) k = (valuesAt M.same es k).getLast?.toList := by
  induction es using List.reverseRecOn with
  | nil => exact values_empty k
  | append_singleton es e ih =>
    rw [setAll, List.foldl_concat, valuesAt_append, valuesAt_singleton]
    refine (M.values_set _ e.1 e.2 k).trans ?_
    split
    · rw [List.getLast?_concat]
      rfl
    · rw [List.append_nil]
      exact ih

/-- The map that is its list of entries. -/
def list (κ υ : Type*) [DecidableEq κ] : MultimapInterface κ υ where
  Map := List (κ × υ)
  same k l := k = l
  entries m := m
  empty := []
  append m k v := m ++ [(k, v)]
  set m k v := m.filter (fun e => e.1 ≠ k) ++ [(k, v)]
  entries_empty := rfl
  values_append m k v l := by
    rw [valuesAt_append, valuesAt_singleton]
    split
    · rfl
    · exact List.append_nil _
  values_set m k v l := by
    rw [valuesAt_append, valuesAt_singleton, valuesAt, List.filter_filter]
    split
    case isTrue h =>
      obtain rfl : k = l := of_decide_eq_true h
      simp
    case isFalse h =>
      have hne : k ≠ l := by simpa using h
      rw [List.append_nil, valuesAt]
      refine congrArg _ (List.filter_congr fun e _ => ?_)
      by_cases hl : e.1 = l
      · simp [hl, hne.symm]
      · simp [hl]

end MultimapInterface
