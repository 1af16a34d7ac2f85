import Circe.Foundations.ExpiringStore
import Circe.Pilot.RepositoryIndex

/-!
# Pilot/CompassTable — the table `Pilot::Compass`

What the repository saves goes into a row of a MySQL table and comes back out of it when the next
server starts.  What happens to it on the way is up to Poseidon's `Mysql_daemon` and to MySQL: a
`Database` is a parameter, and what is relied on of it is `KeepsKeys` and `KeepsRecords`.

* `load_isOk_iff`, `getCompass_load` — what the rows have to be for a server to start, and what it
  then starts with;
* `Table.WellFormed` — rows that can be loaded;
* `Table.store` — the rows as a store that expires.
-/

namespace Circe.Pilot

/-! ## Start-up -/

namespace CompassRepository

variable {r r' : CompassRepository} {k : CompassKey}

/-- A compass that was inserted is found, and every other as before. -/
theorem getCompass_insert {c : Compass} (hnew : r.getCompass c.compassKey = none) :
    getCompass k ⟨r.container ++ [createCompassElement ⟨r.nextPtr, c⟩], r.nextPtr + 1⟩
      = if k = c.compassKey then some ⟨r.nextPtr, c⟩ else r.getCompass k := by
  have hnone : r.container.find? (fun e => e.compassKey = c.compassKey) = none :=
    Option.map_eq_none_iff.mp hnew
  rw [getCompass, List.find?_append]
  by_cases hk : k = c.compassKey
  · subst hk
    rw [hnone, if_pos rfl]
    simp [createCompassElement]
  · have hother : ¬ decide (c.compassKey = k) = true := fun h => hk (of_decide_eq_true h).symm
    rw [if_neg hk, List.find?_singleton, createCompassElement, if_neg hother, Option.or_none]
    rfl

/-- **When a server starts**: every key is one that `from_string` accepts, and no two rows have the
same. -/
theorem load_isOk_iff (r : CompassRepository) (rows : List OrmCompass) :
    (∃ r', r.load rows = .ok r') ↔
      (∀ dao ∈ rows, ∃ k, CompassKey.fromString dao.compassKey = .ok k ∧ r.getCompass k = none) ∧
        (rows.map fun dao => CompassKey.fromString dao.compassKey).Nodup := by
  induction rows generalizing r with
  | nil => simp [load]
  | cons dao rows ih =>
    rw [load, Compass.load, List.forall_mem_cons, List.map_cons, List.nodup_cons]
    cases hkey : CompassKey.fromString dao.compassKey with
    | error e => simp [Except.map]
    | ok k =>
      simp only [Except.map, Compass.ofDao]
      cases hget : r.getCompass k with
      | some p => simp [hget]
      | none =>
        have hnew (k' : CompassKey) : getCompass k'
            ⟨r.container ++ [createCompassElement ⟨r.nextPtr, ⟨k, some dao, .empty, .empty⟩⟩],
              r.nextPtr + 1⟩ = none ↔ k' ≠ k ∧ r.getCompass k' = none := by
          rw [getCompass_insert hget]
          by_cases hk : k' = k <;> simp [hk]
        rw [ih]
        simp only [hnew, Except.ok.injEq, exists_eq_left', hget, true_and, List.mem_map, not_exists,
          not_and]
        constructor
        · rintro ⟨hrows, hnodup⟩
          refine ⟨fun dao' hdao' => ?_, fun dao' hdao' hsame => ?_, hnodup⟩
          · obtain ⟨k', hk', -, hnone⟩ := hrows dao' hdao'
            exact ⟨k', hk', hnone⟩
          · obtain ⟨k', hk', hne, -⟩ := hrows dao' hdao'
            exact hne (Except.ok.inj (hk'.symm.trans hsame))
        · rintro ⟨hrows, hother, hnodup⟩
          refine ⟨fun dao' hdao' => ?_, hnodup⟩
          obtain ⟨k', hk', hnone⟩ := hrows dao' hdao'
          exact ⟨k', hk', fun hk => hother dao' hdao' (hk ▸ hk'), hnone⟩

/-- **What a server starts with**: the compass of each row, under the key of the row. -/
theorem getCompass_load {rows : List OrmCompass} (hload : r.load rows = .ok r') (k : CompassKey) :
    (r'.getCompass k).map CompassPtr.object = ((r.getCompass k).map CompassPtr.object).or
      ((rows.find? fun dao => CompassKey.fromString dao.compassKey = .ok k).map (.ofDao k)) := by
  induction rows generalizing r with
  | nil =>
    cases hload
    simp
  | cons dao rows ih =>
    rw [load, Compass.load] at hload
    cases hkey : CompassKey.fromString dao.compassKey with
    | error e =>
      rw [hkey] at hload
      cases hload
    | ok k' =>
      rw [hkey] at hload
      simp only [Except.map, Compass.ofDao] at hload
      cases hget : r.getCompass k' with
      | some p => simp [hget] at hload
      | none =>
        simp only [hget] at hload
        rw [ih hload, getCompass_insert hget, List.find?_cons]
        by_cases hk : k = k'
        · subst hk
          simp [hkey, hget, Compass.ofDao]
        · simp [hkey, hk, Ne.symm hk]

end CompassRepository

/-! ## Rows -/

/-- What a record stores. -/
def OrmCompass.entry (dao : OrmCompass) : Entry Bytes :=
  ⟨⟨dao.value, dao.version⟩, dao.lastAccessTime⟩

/-- A record has the key `k`, all of whose characters are in the table. -/
structure OrmCompass.FiledUnder (dao : OrmCompass) (k : CompassKey) : Prop where
  compassKey : dao.compassKey = k.toString
  mem_sTable : ∀ ch ∈ k.toString, ch ∈ sTable

/-- What is filed under a key is loaded under it. -/
theorem OrmCompass.FiledUnder.fromString {dao : OrmCompass} {k : CompassKey}
    (h : dao.FiledUnder k) : CompassKey.fromString dao.compassKey = .ok k := by
  rw [h.compassKey]
  exact CompassKey.fromString_toString h.mem_sTable

/-- The rows of `Pilot::Compass`. -/
abbrev Table := List OrmCompass

namespace Table

/-- The row that is loaded under a key. -/
def row (t : Table) (k : CompassKey) : Option OrmCompass :=
  t.find? fun row => CompassKey.fromString row.compassKey = .ok k

/-- What the rows store. -/
def store (t : Table) : ExpiringStore CompassKey Bytes := fun k => (t.row k).map OrmCompass.entry

/-- Every row is filed, and no two under one key. -/
structure WellFormed (t : Table) : Prop where
  filed : ∀ row ∈ t, ∃ k, row.FiledUnder k
  nodup : (t.map OrmCompass.compassKey).Nodup

variable {t rows : Table} {dao : OrmCompass} {k : CompassKey}

/-- Rows under one key are one row. -/
theorem row_eq_some_iff (h : (t.map fun row => CompassKey.fromString row.compassKey).Nodup) :
    t.row k = some dao ↔ dao ∈ t ∧ CompassKey.fromString dao.compassKey = .ok k := by
  constructor
  · intro hrow
    exact ⟨List.mem_of_find?_eq_some hrow, by simpa using List.find?_some hrow⟩
  · rintro ⟨hmem, hkey⟩
    cases hrow : t.row k with
    | none => exact absurd hkey (by simpa using List.find?_eq_none.mp hrow dao hmem)
    | some dao' =>
      have hkey' : CompassKey.fromString dao'.compassKey = .ok k := by
        simpa using List.find?_some hrow
      have hmem' : dao' ∈ t := List.mem_of_find?_eq_some hrow
      rw [List.inj_on_of_nodup_map h hmem' hmem (hkey'.trans hkey.symm)]

/-- In whatever order the rows come, each key has the same one. -/
theorem row_perm (hperm : rows.Perm t)
    (h : (t.map fun row => CompassKey.fromString row.compassKey).Nodup) :
    row rows k = t.row k := by
  refine Option.ext fun dao => ?_
  rw [row_eq_some_iff h, row_eq_some_iff ((hperm.map _).nodup_iff.mpr h), hperm.mem_iff]

/-- Rows that are filed under different texts are loaded under different keys. -/
theorem WellFormed.nodup_fromString (h : t.WellFormed) :
    (t.map fun row => CompassKey.fromString row.compassKey).Nodup := by
  have hinj : ∀ row ∈ t, ∀ row' ∈ t, CompassKey.fromString row.compassKey
      = CompassKey.fromString row'.compassKey → row = row' := by
    intro row hrow row' hrow' hsame
    obtain ⟨k, hk⟩ := h.filed row hrow
    obtain ⟨k', hk'⟩ := h.filed row' hrow'
    rw [hk.fromString, hk'.fromString] at hsame
    refine List.inj_on_of_nodup_map h.nodup hrow hrow' ?_
    rw [hk.compassKey, hk'.compassKey, Except.ok.inj hsame]
  exact (List.nodup_map_iff_inj_on (h.nodup.of_map _)).mpr hinj

/-- **Rows that are well formed can be loaded**, in any order. -/
theorem WellFormed.load_isOk (h : t.WellFormed) (hperm : rows.Perm t) :
    ∃ r, CompassRepository.empty.load rows = .ok r := by
  refine (CompassRepository.load_isOk_iff _ _).mpr ⟨fun row hrow => ?_, ?_⟩
  · obtain ⟨k, hk⟩ := h.filed row (hperm.mem_iff.mp hrow)
    exact ⟨k, hk.fromString, rfl⟩
  · exact (hperm.map _).nodup_iff.mpr h.nodup_fromString

/-- The compass that is loaded under a key is that of its row. -/
theorem compass_load {r : CompassRepository} (hperm : rows.Perm t)
    (hload : CompassRepository.empty.load rows = .ok r) (k : CompassKey) :
    r.compass k = ((t.row k).map (Compass.ofDao k)).getD (.create k) := by
  have hnodup := ((CompassRepository.load_isOk_iff _ _).mp ⟨r, hload⟩).2
  have hget := CompassRepository.getCompass_load hload k
  have hempty : (CompassRepository.empty.getCompass k).map CompassPtr.object = none := rfl
  have hrow : row rows k = t.row k := row_perm hperm ((hperm.map _).nodup_iff.mp hnodup)
  rw [hempty, Option.none_or] at hget
  rw [CompassRepository.compass, hget, ← hrow]
  rfl

end Table

/-! ## The database -/

/-- Poseidon's `Mysql_daemon` and the MySQL server behind it, in the states `D`. -/
structure Database (D : Type) where
  /-- The rows that `SELECT * FROM` finds. -/
  rows : D → Table
  /-- A field of a record was written: the record is to be saved. -/
  save : OrmCompass → D → D
  /-- `enqueue_for_deleting`, of the rows up to a time. -/
  delete : ℕ → D → D
  /-- The daemon does some of what was enqueued. -/
  goesOn : D → D → Prop
  /-- The process ends, and what it had enqueued with it. -/
  restart : D → D
  /-- What the column `last_access_time` keeps of a time. -/
  column : ℕ → ℕ
  /-- What `Date_time_formatter` writes of a time in a statement. -/
  formatter : ℕ → ℕ
  /-- The column `value` holds the bytes as they are. -/
  holds : Bytes → Prop
  /-- The column `compass_key` compares two keys as equal. -/
  alike : CompassKey → CompassKey → Prop
  /-- The keys in the table or on their way to it. -/
  keys : D → Set Bytes
  /-- The row of a key once all that was enqueued is done. -/
  stored : D → CompassKey → Option OrmCompass

namespace Database

variable {D : Type}

/-- The primary key: rows differ in `compass_key`, and come from records that were saved. -/
structure KeepsKeys (db : Database D) : Prop where
  nodup : ∀ d, ((db.rows d).map OrmCompass.compassKey).Nodup
  mem_keys : ∀ d, ∀ row ∈ db.rows d, row.compassKey ∈ db.keys d
  keys_save : ∀ dao d k, dao.FiledUnder k →
    db.keys (db.save dao d) ⊆ insert dao.compassKey (db.keys d)
  keys_delete : ∀ expiryTime d, db.keys (db.delete expiryTime d) ⊆ db.keys d
  keys_goesOn : ∀ d d', db.goesOn d d' → db.keys d' ⊆ db.keys d
  keys_restart : ∀ d, db.keys (db.restart d) ⊆ db.keys d

/-- No statement fails: a record is its row once all that was enqueued is done.  A restart leaves
the rows. -/
structure KeepsRecords (db : Database D) : Prop where
  stored_save : ∀ dao d k, dao.FiledUnder k → db.holds dao.value →
    db.stored (db.save dao d) k = some { dao with lastAccessTime := db.column dao.lastAccessTime }
  stored_save_other : ∀ dao d k k', dao.FiledUnder k → ¬ db.alike k k' →
    db.stored (db.save dao d) k' = db.stored d k'
  stored_delete : ∀ expiryTime d k,
    (∀ row ∈ db.stored d k, db.formatter expiryTime < row.lastAccessTime) →
      db.stored (db.delete expiryTime d) k = db.stored d k
  stored_goesOn : ∀ d d' k, db.goesOn d d' → db.stored d' k = db.stored d k
  stored_restart : ∀ d k, db.stored (db.restart d) k = (db.rows d).row k
  /-- What is in a column is held by it. -/
  column_stored : ∀ d k, ∀ row ∈ db.stored d k,
    db.column row.lastAccessTime = row.lastAccessTime
  holds_stored : ∀ d k, ∀ row ∈ db.stored d k, db.holds row.value

/-- All that was enqueued of a key is done. -/
def CaughtUp (db : Database D) (d : D) (k : CompassKey) : Prop := (db.rows d).row k = db.stored d k

/-- Every key in the table, or on its way to it, is one that is written from a hash. -/
def Filed (db : Database D) (d : D) : Prop :=
  ∀ key ∈ db.keys d, ∃ k : CompassKey, key = k.toString ∧ ∀ ch ∈ k.toString, ch ∈ sTable

/-- What a row keeps of an entry. -/
def keep (db : Database D) (e : Entry Bytes) : Entry Bytes :=
  { e with lastAccess := db.column e.lastAccess }

variable {db : Database D} {d : D}

theorem Filed.wellFormed (h : db.Filed d) (hdb : db.KeepsKeys) : (db.rows d).WellFormed where
  filed row hrow := by
    obtain ⟨k, hkey, hk⟩ := h _ (hdb.mem_keys d row hrow)
    exact ⟨k, hkey, hk⟩
  nodup := hdb.nodup d

theorem Filed.mono {d' : D} (h : db.Filed d) (hkeys : db.keys d' ⊆ db.keys d) : db.Filed d' :=
  fun key hkey => h key (hkeys hkey)

theorem Filed.save {dao : OrmCompass} {k : CompassKey} (h : db.Filed d) (hdb : db.KeepsKeys)
    (hdao : dao.FiledUnder k) : db.Filed (db.save dao d) := by
  intro key hkey
  rcases hdb.keys_save dao d k hdao hkey with rfl | hold
  · exact ⟨k, hdao.compassKey, hdao.mem_sTable⟩
  · exact h key hold

end Database

end Circe.Pilot
