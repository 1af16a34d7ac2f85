import Circe.Pilot.CompassTable
import Circe.Pilot.StoreRefinement

/-!
# Pilot/Restart — what was written is there after a restart

A pilot server and its database.  An answered request saves the record of its compass, a tick of
the garbage collector deletes from memory and from the table, the daemon writes when it comes to it,
and a restart loads the rows that it finds, in any order.

* `loads_again` — the rows can always be loaded, and what the next server holds are they;
* `Deployment.Agrees` — the row of a key, once written, is what the server holds;
* `nothing_lost` — so nothing that was written is lost, over runs and restarts.
-/

namespace Circe.Pilot

/-! ## Records are filed -/

/-- Every record is filed under the key of its compass. -/
def Server.Filed (s : Server) : Prop := ∀ k, ∀ dao ∈ (s.compass k).dao, dao.FiledUnder k

section Filed

variable {sha256 : Bytes → Sha256} {s t : Server} {l : Label} {k : CompassKey}

/-- A touch leaves a record where it is filed. -/
theorem Compass.Touched.filed {p q : Compass} (h : p.Touched q)
    (hp : ∀ dao ∈ p.dao, dao.FiledUnder k) : ∀ dao ∈ q.dao, dao.FiledUnder k := by
  rcases h with rfl | ⟨utcNow, rfl⟩
  · exact hp
  · intro dao hdao
    obtain ⟨dao', hdao', rfl⟩ := Option.map_eq_some_iff.mp hdao
    exact ⟨(hp dao' hdao').compassKey, (hp dao' hdao').mem_sTable⟩

/-- A record that a request leaves is filed under the key of the request. -/
theorem Compass.filed_daoAfter {p : Compass} {data : Bytes} {written : Option Bytes}
    (hkey : p.compassKey = .fromHashOf sha256 data)
    (hp : ∀ dao ∈ p.dao, dao.FiledUnder p.compassKey) :
    ∀ dao ∈ p.daoAfter written, dao.FiledUnder p.compassKey := by
  cases written with
  | none => exact hp
  | some v =>
    intro dao hdao
    obtain rfl := Option.some.inj hdao
    cases hold : p.dao with
    | some old =>
      have hsame : (p.daoWritten v).compassKey = old.compassKey := by
        simp only [daoWritten, hold, Option.getD_some]
      exact ⟨hsame.trans (hp old hold).compassKey, (hp old hold).mem_sTable⟩
    | none =>
      have hnew : (p.daoWritten v).compassKey = p.compassKey.toString := by
        simp only [daoWritten, hold, Option.getD_none, CompassKey.toString]
      refine ⟨hnew, ?_⟩
      rw [hkey]
      exact fun ch hch => CompassKey.mem_sTable_of_fromHashOf sha256 data hch

/-- A request is on a key that is a hash. -/
theorem Event.exists_hash {e : Event} (h : e.compassKey sha256 = some k) :
    ∃ data, k = .fromHashOf sha256 data := by
  cases e with
  | compareExchange | exchange | addWatch | removeWatch => exact ⟨_, (Option.some.inj h).symm⟩
  | _ => cases h

/-- **Every step files the records.** -/
theorem Step.filed (hinv : s.Inv) (h : Step sha256 s l t) (hs : s.Filed) : t.Filed := by
  intro k
  have hkey : (s.compass k).compassKey = k := hinv.repository.compassKey_compass k
  cases h.compass hinv k with
  | access a q ha hk _ _ hh ht =>
    obtain ⟨data, hdata⟩ := Event.exists_hash (Label.compassKey_of_access ha)
    have hafter : ∀ dao ∈ (s.compass k).daoAfter a.written,
        dao.FiledUnder (s.compass k).compassKey :=
      Compass.filed_daoAfter (hkey.trans (hk.symm.trans hdata)) (hkey.symm ▸ hs k)
    rw [hkey, ← hh.dao] at hafter
    exact ht.filed hafter
  | addWatch c req w he hk hr hsent ht =>
    rw [Server.addWatchServlet_compass] at ht
    exact ht.filed (hs k)
  | removeWatch c ntfy he hk hsent ht => exact ht.filed (hs k)
  | collected utcNow expiryDuration he e hmem hobject htime ht =>
    intro dao hdao
    rw [ht] at hdao
    cases hdao
  | kept hk ht =>
    rw [ht]
    exact hs k

end Filed

/-! ## A server and its database -/

structure Deployment (D : Type) where
  server : Server
  database : D

/-- A step of the server, of its daemon, or a restart. -/
inductive LifeLabel
  | step (l : Label)
  | mysql
  | restart

/-- What a step of the server does to the database: an answered request saves the record of its
compass, if it has one; a tick deletes. -/
def Database.after {D : Type} (db : Database D) (t : Server) (d : D) :
    ExpiringStore.Op CompassKey Bytes → D
  | .access k _ _ =>
    match (t.compass k).dao with
    | some dao => db.save dao d
    | none => d
  | .collect expiryTime => db.delete expiryTime d
  | .idle => d

/-- A server that has just been started from a table, with nobody connected. -/
structure Server.LoadedFrom (table : Table) (s : Server) : Prop where
  load : ∃ rows : Table, rows.Perm table ∧ CompassRepository.empty.load rows = .ok s.repository
  live : s.live = []
  down : s.down = []
  seen : s.seen = []

/-- The steps of a deployment.  A restart may come before the daemon has written. -/
def LifeStep {D : Type} (sha256 : Bytes → Sha256) (db : Database D) (s : Deployment D) :
    LifeLabel → Deployment D → Prop
  | .step l, t =>
    Step sha256 s.server l t.server ∧ t.database = db.after t.server s.database (l.op sha256)
  | .mysql, t => t.server = s.server ∧ db.goesOn s.database t.database
  | .restart, t =>
    t.server.LoadedFrom (db.rows s.database) ∧ t.database = db.restart s.database

namespace Server.LoadedFrom

variable {table : Table} {s : Server} {k : CompassKey}

theorem compass (h : s.LoadedFrom table) (k : CompassKey) :
    s.compass k = ((table.row k).map (Compass.ofDao k)).getD (.create k) := by
  obtain ⟨rows, hperm, hload⟩ := h.load
  exact Table.compass_load hperm hload k

/-- What was loaded makes a server that just started. -/
theorem started (h : s.LoadedFrom table) : s.Started where
  repository := by
    obtain ⟨rows, -, hload⟩ := h.load
    exact CompassRepository.inv_empty.load hload
  loaded k q hget := by
    obtain ⟨rows, -, hload⟩ := h.load
    have hobject := CompassRepository.getCompass_load hload k
    rw [hget] at hobject
    obtain ⟨dao, -, hdao⟩ := Option.map_eq_some_iff.mp hobject.symm
    exact ⟨dao, hdao.symm⟩
  live := h.live
  down := h.down
  seen := h.seen

/-- **A server that just started holds the rows.** -/
theorem store (h : s.LoadedFrom table) : s.store = table.store := by
  funext k
  rw [Server.store, h.compass k, Table.store]
  cases table.row k <;> rfl

theorem filed (h : s.LoadedFrom table) (htable : table.WellFormed) : s.Filed := by
  intro k dao hdao
  rw [h.compass k] at hdao
  cases hrow : table.row k with
  | none =>
    rw [hrow] at hdao
    cases hdao
  | some row =>
    rw [hrow] at hdao
    obtain rfl := Option.some.inj hdao
    obtain ⟨k', hk'⟩ := htable.filed row (List.mem_of_find?_eq_some hrow)
    have hloaded : CompassKey.fromString row.compassKey = .ok k := by
      simpa using List.find?_some hrow
    obtain rfl : k' = k := Except.ok.inj (hk'.fromString.symm.trans hloaded)
    exact hk'

end Server.LoadedFrom

/-! ## Every step leaves rows that can be loaded -/

section Steps

variable {D : Type} {sha256 : Bytes → Sha256} {db : Database D} {s t : Deployment D} {l : LifeLabel}

/-- A server just started from what pilots have left in the table. -/
structure Deployment.Started (db : Database D) (s : Deployment D) : Prop where
  loaded : s.server.LoadedFrom (db.rows s.database)
  filed : db.Filed s.database

/-- The server is in order, its records are filed, and so is all that the database has. -/
structure Deployment.Inv (db : Database D) (s : Deployment D) : Prop where
  server : s.server.Inv
  filed : s.server.Filed
  database : db.Filed s.database

theorem Deployment.Started.inv (hdb : db.KeepsKeys) (h : s.Started db) : s.Inv db where
  server := h.loaded.started.inv
  filed := h.loaded.filed (h.filed.wellFormed hdb)
  database := h.filed

theorem Database.Filed.after {u : Server} {d : D} (h : db.Filed d) (hdb : db.KeepsKeys)
    (hu : u.Filed) (op : ExpiringStore.Op CompassKey Bytes) : db.Filed (db.after u d op) := by
  cases op with
  | access k written now =>
    rw [Database.after]
    cases hdao : (u.compass k).dao with
    | none => exact h
    | some dao => exact h.save hdb (hu k dao hdao)
  | collect expiryTime => exact h.mono (hdb.keys_delete expiryTime d)
  | idle => exact h

theorem LifeStep.inv (hdb : db.KeepsKeys) (h : LifeStep sha256 db s l t) (hs : s.Inv db) :
    t.Inv db := by
  cases l with
  | step l =>
    obtain ⟨hstep, hdatabase⟩ := h
    have hfiled : t.server.Filed := hstep.filed hs.server hs.filed
    exact ⟨hstep.inv hs.server, hfiled, hdatabase ▸ hs.database.after hdb hfiled _⟩
  | mysql =>
    obtain ⟨hserver, hon⟩ := h
    exact ⟨hserver ▸ hs.server, hserver ▸ hs.filed, hs.database.mono (hdb.keys_goesOn _ _ hon)⟩
  | restart =>
    obtain ⟨hloaded, hdatabase⟩ := h
    refine ⟨hloaded.started.inv, hloaded.filed (hs.database.wellFormed hdb), ?_⟩
    rw [hdatabase]
    exact hs.database.mono (hdb.keys_restart _)

end Steps

section Runs

variable {D : Type} {sha256 : Bytes → Sha256} {db : Database D} {s t : Deployment D}
  {ls : List LifeLabel}

theorem Deployment.inv_of_run (hdb : db.KeepsKeys) (hs : s.Started db)
    (h : Lts.Run (LifeStep sha256 db) s ls t) : t.Inv db :=
  h.invariant (fun hs hstep => hstep.inv hdb hs) (hs.inv hdb)

/-- **A server can always be started again.**  Over any number of runs and restarts, and wherever
the daemon is with its writes, the rows can be loaded in whatever order they come; the server that
is started so has nobody hold a lock or watch, and holds for each key what its row stores. -/
theorem loads_again (hdb : db.KeepsKeys) (hs : s.Started db)
    (h : Lts.Run (LifeStep sha256 db) s ls t) :
    (∀ rows : Table, rows.Perm (db.rows t.database) →
        ∃ r, CompassRepository.empty.load rows = .ok r) ∧
      ∀ u : Server, u.LoadedFrom (db.rows t.database) →
        u.store = (db.rows t.database).store ∧
          ∀ k, (u.compass k).lock = .empty ∧ (u.compass k).watcherMap = .empty := by
  have hrows : (db.rows t.database).WellFormed :=
    (Deployment.inv_of_run hdb hs h).database.wellFormed hdb
  refine ⟨fun rows hperm => hrows.load_isOk hperm, fun u hu => ⟨hu.store, fun k => ?_⟩⟩
  rw [hu.compass k]
  cases (db.rows t.database).row k <;> exact ⟨rfl, rfl⟩

end Runs

/-! ## What the rows keep -/

/-- What keeps the record of `k` as it is: what is written to it fits its column, no other record
takes its row, and no tick deletes its compass or its row. -/
def KeepsRecord {D : Type} (db : Database D) (s : Server) (k : CompassKey) :
    ExpiringStore.Op CompassKey Bytes → Prop
  | .access k' written _ =>
    if k' = k then ∀ value ∈ written, db.holds value else ¬ db.alike k' k
  | .collect expiryTime => ∀ e ∈ s.store k,
      expiryTime < e.lastAccess ∧ db.formatter expiryTime < (db.keep e).lastAccess
  | .idle => True

/-- The steps that keep the record of `k`, and the restarts that find it written. -/
def Deployment.Keeps {D : Type} (sha256 : Bytes → Sha256) (db : Database D) (k : CompassKey)
    (s : Deployment D) : LifeLabel → Prop
  | .step l => KeepsRecord db s.server k (l.op sha256)
  | .mysql => True
  | .restart => db.CaughtUp s.database k

/-- The row of a key is, once written, what the server holds. -/
def Deployment.Agrees {D : Type} (db : Database D) (s : Deployment D) (k : CompassKey) : Prop :=
  (db.stored s.database k).map OrmCompass.entry = (s.server.store k).map db.keep

section Agreement

variable {D : Type} {sha256 : Bytes → Sha256} {db : Database D} {s t : Deployment D}
  {k : CompassKey}

theorem KeepsRecord.spares {u : Server} {op : ExpiringStore.Op CompassKey Bytes}
    (h : KeepsRecord db u k op) : u.store.Spares k op := by
  cases op with
  | collect expiryTime => exact fun e he => (h e he).1
  | _ => trivial

/-- An access leaves a value that the column holds, of two such. -/
theorem holds_access {store : ExpiringStore CompassKey Bytes} {written : Option Bytes} {now : ℕ}
    {e : Entry Bytes} (hwritten : ∀ value ∈ written, db.holds value)
    (hstore : ∀ e ∈ store k, db.holds e.register.value)
    (he : e ∈ store.apply (.access k written now) k) : db.holds e.register.value := by
  cases written with
  | some value =>
    rw [ExpiringStore.apply, Function.update_self] at he
    obtain rfl := Option.some.inj he
    exact hwritten value rfl
  | none =>
    rw [ExpiringStore.apply, Function.update_self] at he
    obtain ⟨e', he', rfl⟩ := Option.map_eq_some_iff.mp he
    exact hstore e' he'

/-- What is stored is kept as it is. -/
theorem Database.KeepsRecords.keep_entry (hdb : db.KeepsRecords) {d : D} {row : OrmCompass}
    (hrow : row ∈ db.stored d k) : db.keep row.entry = row.entry := by
  rw [Database.keep, OrmCompass.entry, hdb.column_stored d k row hrow]

/-- What is loaded agrees with the rows. -/
theorem Server.LoadedFrom.agrees (hdb : db.KeepsRecords) {u : Server} {d d' : D}
    (h : u.LoadedFrom (db.rows d)) (hsame : db.stored d' k = (db.rows d).row k) :
    (⟨u, d'⟩ : Deployment D).Agrees db k := by
  rw [Deployment.Agrees, h.store, Table.store, ← hsame, Option.map_map]
  refine Option.map_congr fun row hrow => ?_
  exact (hdb.keep_entry hrow).symm

/-- What the server holds of a key is held by its column. -/
theorem Deployment.Agrees.holds (hdb : db.KeepsRecords) (h : s.Agrees db k) :
    ∀ e ∈ s.server.store k, db.holds e.register.value := by
  intro e he
  rw [Agrees, he, Option.map_some] at h
  obtain ⟨row, hrow, hentry⟩ := Option.map_eq_some_iff.mp h
  have hvalue : row.value = e.register.value :=
    congrArg (fun e : Entry Bytes => e.register.value) hentry
  exact hvalue ▸ hdb.holds_stored s.database k row hrow

/-- An access of `k` saves what it leaves. -/
theorem Deployment.Agrees.access_self {u : Server} {written : Option Bytes} {now : ℕ}
    (hdb : db.KeepsRecords) (hfiled : u.Filed)
    (hstore : u.store = s.server.store.apply (.access k written now))
    (hwritten : ∀ value ∈ written, db.holds value) (hs : s.Agrees db k) :
    (⟨u, db.after u s.database (.access k written now)⟩ : Deployment D).Agrees db k := by
  rw [Agrees, Database.after]
  cases hdao : (u.compass k).dao with
  | some dao =>
    have hentry : u.store k = some dao.entry := by rw [Server.store, hdao]; rfl
    have hvalue : db.holds dao.value :=
      holds_access hwritten (hs.holds hdb) (e := dao.entry) (hstore ▸ hentry)
    rw [hdb.stored_save dao _ k (hfiled k dao hdao) hvalue, hentry]
    rfl
  | none =>
    -- a compass without a record had none before, and no row
    have hnone : u.store k = none := by rw [Server.store, hdao]; rfl
    have hbefore : s.server.store k = none := ExpiringStore.eq_none_of_apply_access (hstore ▸ hnone)
    rw [hnone, hs, hbefore]

/-- An access of another key saves a record that leaves the row of `k`. -/
theorem Deployment.Agrees.access_other {u : Server} {k' : CompassKey} {written : Option Bytes}
    {now : ℕ} (hdb : db.KeepsRecords) (hfiled : u.Filed)
    (hstore : u.store = s.server.store.apply (.access k' written now)) (hk : k' ≠ k)
    (hother : ¬ db.alike k' k) (hs : s.Agrees db k) :
    (⟨u, db.after u s.database (.access k' written now)⟩ : Deployment D).Agrees db k := by
  rw [Agrees, hstore, ExpiringStore.apply_access_of_ne hk, ← hs, Database.after]
  cases hdao : (u.compass k').dao with
  | some dao => simp only [hdb.stored_save_other dao _ k' k (hfiled k' dao hdao) hother]
  | none => rfl

/-- A tick that spares the compass of `k` and its row changes neither. -/
theorem Deployment.Agrees.collect {u : Server} {expiryTime : ℕ} (hdb : db.KeepsRecords)
    (hstore : u.store = s.server.store.apply (.collect expiryTime))
    (hkeeps : KeepsRecord db s.server k (.collect expiryTime)) (hs : s.Agrees db k) :
    (⟨u, db.after u s.database (.collect expiryTime)⟩ : Deployment D).Agrees db k := by
  have hlate : ∀ row ∈ db.stored s.database k, db.formatter expiryTime < row.lastAccessTime := by
    intro row hrow
    have hentry := hs
    rw [Agrees, hrow, Option.map_some] at hentry
    obtain ⟨e, he, hkept⟩ := Option.map_eq_some_iff.mp hentry.symm
    have htime : (db.keep e).lastAccess = row.lastAccessTime :=
      congrArg (fun e : Entry Bytes => e.lastAccess) hkept
    exact htime ▸ (hkeeps e he).2
  rw [Agrees, Database.after, hdb.stored_delete expiryTime _ k hlate, hs, hstore,
    ExpiringStore.apply_collect_of_spares hkeeps.spares]

/-- **A step keeps the agreement**, where it keeps the record. -/
theorem Deployment.Agrees.step {l : Label} (hdb : db.KeepsRecords) (hinv : s.Inv db)
    (h : LifeStep sha256 db s (.step l) t) (hkeeps : KeepsRecord db s.server k (l.op sha256))
    (hs : s.Agrees db k) : t.Agrees db k := by
  obtain ⟨server, database⟩ := t
  obtain ⟨hstep, hdatabase⟩ := h
  obtain rfl : database = db.after server s.database (l.op sha256) := hdatabase
  have hstore : server.store = s.server.store.apply (l.op sha256) := hstep.store hinv.server
  have hfiled : server.Filed := hstep.filed hinv.server hinv.filed
  cases hop : l.op sha256 with
  | access k' written now =>
    rw [hop] at hstore hkeeps
    by_cases hk : k' = k
    · subst hk
      rw [KeepsRecord, if_pos rfl] at hkeeps
      exact hs.access_self hdb hfiled hstore hkeeps
    · rw [KeepsRecord, if_neg hk] at hkeeps
      exact hs.access_other hdb hfiled hstore hk hkeeps
  | collect expiryTime =>
    rw [hop] at hstore hkeeps
    exact hs.collect hdb hstore hkeeps
  | idle =>
    rw [hop] at hstore
    rw [Agrees, Database.after, hs, hstore, ExpiringStore.apply]

/-- The steps at which the record of `k` is kept. -/
abbrev KeepingStep (sha256 : Bytes → Sha256) (db : Database D) (k : CompassKey) :
    Deployment D → LifeLabel → Deployment D → Prop :=
  Lts.Guarded (LifeStep sha256 db) (Deployment.Keeps sha256 db k)

/-- **Every step keeps the agreement**, a restart where the row was written. -/
theorem KeepingStep.agrees {l : LifeLabel} (hdb : db.KeepsRecords) (hinv : s.Inv db)
    (h : KeepingStep sha256 db k s l t) (hs : s.Agrees db k) : t.Agrees db k := by
  cases l with
  | step l => exact hs.step hdb hinv h.2 h.1
  | mysql =>
    obtain ⟨hserver, hon⟩ := h.2
    rw [Deployment.Agrees, hserver, hdb.stored_goesOn _ _ k hon]
    exact hs
  | restart =>
    obtain ⟨hloaded, hdatabase⟩ := h.2
    refine hloaded.agrees hdb ?_
    rw [hdatabase, hdb.stored_restart]

/-- A restart that finds the row of a key written keeps its register. -/
theorem KeepingStep.register_restart (h : KeepingStep sha256 db k s .restart t)
    (hs : s.Agrees db k) : t.server.register k = s.server.register k := by
  obtain ⟨hcaught, hloaded, -⟩ := h
  rw [← Server.read_store, ← Server.read_store, ExpiringStore.read, ExpiringStore.read,
    hloaded.store, Table.store, hcaught, hs, Option.map_map]
  rfl

end Agreement

section Lifetime

variable {D : Type} {sha256 : Bytes → Sha256} {db : Database D} {s t : Deployment D}
  {ls : List LifeLabel} {k : CompassKey}

/-- **The row is what the server holds**, once written, where every step keeps the record. -/
theorem Deployment.agrees_of_run (hkeys : db.KeepsKeys) (hdb : db.KeepsRecords)
    (hs : s.Started db) (hcaught : db.CaughtUp s.database k)
    (h : Lts.Run (KeepingStep sha256 db k) s ls t) : t.Agrees db k := by
  induction h with
  | nil => exact hs.loaded.agrees hdb hcaught.symm
  | snoc hpre hlast ih => exact hlast.agrees hdb (inv_of_run hkeys hs hpre.of_guarded) ih

/-- What a step writes to a key. -/
def LifeLabel.written (sha256 : Bytes → Sha256) (k : CompassKey) : LifeLabel → Option Bytes
  | .step l => l.written sha256 k
  | .mysql | .restart => none

/-- What is written to a key over runs and restarts. -/
def written (sha256 : Bytes → Sha256) (k : CompassKey) (ls : List LifeLabel) :
    List (Option Bytes) :=
  ls.map (LifeLabel.written sha256 k)

theorem written_append (sha256 : Bytes → Sha256) (k : CompassKey) (ls ms : List LifeLabel) :
    written sha256 k (ls ++ ms) = written sha256 k ls ++ written sha256 k ms := List.map_append

theorem Deployment.register_of_run (hkeys : db.KeepsKeys) (hdb : db.KeepsRecords)
    (hs : s.Started db) (hcaught : db.CaughtUp s.database k)
    (h : Lts.Run (KeepingStep sha256 db k) s ls t) :
    t.server.register k = (s.server.register k).replay (written sha256 k ls) := by
  induction h with
  | nil => rfl
  | @snoc u v ls l hpre hlast ih =>
    have hinv : u.Inv db := inv_of_run hkeys hs hpre.of_guarded
    have hmoved : v.server.register k
        = (u.server.register k).write (l.written sha256 k) := by
      cases l with
      | step l =>
        rw [← Server.read_store, ← Server.read_store, hlast.2.1.store hinv.server,
          ExpiringStore.read_apply (KeepsRecord.spares hlast.1), writtenTo_op]
        rfl
      | mysql =>
        rw [hlast.2.1]
        rfl
      | restart =>
        exact hlast.register_restart (agrees_of_run hkeys hdb hs hcaught hpre)
    rw [hmoved, ih, written_append, Register.replay_append]
    rfl

/-- **Nothing that was written is lost.**  Over any number of runs and restarts in which what is
written to a key fits its column, no other key is alike to it, no tick deletes its compass or its
row and every restart finds its row written, the value and the version are those of all that was
written to it; and what a response reports are those of all that was written before. -/
theorem nothing_lost (hkeys : db.KeepsKeys) (hdb : db.KeepsRecords) (hs : s.Started db)
    (hcaught : db.CaughtUp s.database k) (h : Lts.Run (KeepingStep sha256 db k) s ls t) :
    t.server.register k = (s.server.register k).replay (written sha256 k ls) ∧
      ∀ pre l post, ls = pre ++ .step l :: post → ∀ r, l.reported sha256 k = some r →
        r = (((s.server.register k).replay (written sha256 k pre)).value,
          ((s.server.register k).replay (written sha256 k pre)).version) := by
  refine ⟨Deployment.register_of_run hkeys hdb hs hcaught h, ?_⟩
  rintro pre l post rfl r hreported
  obtain ⟨u, v, hpre, hstep, -⟩ := h.split
  rw [← Deployment.register_of_run hkeys hdb hs hcaught hpre]
  exact Step.reported (Deployment.inv_of_run hkeys hs hpre.of_guarded).server hstep.2.1 hreported

end Lifetime

/-! ## A daemon that writes in order -/

/-- What is enqueued. -/
inductive Statement
  | replace (dao : OrmCompass)
  | delete (expiryTime : ℕ)

/-- A `datetime` without a fraction. -/
def wholeSeconds (time : ℕ) : ℕ := time / 1000 * 1000

/-- ASCII that fits a `text`. -/
def isText (value : Bytes) : Bool := decide (value.length ≤ 65535) && value.all (· < 128)

/-- Letters compare without case. -/
def foldCase (key : Bytes) : Bytes :=
  key.map fun ch => if 65 ≤ ch ∧ ch ≤ 90 then ch + 32 else ch

def Statement.execute (table : Table) : Statement → Table
  | .replace dao =>
    if isText dao.value then
      { dao with lastAccessTime := wholeSeconds dao.lastAccessTime } ::
        table.filter fun row => foldCase row.compassKey ≠ foldCase dao.compassKey
    else table
  | .delete expiryTime => table.filter fun row => expiryTime < row.lastAccessTime

def tableOf (done : List Statement) : Table := done.foldl Statement.execute []

theorem tableOf_concat (done : List Statement) (statement : Statement) :
    tableOf (done ++ [statement]) = statement.execute (tableOf done) := List.foldl_concat ..

structure Queue where
  done : List Statement
  pending : List Statement

/-- The first of what is pending is done. -/
def Queue.next (d : Queue) : Queue :=
  match d.pending with
  | [] => d
  | statement :: pending => ⟨d.done ++ [statement], pending⟩

/-- What is enqueued in all. -/
def Queue.all (d : Queue) : List Statement := d.done ++ d.pending

@[simp] theorem Queue.all_next (d : Queue) : d.next.all = d.all := by
  obtain ⟨done, pending⟩ := d
  cases pending with
  | nil => rfl
  | cons statement pending => exact List.append_assoc ..

def plainMysql : Database Queue where
  rows d := tableOf d.done
  save dao d := { d with pending := d.pending ++ [.replace dao] }
  delete expiryTime d := { d with pending := d.pending ++ [.delete expiryTime] }
  goesOn d d' := d' = d.next
  restart d := { d with pending := [] }
  column := wholeSeconds
  formatter time := time
  holds value := isText value = true
  alike k k' := foldCase k.toString = foldCase k'.toString
  keys d := { key | ∃ dao : OrmCompass, .replace dao ∈ d.all ∧ dao.compassKey = key }
  stored d := (tableOf d.all).row

/-- What is enqueued comes last. -/
theorem all_concat (d : Queue) (statement : Statement) :
    Queue.all { d with pending := d.pending ++ [statement] } = d.all ++ [statement] :=
  (List.append_assoc ..).symm

/-- What a row of the table comes from. -/
theorem exists_replace_of_mem_tableOf {done : List Statement} {row : OrmCompass}
    (h : row ∈ tableOf done) : ∃ dao, .replace dao ∈ done ∧ isText dao.value = true ∧
      row = { dao with lastAccessTime := wholeSeconds dao.lastAccessTime } := by
  induction done using List.reverseRecOn with
  | nil => cases h
  | append_singleton done statement ih =>
    have hmore (hrow : row ∈ tableOf done) : ∃ dao, .replace dao ∈ done ++ [statement] ∧
        isText dao.value = true ∧
          row = { dao with lastAccessTime := wholeSeconds dao.lastAccessTime } := by
      obtain ⟨dao, hdao, hrest⟩ := ih hrow
      exact ⟨dao, List.mem_append_left _ hdao, hrest⟩
    rw [tableOf_concat] at h
    cases statement with
    | replace dao =>
      rw [Statement.execute] at h
      split at h
      case isTrue htext =>
        rcases List.mem_cons.mp h with rfl | hrow
        · exact ⟨dao, by simp, htext, rfl⟩
        · exact hmore (List.mem_of_mem_filter hrow)
      case isFalse => exact hmore h
    | delete expiryTime => exact hmore (List.mem_of_mem_filter h)

/-- No two rows have one key. -/
theorem nodup_tableOf (done : List Statement) :
    ((tableOf done).map OrmCompass.compassKey).Nodup := by
  induction done using List.reverseRecOn with
  | nil => exact List.nodup_nil
  | append_singleton done statement ih =>
    rw [tableOf_concat]
    cases statement with
    | replace dao =>
      rw [Statement.execute]
      split
      · rw [List.map_cons, List.nodup_cons]
        refine ⟨fun hmem => ?_, (List.filter_sublist.map _).nodup ih⟩
        obtain ⟨row, hrow, hsame⟩ := List.mem_map.mp hmem
        exact of_decide_eq_true (List.mem_filter.mp hrow).2 (congrArg foldCase hsame)
      · exact ih
    | delete expiryTime => exact (List.filter_sublist.map _).nodup ih

/-- A record that is saved is the row of its key. -/
theorem row_replace {dao : OrmCompass} {k : CompassKey} (hdao : dao.FiledUnder k)
    (htext : isText dao.value = true) (table : Table) :
    Table.row (Statement.execute table (.replace dao)) k
      = some { dao with lastAccessTime := wholeSeconds dao.lastAccessTime } := by
  rw [Statement.execute, if_pos htext, Table.row, List.find?_cons]
  simp [hdao.fromString]

/-- A row stays when the record of another key is saved. -/
theorem row_replace_other {dao : OrmCompass} {k k' : CompassKey} (hdao : dao.FiledUnder k)
    (hother : foldCase k.toString ≠ foldCase k'.toString) (table : Table) :
    Table.row (Statement.execute table (.replace dao)) k' = table.row k' := by
  rw [Statement.execute]
  split
  case isFalse => rfl
  case isTrue =>
    have hne : k ≠ k' := fun hsame => hother (congrArg (foldCase ·.toString) hsame)
    have hhead : ¬ CompassKey.fromString dao.compassKey = .ok k' := by
      rw [hdao.fromString]
      exact fun hsame => hne (Except.ok.inj hsame)
    rw [Table.row, List.find?_cons_of_neg (by simpa using hhead), List.find?_filter, Table.row]
    congr 1
    funext row
    by_cases hrow : CompassKey.fromString row.compassKey = .ok k'
    · -- a row of `k'` begins with its characters
      have htake : row.compassKey.take 40 = k'.toString :=
        (CompassKey.toString_of_fromString hrow).symm
      have hkept : foldCase row.compassKey ≠ foldCase dao.compassKey := by
        intro hsame
        have htwo := congrArg (List.take 40) hsame
        have hlength : k.toString.length = 40 := Vector.length_toList ..
        rw [foldCase, foldCase, ← List.map_take, ← List.map_take, htake, hdao.compassKey,
          List.take_of_length_le hlength.le] at htwo
        exact hother htwo.symm
      simp [hrow, hkept]
    · simp [hrow]

/-- A row that is late enough stays when others are deleted. -/
theorem row_delete {table : Table} {k : CompassKey} {expiryTime : ℕ}
    (hlate : ∀ row ∈ table.row k, expiryTime < row.lastAccessTime) :
    Table.row (Statement.execute table (.delete expiryTime)) k = table.row k := by
  rw [Statement.execute, Table.row, List.find?_filter]
  cases hrow : table.row k with
  | none =>
    refine List.find?_eq_none.mpr fun row hmem => ?_
    have hother := List.find?_eq_none.mp hrow row hmem
    simp [of_decide_eq_false (by simpa using hother)]
  | some row =>
    obtain ⟨hkey, pre, post, hsplit, hpre⟩ := List.find?_eq_some_iff_append.mp hrow
    refine List.find?_eq_some_iff_append.mpr ⟨?_, pre, post, hsplit, fun other hmem => ?_⟩
    · simpa using ⟨hlate row hrow, of_decide_eq_true hkey⟩
    · simp [of_decide_eq_false (by simpa using hpre other hmem)]

theorem keepsKeys_plainMysql : plainMysql.KeepsKeys where
  nodup d := nodup_tableOf d.done
  mem_keys d row hrow := by
    obtain ⟨dao, hdao, -, rfl⟩ := exists_replace_of_mem_tableOf hrow
    exact ⟨dao, List.mem_append_left _ hdao, rfl⟩
  keys_save dao d k _ := by
    rintro key ⟨dao', hmem, rfl⟩
    rw [plainMysql, all_concat, List.mem_append, List.mem_singleton] at hmem
    rcases hmem with hold | hnew
    · exact .inr ⟨dao', hold, rfl⟩
    · cases hnew
      exact .inl rfl
  keys_delete expiryTime d := by
    rintro key ⟨dao, hmem, rfl⟩
    rw [plainMysql, all_concat, List.mem_append, List.mem_singleton] at hmem
    exact ⟨dao, hmem.resolve_right (by simp), rfl⟩
  keys_goesOn d d' h := by
    obtain rfl : d' = d.next := h
    rintro key ⟨dao, hmem, rfl⟩
    exact ⟨dao, d.all_next ▸ hmem, rfl⟩
  keys_restart d := by
    rintro key ⟨dao, hmem, rfl⟩
    refine ⟨dao, List.mem_append_left _ ?_, rfl⟩
    simpa [plainMysql, Queue.all] using hmem

theorem keepsRecords_plainMysql : plainMysql.KeepsRecords where
  stored_save dao d k hdao htext := by
    simp only [plainMysql, all_concat, tableOf_concat]
    exact row_replace hdao htext _
  stored_save_other dao d k k' hdao hother := by
    simp only [plainMysql, all_concat, tableOf_concat]
    exact row_replace_other hdao hother _
  stored_delete expiryTime d k hlate := by
    simp only [plainMysql, all_concat, tableOf_concat]
    exact row_delete hlate
  stored_goesOn d d' k h := by
    obtain rfl : d' = d.next := h
    simp only [plainMysql, Queue.all_next]
  stored_restart d k := by simp only [plainMysql, Queue.all, List.append_nil]
  column_stored d k row hrow := by
    obtain ⟨dao, -, -, rfl⟩ := exists_replace_of_mem_tableOf (List.mem_of_find?_eq_some hrow)
    simp only [plainMysql, wholeSeconds]
    omega
  holds_stored d k row hrow := by
    obtain ⟨dao, -, htext, rfl⟩ := exists_replace_of_mem_tableOf (List.mem_of_find?_eq_some hrow)
    exact htext

/-! ## A value that is read after a restart -/

inductive LifeEvent
  | step (e : Event)
  | mysql
  | restart

/-- The deployment after an event. -/
def Deployment.next (sha256 : Bytes → Sha256) (s : Deployment Queue) :
    LifeEvent → LifeLabel × Deployment Queue
  | .step e =>
    let (l, t) := s.server.perform sha256 e
    (.step l, ⟨t, plainMysql.after t s.database (l.op sha256)⟩)
  | .mysql => (.mysql, { s with database := s.database.next })
  | .restart =>
    match CompassRepository.empty.load (plainMysql.rows s.database) with
    | .ok r => (.restart, ⟨⟨r, [], [], [], s.server.utcNow⟩, plainMysql.restart s.database⟩)
    | .error _ => (.mysql, s)

instance (s : Server) (k : CompassKey) : DecidablePred (KeepsRecord plainMysql s k)
  | .access k' written _ =>
    inferInstanceAs (Decidable (if k' = k then ∀ value ∈ written, isText value = true
      else ¬ foldCase k'.toString = foldCase k.toString))
  | .collect _ => inferInstanceAs (Decidable (∀ e ∈ s.store k, _ ∧ _))
  | .idle => inferInstanceAs (Decidable True)

/-- What may happen next, where the record of `k` is to be kept. -/
def Deployment.Admits (sha256 : Bytes → Sha256) (k : CompassKey) (s : Deployment Queue) :
    LifeEvent → Prop
  | .step e => s.server.Admits e ∧
      KeepsRecord plainMysql s.server k ((s.server.perform sha256 e).1.op sha256)
  | .mysql => True
  | .restart => (tableOf s.database.done).row k = (tableOf s.database.all).row k ∧
      (CompassRepository.empty.load (plainMysql.rows s.database)).toOption.isSome = true

instance (sha256 : Bytes → Sha256) (k : CompassKey) (s : Deployment Queue) :
    DecidablePred (s.Admits sha256 k)
  | .step _ | .restart => inferInstanceAs (Decidable (_ ∧ _))
  | .mysql => inferInstanceAs (Decidable True)

theorem Deployment.keepingStep_next {sha256 : Bytes → Sha256} {k : CompassKey}
    {s : Deployment Queue} {e : LifeEvent} (h : s.Admits sha256 k e) :
    KeepingStep sha256 plainMysql k s (s.next sha256 e).1 (s.next sha256 e).2 := by
  cases e with
  | step e => exact ⟨h.2, Server.step_perform h.1, rfl⟩
  | mysql => exact ⟨trivial, rfl, rfl⟩
  | restart =>
    obtain ⟨hcaught, hloads⟩ := h
    cases hload : CompassRepository.empty.load (plainMysql.rows s.database) with
    | error e =>
      rw [hload] at hloads
      cases hloads
    | ok r =>
      simp only [next, hload]
      exact ⟨hcaught, ⟨⟨_, .refl _, hload⟩, rfl, rfl, rfl⟩, rfl⟩

def emptyDeployment : Deployment Queue := ⟨emptyServer, ⟨[], []⟩⟩

theorem emptyDeployment_started : emptyDeployment.Started plainMysql where
  loaded := ⟨⟨[], .refl _, rfl⟩, rfl, rfl, rfl⟩
  filed := by
    rintro key ⟨dao, hmem, -⟩
    cases hmem

/-- Two writes, a restart after each, and a request that misses. -/
def restartTrial : List LifeEvent :=
  [.step (.connect ⟨0, 1⟩), .step (.exchange ⟨0, 1⟩ ⟨[], [1], 0⟩ 1500 []), .mysql, .restart,
    .step (.connect ⟨0, 1⟩), .step (.exchange ⟨0, 1⟩ ⟨[], [2], 0⟩ 2500 []),
    .step (.gcTimer 2600 1000), .mysql, .mysql, .restart, .step (.connect ⟨0, 1⟩),
    .step (.compareExchange ⟨0, 1⟩ ⟨[], [⟨[], [3]⟩], 0⟩ 3000 [])]

def restartTrialEnd : Deployment Queue :=
  Lts.final (Deployment.next emptySha256) emptyDeployment restartTrial

theorem restartTrial_run :
    Lts.Run (KeepingStep emptySha256 plainMysql (.fromHashOf emptySha256 [])) emptyDeployment
      (Lts.trace (Deployment.next emptySha256) emptyDeployment restartTrial) restartTrialEnd :=
  Lts.Run.of_admits _ (Deployment.Admits emptySha256 (.fromHashOf emptySha256 []))
    Deployment.keepingStep_next emptyDeployment restartTrial (by decide +kernel)

theorem loads_again_trial :
    ∃ r, CompassRepository.empty.load (plainMysql.rows restartTrialEnd.database) = .ok r :=
  (loads_again keepsKeys_plainMysql emptyDeployment_started restartTrial_run.of_guarded).1 _
    (.refl _)

theorem nothing_lost_trial :
    restartTrialEnd.server.register (.fromHashOf emptySha256 [])
      = (emptyServer.register (.fromHashOf emptySha256 [])).replay
          (written emptySha256 (.fromHashOf emptySha256 [])
            (Lts.trace (Deployment.next emptySha256) emptyDeployment restartTrial)) ∧
      restartTrialEnd.server.register (.fromHashOf emptySha256 []) = ⟨[2], 2⟩ :=
  ⟨(nothing_lost keepsKeys_plainMysql keepsRecords_plainMysql emptyDeployment_started rfl
    restartTrial_run).1, by decide +kernel⟩

-- a restart before the daemon has written loses the value
example :
    let s := Lts.final (Deployment.next emptySha256) emptyDeployment
      [.step (.connect ⟨0, 1⟩), .step (.exchange ⟨0, 1⟩ ⟨[], [1], 0⟩ 1500 [])]
    s.server.register (.fromHashOf emptySha256 []) = ⟨[1], 1⟩ ∧
      (s.next emptySha256 .restart).2.server.register (.fromHashOf emptySha256 []) = ⟨[], 0⟩ := by
  decide +kernel

-- and a tick within the second of the last access deletes the row of a compass that stays
example :
    let s := Lts.final (Deployment.next emptySha256) emptyDeployment
      [.step (.connect ⟨0, 1⟩), .step (.exchange ⟨0, 1⟩ ⟨[], [1], 0⟩ 1500 []), .mysql,
        .step (.gcTimer 1600 400), .mysql]
    s.server.register (.fromHashOf emptySha256 []) = ⟨[1], 1⟩ ∧
      plainMysql.rows s.database = [] := by
  decide +kernel

end Circe.Pilot
