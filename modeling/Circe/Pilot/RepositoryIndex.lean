import Circe.Foundations.Run
import Circe.Pilot.KeyText
import Circe.Pilot.Server

/-!
# Pilot/RepositoryIndex — the index tells the truth

`Memory` is the repository with the compasses that left it while someone still held a pointer: they
go on changing, and the container does not know them.  A `MemoryCall` is one call, on the repository
or through a pointer; the requests of `Server` are sequences of them (`Memory.run_of_run`).  Every
call keeps `CompassRepository.Inv` (`Memory.Step.inv`), so the index is true after any of them
(`Memory.index_truthful`).
-/

namespace Circe.Pilot

/-! ## Calls on a compass -/

/-- What a request does through its pointer: `set_value`, or the calls that reach the lock and the
watchers only. -/
inductive CompassCall
  | setValue (alive alive' shut : Alive) (valueNew : Bytes)
  | lock (lock : CompassLock)
  | watch (watcherMap : CompassWatcherMap)

namespace Compass

/-- The compass after a call. -/
def call (p : Compass) : CompassCall → Compass
  | .setValue alive alive' shut valueNew => (p.setValue alive alive' shut valueNew).compass
  | .lock lock => { p with lock := lock }
  | .watch watcherMap => { p with watcherMap := watcherMap }

/-- **A new record starts with the last access time the compass had without one.** -/
theorem getLastAccessTime_daoWritten (p : Compass) (v : Bytes) :
    (p.daoWritten v).lastAccessTime = p.getLastAccessTime := by
  cases hdao : p.dao <;> simp [daoWritten, getLastAccessTime, hdao]

/-- **No call moves what the index copies.** -/
theorem index_call (p : Compass) (c : CompassCall) :
    (p.call c).compassKey = p.compassKey ∧
      (p.call c).getLastAccessTime = p.getLastAccessTime := by
  cases c with
  | setValue alive alive' shut valueNew =>
    simp only [call, setValue]
    split
    · exact ⟨rfl, getLastAccessTime_daoWritten _ _⟩
    · exact ⟨rfl, rfl⟩
  | lock => exact ⟨rfl, rfl⟩
  | watch => exact ⟨rfl, rfl⟩

end Compass

namespace CompassRepository

variable {r r' : CompassRepository} {p : CompassPtr}

/-! ## Start-up -/

/-- The loop that loads the rows of the database. -/
def load (r : CompassRepository) : List OrmCompass → Except Exception CompassRepository
  | [] => .ok r
  | dao :: rows =>
    match Compass.load dao with
    | .error e => .error e
    | .ok compass =>
      match r.getCompass compass.compassKey with
      | some _ =>
        .error (.assertion
          ("compass_container->insert(create_compass_element("
            ++ "boost::make_shared<Compass>(dao))).second"))
      | none =>
        load ⟨r.container ++ [createCompassElement ⟨r.nextPtr, compass⟩], r.nextPtr + 1⟩ rows

/-- The container at start-up. -/
def empty : CompassRepository := ⟨[], 0⟩

theorem inv_empty : empty.Inv := ⟨.nil, .nil, nofun, nofun⟩

theorem Inv.load {rows : List OrmCompass} (h : r.Inv) (hload : r.load rows = .ok r') : r'.Inv := by
  induction rows generalizing r with
  | nil =>
    cases hload
    exact h
  | cons dao rows ih =>
    rw [CompassRepository.load] at hload
    split at hload
    case h_1 => cases hload
    case h_2 compass _ =>
      split at hload
      case h_1 => cases hload
      case h_2 hnew => exact ih (h.insert hnew) hload

/-! ## Calls one by one -/

/-- The index follows the last access time of a compass, which an orphan has no element for. -/
theorem Inv.updateLastAccessTime (h : r.Inv)
    (hp : ∀ e ∈ r.container, e.ptr = p.get → e.compass = p) (utcNow : ℕ) :
    (r.updateLastAccessTime utcNow p).Inv := by
  rw [CompassRepository.updateLastAccessTime]
  split
  case h_1 => exact h
  case h_2 =>
    rw [h.updateCompassIndices_store (q := ⟨p.get, p.object.touch utcNow⟩)]
    refine h.map fun e he => ?_
    split
    case isTrue hptr =>
      rw [h.truthful e he, hp e he hptr]
      exact ⟨rfl, rfl, rfl⟩
    case isFalse => exact ⟨rfl, rfl, h.truthful e he⟩

/-- **A compass in the container is found under its key**, and no other is made for it. -/
theorem Inv.openCompass_of_mem (h : r.Inv) {e : CompassElement} (he : e ∈ r.container) :
    r.openCompass e.compass.object.compassKey = (e.compass, r) := by
  have hget : r.getCompass e.compass.object.compassKey = some e.compass :=
    h.getCompass_eq_some_iff.mpr ⟨h.mem_create he, rfl⟩
  rw [CompassRepository.openCompass, hget]

end CompassRepository

/-! ## Memory -/

/-- The repository, and the compasses out of it that someone still points to. -/
structure Memory where
  repository : CompassRepository
  orphans : List CompassPtr

inductive MemoryCall
  | openCompass (compassKey : CompassKey)
  | call (ptr : ℕ) (c : CompassCall)
  | updateLastAccessTime (ptr utcNow : ℕ)
  | removeCompass (ptr : ℕ)
  | gcTimer (utcNow expiryDuration : ℕ)

namespace Memory

/-- The compass at an address. -/
def find (m : Memory) (ptr : ℕ) : Option CompassPtr :=
  (m.repository.container.map CompassElement.compass ++ m.orphans).find? fun p => p.get = ptr

/-- Another compass in place of an orphan. -/
def storeOrphan (compass : CompassPtr) (orphans : List CompassPtr) : List CompassPtr :=
  orphans.map fun p => if p.get = compass.get then compass else p

/-- The compasses an erasure takes out of the container may still be pointed to. -/
def erase (m : Memory) (r : CompassRepository) : Memory :=
  ⟨r, (m.repository.container.filter fun e => e ∉ r.container).map CompassElement.compass
    ++ m.orphans⟩

/-- **What a call does.**  At an address without a compass nothing is called. -/
def perform (m : Memory) : MemoryCall → Memory
  | .openCompass compassKey => { m with repository := (m.repository.openCompass compassKey).2 }
  | .call ptr c =>
    match m.find ptr with
    | none => m
    | some p =>
      let q : CompassPtr := ⟨ptr, p.object.call c⟩
      ⟨m.repository.store q, storeOrphan q m.orphans⟩
  | .updateLastAccessTime ptr utcNow =>
    match m.find ptr with
    | none => m
    | some p =>
      ⟨m.repository.updateLastAccessTime utcNow p,
        storeOrphan ⟨ptr, p.object.touch utcNow⟩ m.orphans⟩
  | .removeCompass ptr => m.erase (m.repository.removeCompass ptr)
  | .gcTimer utcNow expiryDuration => m.erase (m.repository.gcTimerProc utcNow expiryDuration)

/-- One call. -/
def Step (m : Memory) (c : MemoryCall) (m' : Memory) : Prop := m.perform c = m'

variable {m m' : Memory} {c : MemoryCall}

theorem find_spec (h : m.repository.Inv) {ptr : ℕ} {p : CompassPtr} (hfind : m.find ptr = some p) :
    p.get = ptr ∧ ∀ e ∈ m.repository.container, e.ptr = ptr → e.compass = p := by
  refine ⟨by simpa using List.find?_some hfind, fun e he hptr => ?_⟩
  have hget : ∀ e ∈ m.repository.container, e.compass.get = e.ptr := fun e he => by
    rw [h.truthful e he]
    rfl
  -- The container comes first, and has one element of this address.
  rw [find, List.find?_append] at hfind
  cases hfirst : (m.repository.container.map CompassElement.compass).find? fun p => p.get = ptr with
  | none =>
    have hnone := List.find?_eq_none.mp hfirst e.compass (List.mem_map_of_mem he)
    simp [hget e he, hptr] at hnone
  | some q =>
    obtain rfl : q = p := by simpa [hfirst] using hfind
    obtain ⟨e', he', rfl⟩ := List.mem_map.mp (List.mem_of_find?_eq_some hfirst)
    have hptr' : e'.compass.get = ptr := by simpa using List.find?_some hfirst
    have hsame : e.ptr = e'.ptr := by rw [hptr, ← hptr', hget e' he']
    rw [List.inj_on_of_nodup_map h.ptrs he he' hsame]

/-- Calls one after the other are a run. -/
theorem run_foldl (m : Memory) (cs : List MemoryCall) : Lts.Run Step m cs (cs.foldl perform m) := by
  induction cs generalizing m with
  | nil => exact .nil m
  | cons c cs ih => exact .cons rfl (ih (m.perform c))

/-- **Every call keeps the index true.** -/
theorem Step.inv (h : m.repository.Inv) (hstep : m.Step c m') : m'.repository.Inv := by
  rw [← (show m.perform c = m' from hstep)]
  cases c with
  | openCompass compassKey => exact h.openCompass compassKey
  | call ptr c =>
    rw [perform]
    split
    case h_1 => exact h
    case h_2 p hfind =>
      obtain ⟨-, hone⟩ := find_spec h hfind
      refine h.store fun e he hptr => ?_
      obtain ⟨hkey, htime⟩ := p.object.index_call c
      rw [h.truthful e he, hone e he hptr]
      exact ⟨hkey, htime⟩
  | updateLastAccessTime ptr utcNow =>
    rw [perform]
    split
    case h_1 => exact h
    case h_2 p hfind =>
      obtain ⟨rfl, hone⟩ := find_spec h hfind
      exact h.updateLastAccessTime hone utcNow
  | removeCompass ptr => exact h.filter _
  | gcTimer utcNow expiryDuration => exact h.gcTimerProc utcNow expiryDuration

/-- **The repository index tells the truth**, after any calls in any order: an element of the
container says what its compass says, addresses and keys are unique, a compass in the container is
the one its key is opened to, and a tick takes out exactly the compasses not accessed since the
expiry time. -/
theorem index_truthful {rows : List OrmCompass} {r : CompassRepository} {cs : List MemoryCall}
    (hload : CompassRepository.empty.load rows = .ok r) (hrun : Lts.Run Step ⟨r, []⟩ cs m) :
    ((m.repository.container.map CompassElement.ptr).Nodup ∧
      (m.repository.container.map CompassElement.compassKey).Nodup ∧
      ∀ e ∈ m.repository.container, e.ptr = e.compass.get ∧
        e.compassKey = e.compass.object.compassKey ∧
        e.lastAccessTime = e.compass.object.getLastAccessTime) ∧
    (∀ e ∈ m.repository.container,
      m.repository.openCompass e.compass.object.compassKey = (e.compass, m.repository)) ∧
    ∀ utcNow expiryDuration,
      let r' := (m.perform (.gcTimer utcNow expiryDuration)).repository
      (∀ e, e ∈ r'.container ↔ e ∈ m.repository.container ∧
        CompassRepository.expiryTime utcNow expiryDuration
          < e.compass.object.getLastAccessTime) ∧
      ∀ e ∈ r'.container, r'.openCompass e.compass.object.compassKey = (e.compass, r') := by
  have h : m.repository.Inv :=
    hrun.invariant (I := fun m => m.repository.Inv) (fun h hstep => Step.inv h hstep)
      (CompassRepository.inv_empty.load hload)
  have hcopies : ∀ e ∈ m.repository.container, e.ptr = e.compass.get ∧
      e.compassKey = e.compass.object.compassKey ∧
      e.lastAccessTime = e.compass.object.getLastAccessTime := by
    intro e he
    have htrue := h.truthful e he
    exact ⟨congrArg CompassElement.ptr htrue, congrArg CompassElement.compassKey htrue,
      congrArg CompassElement.lastAccessTime htrue⟩
  refine ⟨⟨h.ptrs, h.keys, hcopies⟩, fun e he => h.openCompass_of_mem he, ?_⟩
  intro utcNow expiryDuration
  refine ⟨fun e => ?_, fun e he => (h.gcTimerProc utcNow expiryDuration).openCompass_of_mem he⟩
  change e ∈ m.repository.container.filter _ ↔ _
  rw [List.mem_filter, decide_eq_true_iff, Nat.not_le]
  refine and_congr_right fun he => ?_
  rw [(hcopies e he).2.2]

/-- A compass that was made, locked, written and touched is in the index as of then. -/
theorem index_truthful_written :
    let m := [.openCompass ⟨.replicate 40 48⟩,
      .call 0 (.lock (CompassLock.empty.tryLockExclusive (fun _ => true) ⟨0, 1⟩).2),
      .call 0 (.setValue (fun _ => true) (fun _ => true) (fun _ => false) [42]),
      .updateLastAccessTime 0 5].foldl perform ⟨.empty, []⟩
    m.repository.container.map CompassElement.lastAccessTime = [5] ∧
      ∀ e ∈ m.repository.container,
        e.lastAccessTime = e.compass.object.getLastAccessTime := by
  intro m
  have hload : CompassRepository.empty.load [] = .ok .empty := rfl
  exact ⟨by decide, fun e he => ((index_truthful hload (run_foldl _ _)).1.2.2 e he).2.2⟩

/-! ## The requests of a server -/

theorem find_of_mem (h : m.repository.Inv) {e : CompassElement} (he : e ∈ m.repository.container) :
    m.find e.ptr = some e.compass := by
  have hget : e.compass.get = e.ptr := by rw [h.truthful e he]; rfl
  have hsome : (m.find e.ptr).isSome := by
    rw [find, List.find?_isSome]
    exact ⟨e.compass, List.mem_append_left _ (List.mem_map_of_mem he), by simpa using hget⟩
  obtain ⟨p, hp⟩ := Option.isSome_iff_exists.mp hsome
  rw [hp, (find_spec h hp).2 e he rfl]

/-- **Calls through the pointer of a compass in the container** leave what they made of it there. -/
theorem run_calls (h : m.repository.Inv) {e : CompassElement} (he : e ∈ m.repository.container)
    (cs : List CompassCall) :
    ∃ orphans, Lts.Run Step m (cs.map (.call e.ptr))
      ⟨m.repository.store ⟨e.ptr, cs.foldl Compass.call e.compass.object⟩, orphans⟩ := by
  have hget : ∀ e ∈ m.repository.container, e.compass.get = e.ptr := fun e he => by
    rw [h.truthful e he]
    rfl
  induction cs using List.reverseRecOn with
  | nil =>
    have hself : m.repository.store ⟨e.ptr, e.compass.object⟩ = m.repository := by
      have hp : (⟨e.ptr, e.compass.object⟩ : CompassPtr) = e.compass := by rw [← hget e he]
      have hmap : ∀ e' ∈ m.repository.container,
          (if e'.compass.get = e.ptr then { e' with compass := ⟨e.ptr, e.compass.object⟩ } else e')
            = e' := by
        intro e' he'
        split
        case isTrue hptr =>
          rw [List.inj_on_of_nodup_map h.ptrs he' he ((hget e' he').symm.trans hptr), hp]
        case isFalse => rfl
      rw [CompassRepository.store, List.map_congr_left hmap, List.map_id']
    refine ⟨m.orphans, ?_⟩
    rw [List.foldl_nil, hself]
    exact .nil m
  | append_singleton cs c ih =>
    obtain ⟨orphans, hrun⟩ := ih
    set q := cs.foldl Compass.call e.compass.object
    have h₁ := hrun.invariant (I := fun m => m.repository.Inv) (fun h hstep => Step.inv h hstep) h
    have hmem : { e with compass := ⟨e.ptr, q⟩ } ∈ (m.repository.store ⟨e.ptr, q⟩).container :=
      List.mem_map.mpr ⟨e, he, if_pos (hget e he)⟩
    have hfind := find_of_mem h₁ hmem
    have hstore : (m.repository.store ⟨e.ptr, q⟩).store ⟨e.ptr, q.call c⟩
        = m.repository.store ⟨e.ptr, q.call c⟩ := by
      simp only [CompassRepository.store, List.map_map]
      congr 1
      refine List.map_congr_left fun e' _ => ?_
      by_cases hptr : e'.compass.get = e.ptr <;> simp [hptr]
    refine ⟨storeOrphan ⟨e.ptr, q.call c⟩ orphans, ?_⟩
    rw [List.map_append, List.foldl_append]
    refine hrun.snoc ?_
    change Memory.perform _ _ = _
    rw [perform, hfind]
    exact congrArg (fun r => Memory.mk r _) hstore

end Memory

/-- `q` is what some calls make of `p`. -/
def Compass.Called (p q : Compass) : Prop := ∃ cs : List CompassCall, cs.foldl Compass.call p = q

namespace Compass.Called

variable {p q r : Compass}

theorem refl (p : Compass) : p.Called p := ⟨[], rfl⟩

theorem single (p : Compass) (c : CompassCall) : p.Called (p.call c) := ⟨[c], rfl⟩

theorem trans (h : p.Called q) (h' : q.Called r) : p.Called r := by
  obtain ⟨cs, rfl⟩ := h
  obtain ⟨cs', rfl⟩ := h'
  exact ⟨cs ++ cs', List.foldl_append⟩

theorem lock (p : Compass) (lock : CompassLock) : p.Called { p with lock := lock } :=
  single p (.lock lock)

theorem bind {α β : Type} {o : Outcome α} {f : α → Compass → Outcome β}
    (h : p.Called o.compass) (hf : ∀ (a : α) (q : Compass), q.Called (f a q).compass) :
    p.Called (o.andThen f).compass := by
  rw [Outcome.andThen]
  split
  · exact h
  · exact h.trans (hf _ _)

end Compass.Called

section Servlets

open Compass.Called

theorem called_updateLocked (alive : Liveness) (shut : Alive) (c : Connection) (locked : Bool)
    (valueNew : Option Bytes) (shared exclusive : ℤ) (p : Compass) :
    p.Called (updateLocked alive shut c locked valueNew shared exclusive p).compass := by
  unfold updateLocked
  split
  case isTrue =>
    refine bind ?_ fun _ q => lock q _
    split
    case h_1 v => exact single p (.setValue (alive 0) (alive 1) shut v)
    case h_2 => exact refl p
  case isFalse => exact refl p

theorem called_compareExchangeServlet (alive : Liveness) (shut : Alive) (c : Connection)
    (req : Protocol.Pilot.CompareExchangeRequest) (p : Compass) :
    p.Called (compareExchangeServlet alive shut c req p).compass := by
  unfold compareExchangeServlet
  split
  rename_i parsed l _
  cases parsed with
  | error e => exact lock p l
  | ok counts =>
    exact (lock p _).trans (bind (called_updateLocked ..) fun _ q => lock q _)

theorem called_exchangeServlet (alive : Liveness) (shut : Alive) (c : Connection)
    (req : Protocol.Pilot.ExchangeRequest) (p : Compass) :
    p.Called (exchangeServlet alive shut c req p).compass := by
  unfold exchangeServlet
  split
  rename_i parsed l _
  cases parsed with
  | error e => exact lock p l
  | ok counts =>
    exact (lock p _).trans (bind (called_updateLocked ..) fun _ q => lock q _)

theorem called_addWatchServlet (alive : Alive) (c : Connection) (w : Uuid) (p : Compass) :
    p.Called (Server.addWatchServlet alive c w p).compass := by
  unfold Server.addWatchServlet
  split
  split
  all_goals exact single p (.watch _)

theorem called_removeWatchServlet (w : Uuid) (p : Compass) :
    p.Called (Server.removeWatchServlet w p).compass :=
  single p (.watch (p.watcherMap.removeWatcher w).2)

end Servlets

namespace Memory

/-- **A servlet is a sequence of calls**: `open_compass`, what it does through the pointer, and
`update_last_access_time`. -/
theorem run_runServlet {α : Type} {r : CompassRepository} (h : r.Inv) (k : CompassKey)
    (touchAt : Option ℕ) {f : Compass → Outcome α} (hf : ∀ p : Compass, p.Called (f p).compass)
    (orphans : List CompassPtr) :
    ∃ cs orphans', Lts.Run Step ⟨r, orphans⟩ cs
      ⟨(Server.runServlet k touchAt f r).2.2, orphans'⟩ := by
  have hopen : Lts.Run Step ⟨r, orphans⟩ [.openCompass k] ⟨(r.openCompass k).2, orphans⟩ :=
    .single rfl
  have hinv := h.openCompass k
  obtain ⟨hget, -, -⟩ := h.openCompass_spec k
  obtain ⟨hmem, -⟩ := hinv.getCompass_eq_some_iff.mp hget
  unfold Server.runServlet
  generalize r.openCompass k = opened at *
  obtain ⟨p, r⟩ := opened
  obtain ⟨cs, hcs⟩ := hf p.object
  dsimp only at *
  generalize f p.object = o at *
  obtain ⟨orphans', hcalls⟩ := run_calls (m := ⟨r, orphans⟩) hinv hmem cs
  have hrun := hopen.append hcalls
  change Lts.Run Step _ _ ⟨r.store ⟨p.get, cs.foldl Compass.call p.object⟩, orphans'⟩ at hrun
  rw [hcs] at hrun
  split
  case h_1 a utcNow _ =>
    have hinv' := hrun.invariant (I := fun m => m.repository.Inv)
      (fun h hstep => Step.inv h hstep) h
    have hstored : { createCompassElement p with compass := ⟨p.get, o.compass⟩ }
        ∈ (r.store ⟨p.get, o.compass⟩).container := List.mem_map.mpr ⟨_, hmem, if_pos rfl⟩
    have hfind : Memory.find ⟨r.store ⟨p.get, o.compass⟩, orphans'⟩ p.get
        = some ⟨p.get, o.compass⟩ := find_of_mem hinv' hstored
    refine ⟨_, storeOrphan ⟨p.get, o.compass.touch utcNow⟩ orphans',
      hrun.snoc (l := .updateLastAccessTime p.get utcNow) ?_⟩
    change Memory.perform _ _ = _
    rw [perform, hfind]
  case h_2 => exact ⟨_, orphans', hrun⟩

/-- **Every step of a server is a sequence of calls** on its repository. -/
theorem run_of_step {sha256 : Bytes → Sha256} {s t : Server} {l : Label} (h : s.repository.Inv)
    (hstep : Pilot.Step sha256 s l t) (orphans : List CompassPtr) :
    ∃ cs orphans', Lts.Run Step ⟨s.repository, orphans⟩ cs ⟨t.repository, orphans'⟩ := by
  have ht : (s.perform sha256 l.event).2 = t := congrArg Prod.snd hstep.2.2
  rw [← ht]
  cases l.event with
  | connect c => exact ⟨[], orphans, .nil _⟩
  | shutdown c => exact ⟨[], orphans, .nil _⟩
  | die c => exact ⟨[], orphans, .nil _⟩
  | compareExchange c req utcNow deaths =>
    exact run_runServlet h _ _ (fun p => called_compareExchangeServlet _ _ _ _ p) orphans
  | exchange c req utcNow deaths =>
    exact run_runServlet h _ _ (fun p => called_exchangeServlet _ _ _ _ p) orphans
  | addWatch c req w =>
    exact run_runServlet h _ _ (fun p => called_addWatchServlet _ _ _ p) orphans
  | removeWatch c ntfy =>
    exact run_runServlet h (.fromHashOf sha256 ntfy.key) none
      (called_removeWatchServlet ntfy.watcherUuid) orphans
  | gcTimer utcNow expiryDuration =>
    exact ⟨[.gcTimer utcNow expiryDuration], _, .single rfl⟩

/-- **A run of a server is a run of calls**, so its index tells the truth as well. -/
theorem run_of_run {sha256 : Bytes → Sha256} {s t : Server} {ls : List Label}
    (h : s.repository.Inv) (hrun : Lts.Run (Pilot.Step sha256) s ls t) :
    ∃ cs orphans, Lts.Run Step ⟨s.repository, []⟩ cs ⟨t.repository, orphans⟩ := by
  induction hrun with
  | nil => exact ⟨[], [], .nil _⟩
  | snoc _ hstep ih =>
    obtain ⟨cs, orphans, hcalls⟩ := ih
    have hinv := hcalls.invariant (I := fun m => m.repository.Inv)
      (fun h hstep => Step.inv h hstep) h
    obtain ⟨cs', orphans', hcalls'⟩ := run_of_step hinv hstep orphans
    exact ⟨cs ++ cs', orphans', hcalls.append hcalls'⟩

end Memory

end Circe.Pilot
