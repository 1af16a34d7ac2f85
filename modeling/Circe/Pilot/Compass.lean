import Circe.Pilot.CompassKey
import Circe.Pilot.CompassWatcherMap
import Circe.Protocol.MessagesPilot

/-!
# Pilot/Compass — a value with a version, a lock and watchers

The record in the database (`OrmCompass`) is created by the first write; until then a compass has
the empty value, version `0` and last access time `0`.
-/

namespace Circe.Pilot

open Protocol.Pilot

/-- What a servlet can throw.  All of them are `std::exception`s to the caller. -/
inductive Exception
  | exception (what : String)
  | assertion (expr : String)
  | badNumericCast
deriving DecidableEq

/-- `ORM_Compass`, one row of `Pilot::Compass`. -/
structure OrmCompass where
  compassKey : Bytes
  lastAccessTime : ℕ
  value : Bytes
  version : UInt64
deriving DecidableEq

structure Compass where
  compassKey : CompassKey
  dao : Option OrmCompass
  lock : CompassLock
  watcherMap : CompassWatcherMap
deriving DecidableEq

/-- A `Value_change_notification` on its way out on a connection. -/
abbrev Sent := Connection × ValueChangeNotification

/-- What a call on a compass leaves behind: its result, the compass, and what it sent.  A throw does
not undo what was done before it. -/
structure Outcome (α : Type) where
  result : Except Exception α
  compass : Compass
  sent : List Sent

/-- Go on with `f` unless something was thrown. -/
def Outcome.andThen {α β : Type} (o : Outcome α) (f : α → Compass → Outcome β) : Outcome β :=
  match o.result with
  | .error e => ⟨.error e, o.compass, o.sent⟩
  | .ok a => { f a o.compass with sent := o.sent ++ (f a o.compass).sent }

@[simp] theorem Outcome.andThen_ok {α β : Type} (a : α) (p : Compass) (sent : List Sent)
    (f : α → Compass → Outcome β) :
    (⟨.ok a, p, sent⟩ : Outcome α).andThen f
      = { f a p with sent := sent ++ (f a p).sent } := rfl

namespace Compass

/-- The constructor "to create". -/
def create (compassKey : CompassKey) : Compass := ⟨compassKey, none, .empty, .empty⟩

/-- The constructor "to open". -/
def ofDao (compassKey : CompassKey) (dao : OrmCompass) : Compass :=
  ⟨compassKey, some dao, .empty, .empty⟩

def getLastAccessTime (p : Compass) : ℕ :=
  match p.dao with
  | none => 0
  | some dao => dao.lastAccessTime

/-- `update_last_access_time`, as far as the compass itself goes. -/
def touch (utcNow : ℕ) (p : Compass) : Compass :=
  { p with dao := p.dao.map fun dao => { dao with lastAccessTime := utcNow } }

def getValue (p : Compass) : Bytes :=
  match p.dao with
  | none => []
  | some dao => dao.value

def getVersion (p : Compass) : UInt64 :=
  match p.dao with
  | none => 0
  | some dao => dao.version

/-- The record a write leaves. -/
def daoWritten (p : Compass) (valueNew : Bytes) : OrmCompass :=
  let dao := p.dao.getD ⟨p.compassKey.chars.toList, 0, [], 0⟩
  { dao with value := valueNew, version := dao.version + 1 }

/-- The notifications of a write: one for every watcher still alive whose connection takes it.
`send_notification` throws on a connection that has been shut down. -/
def notifications (alive shut : Alive) (p : Compass) (valueNew : Bytes) : List Sent :=
  ((p.watcherMap.getWatchers alive).filter fun e => !shut e.2).map fun e => (e.2, ⟨e.1, valueNew⟩)

/-- `set_value`; the lock is looked at while `alive` is alive and the watchers while `alive'` is. -/
def setValue (alive alive' shut : Alive) (valueNew : Bytes) (p : Compass) : Outcome Unit :=
  let (exclusive, lock) := p.lock.isLockedExclusive alive
  let p := { p with lock := lock }
  if exclusive then
    ⟨.ok (), { p with dao := some (p.daoWritten valueNew) }, p.notifications alive' shut valueNew⟩
  else
    ⟨.error (.exception "Exclusive access is required to alter the value of a compass"), p, []⟩

/-! ## What a write does -/

@[simp] theorem value_daoWritten (p : Compass) (v : Bytes) : (p.daoWritten v).value = v := rfl

@[simp] theorem version_daoWritten (p : Compass) (v : Bytes) :
    (p.daoWritten v).version = p.getVersion + 1 := by
  cases h : p.dao <;> simp [daoWritten, getVersion, h]

@[simp] theorem getValue_touch (t : ℕ) (p : Compass) : (p.touch t).getValue = p.getValue := by
  cases h : p.dao <;> simp [touch, getValue, h]

@[simp] theorem getVersion_touch (t : ℕ) (p : Compass) : (p.touch t).getVersion = p.getVersion := by
  cases h : p.dao <;> simp [touch, getVersion, h]

/-- **A live watcher on an open connection gets exactly one notification of a write**, under its own
UUID and with the new value. -/
theorem filter_notifications {alive shut : Alive} {p : Compass} {v : Bytes} {u : Uuid}
    {c : Connection} (hmem : (u, c) ∈ p.watcherMap.entries) (halive : alive c)
    (hopen : shut c = false) :
    ((p.notifications alive shut v).filter fun s => s.1 = c ∧ s.2.watcherUuid = u)
      = [(c, ⟨u, v⟩)] := by
  have hkey := FlatMap.filter_key hmem
  have hpred : (fun e : Uuid × Connection => decide (e.2 = c ∧ e.1 = u) && (!shut e.2 && alive e.2))
      = fun e => decide (e.2 = c) && decide (e.1 = u) := by
    funext e
    by_cases hc : e.2 = c
    · subst hc
      simp [halive, hopen]
    · simp [hc]
  simp only [notifications, CompassWatcherMap.getWatchers, List.filter_map, List.filter_filter,
    Function.comp_def]
  rw [hpred, ← List.filter_filter, hkey]
  simp

end Compass

end Circe.Pilot
