import Circe.Pilot.CompassLock

/-!
# Pilot/CompassWatcherMap — who is told when a value changes

A watcher is a weak pointer to a connection under a random UUID.  Expired watchers are skipped when
the map is read and dropped when a watcher is added.
-/

namespace Circe.Pilot

/-- `m_watchers`, a `flat_map`. -/
abbrev CompassWatcherMap := FlatMap Uuid Connection

namespace CompassWatcherMap

def getWatchers (alive : Alive) (m : CompassWatcherMap) : List (Uuid × Connection) :=
  m.entries.filter fun e => alive e.2

/-- `add_watcher`, the random UUID being `watcherUuid`.  The assertion that the UUID is new is the
`none`; the expired watchers are gone either way. -/
def addWatcher (alive : Alive) (watcherUuid : Uuid) (connection : Connection)
    (m : CompassWatcherMap) : Option Uuid × CompassWatcherMap :=
  let m := m.eraseIf fun c => !alive c
  match m.emplace watcherUuid connection with
  | some m' => (some watcherUuid, m')
  | none => (none, m)

def removeWatcher (watcherUuid : Uuid) (m : CompassWatcherMap) : Bool × CompassWatcherMap :=
  ((m.find? watcherUuid).isSome, m.erase watcherUuid)

/-- A watcher that was added is in the map. -/
theorem mem_addWatcher {alive : Alive} {u u' : Uuid} {c : Connection} {m : CompassWatcherMap}
    (h : (m.addWatcher alive u c).1 = some u') :
    u' = u ∧ (u, c) ∈ (m.addWatcher alive u c).2.entries := by
  revert h
  simp only [addWatcher]
  split
  case h_1 m' hm =>
    intro h
    exact ⟨(Option.some.inj h).symm, (FlatMap.mem_entries_emplace hm).mpr (Or.inl rfl)⟩
  case h_2 => exact fun h => absurd h (by simp)

/-- **Adding a watcher loses no live one.** -/
theorem mem_addWatcher_of_mem {alive : Alive} {u : Uuid} {c : Connection} {m : CompassWatcherMap}
    {e : Uuid × Connection} (he : e ∈ m.entries) (halive : alive e.2) :
    e ∈ (m.addWatcher alive u c).2.entries := by
  have hlive : e ∈ (FlatMap.eraseIf m fun c => !alive c).entries := by simp [he, halive]
  simp only [addWatcher]
  split
  case h_1 m' hm => exact (FlatMap.mem_entries_emplace hm).mpr (Or.inr hlive)
  case h_2 => exact hlive

/-- Removing a watcher loses no other one. -/
theorem mem_removeWatcher_of_mem {u : Uuid} {m : CompassWatcherMap} {e : Uuid × Connection}
    (he : e ∈ m.entries) (hne : e.1 ≠ u) : e ∈ (m.removeWatcher u).2.entries :=
  FlatMap.mem_entries_erase.mpr ⟨he, hne⟩

end CompassWatcherMap

end Circe.Pilot
