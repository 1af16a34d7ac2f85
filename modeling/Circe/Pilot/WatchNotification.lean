import Circe.Pilot.ServerSteps

/-!
# Pilot/WatchNotification — every change of a watched value is told once

A watch is an entry in the watcher map of a compass object, and lasts as long as the object.  Adding
a watch does not touch the access time, so a tick can drop the object under its watchers; while
every tick spares the watched compasses, each change is told to each watcher exactly once.
-/

namespace Circe.Pilot

open Protocol.Pilot

/-! ## What a label says about watches -/

/-- `c` is told that it watches `k` under the UUID `w`. -/
def Label.Watches (sha256 : Bytes → Sha256) (l : Label) (c : Connection) (k : CompassKey)
    (w : Uuid) : Prop :=
  match l.event, l.reply with
  | .addWatch c' req _, .addWatch (.ok resp) =>
    c' = c ∧ .fromHashOf sha256 req.key = k ∧ resp.watcherUuid = w
  | _, _ => False

/-- Somebody removes the watch `w` of `k`. -/
def Label.Unwatches (sha256 : Bytes → Sha256) (l : Label) (k : CompassKey) (w : Uuid) : Prop :=
  match l.event with
  | .removeWatch _ ntfy => .fromHashOf sha256 ntfy.key = k ∧ ntfy.watcherUuid = w
  | _ => False

/-- What was sent on `c` under the watcher UUID `w`. -/
def Label.sentTo (l : Label) (c : Connection) (w : Uuid) : List Sent :=
  l.sent.filter fun s => s.1 = c ∧ s.2.watcherUuid = w

instance (sha256 : Bytes → Sha256) (l : Label) (c : Connection) (k : CompassKey) (w : Uuid) :
    Decidable (l.Watches sha256 c k w) := by
  unfold Label.Watches
  split <;> infer_instance

instance (sha256 : Bytes → Sha256) (l : Label) (k : CompassKey) (w : Uuid) :
    Decidable (l.Unwatches sha256 k w) := by
  unfold Label.Unwatches
  split <;> infer_instance

/-! ## The condition -/

/-- A tick collects no compass watched by a connection that is alive and not shut down. -/
def SparesWatchers (s : Server) : Event → Prop
  | .gcTimer utcNow expiryDuration =>
    ∀ e ∈ s.repository.container,
      e.lastAccessTime ≤ CompassRepository.expiryTime utcNow expiryDuration →
        ∀ watcher ∈ e.compass.object.watcherMap.entries,
          watcher.2 ∈ s.live → watcher.2 ∈ s.down
  | _ => True

instance (s : Server) : DecidablePred (SparesWatchers s)
  | .gcTimer .. => inferInstanceAs (Decidable (∀ e ∈ s.repository.container, _ →
      ∀ watcher ∈ e.compass.object.watcherMap.entries, _ → _))
  | .connect _ | .shutdown _ | .die _ | .compareExchange .. | .exchange .. | .addWatch ..
  | .removeWatch .. => inferInstanceAs (Decidable True)

section Watching

variable {sha256 : Bytes → Sha256} {s t : Server} {l : Label} {c : Connection} {k : CompassKey}
  {w : Uuid}

/-! ## One step -/

/-- **A watch stays** while its connection is alive and open and nobody removes it. -/
theorem Step.watched (hinv : s.Inv) (h : Step sha256 s l t) (hspares : SparesWatchers s l.event)
    (hc : c ∈ t.live) (hopen : c ∉ t.down) (hkept : ¬ l.Unwatches sha256 k w)
    (hseen : c ∈ s.seen) (hmem : (w, c) ∈ (s.compass k).watcherMap.entries) :
    (w, c) ∈ (t.compass k).watcherMap.entries := by
  have hlive := h.live_of_seen hseen hc
  cases h.compass hinv k with
  | access a q ha hk hc' hr hh ht =>
    rw [ht.watcherMap, hh.watcherMap]
    exact hmem
  | addWatch d req w' he hk hr hs ht =>
    rw [ht.watcherMap, Server.addWatchServlet_compass]
    exact CompassWatcherMap.mem_addWatcher_of_mem hmem (Server.alive_iff.mpr hlive)
  | removeWatch d ntfy he hk hs ht =>
    rw [ht.watcherMap]
    refine CompassWatcherMap.mem_removeWatcher_of_mem hmem fun heq => hkept ?_
    simp only [Label.Unwatches, he]
    exact ⟨hk, heq.symm⟩
  | collected utcNow expiryDuration he e hmem' hobject htime ht =>
    -- The condition: the watchers of a compass that goes are dead or shut down.
    rw [he] at hspares
    exact absurd (h.down_mono (hspares e hmem' htime (w, c) (hobject ▸ hmem) hlive)) hopen
  | kept hk ht => exact ht ▸ hmem

/-- **An answered watch is in the map.** -/
theorem Step.watching (hinv : s.Inv) (h : Step sha256 s l t) (hw : l.Watches sha256 c k w) :
    c ∈ s.live ∧ (w, c) ∈ (t.compass k).watcherMap.entries := by
  have henabled := h.2.1
  unfold Label.Watches at hw
  split at hw
  case h_2 => exact hw.elim
  case h_1 c' req w' resp he hreply =>
    obtain ⟨rfl, rfl, rfl⟩ := hw
    rw [he] at henabled
    refine ⟨henabled, ?_⟩
    cases h.compass hinv (.fromHashOf sha256 req.key) with
    | access a q ha => simp [Label.access, he] at ha
    | removeWatch d ntfy he' => simp [he] at he'
    | collected _ _ he' => simp [he] at he'
    | kept hk => simp [he, Event.compassKey] at hk
    | addWatch d req' w'' he' hk hr hs ht =>
      obtain ⟨rfl, rfl, rfl⟩ : c' = d ∧ req = req' ∧ w' = w'' := by simpa [he] using he'
      rw [ht.watcherMap, Server.addWatchServlet_compass]
      rw [hreply, Reply.addWatch.injEq] at hr
      obtain ⟨heq, hmem⟩ :=
        CompassWatcherMap.mem_addWatcher (Server.addWatchServlet_ok hr.symm)
      exact heq ▸ hmem

/-- **A step on `k` tells a watcher of `k` what it wrote, once**, and nothing else. -/
theorem Step.told (hinv : s.Inv) (h : Step sha256 s l t) (hc : c ∈ t.live) (hopen : c ∉ t.down)
    (hmem : (w, c) ∈ (s.compass k).watcherMap.entries)
    (hk : l.event.compassKey sha256 = some k) :
    l.sentTo c w = ((l.written sha256 k).map fun v => (c, ⟨w, v⟩)).toList := by
  cases h.compass hinv k with
  | access a q ha hkey hc' hr hh ht =>
    obtain ⟨seen, hfin, hsent⟩ := hh.sent
    have hshut : s.shut c = false := by
      simp only [Server.shut, decide_eq_false_iff_not]
      exact fun hdown => hopen (h.down_mono hdown)
    rw [Label.sentTo, hsent, Label.written, ha, Option.bind_some, if_pos hkey]
    cases a.written with
    | none => rfl
    | some v =>
      exact Compass.filter_notifications hmem (hfin c (Server.alive_iff.mpr hc)) hshut
  | addWatch d req w' he hk' hr hs ht => simp [Label.sentTo, hs, Label.written, Label.access, he]
  | removeWatch d ntfy he hk' hs ht => simp [Label.sentTo, hs, Label.written, Label.access, he]
  | collected _ _ he => simp [he, Event.compassKey] at hk
  | kept hk' => exact absurd hk hk'

/-! ## Whole runs -/

/-- **No lost notification over whole runs** of `step`: once `c` is told that it watches `k` under
`w`, and while `c` is alive and not shut down and `w` is not removed, every request on `k` sends on
`c` under `w` exactly the value it changed `k` to, and nothing if it changed nothing. -/
def WatchNotification (sha256 : Bytes → Sha256) (step : Server → Label → Server → Prop) : Prop :=
  ∀ ⦃s₀ s : Server⦄ ⦃ls₁ ls₂ : List Label⦄ ⦃watching : Label⦄ ⦃c : Connection⦄ ⦃k : CompassKey⦄
    ⦃w : Uuid⦄, s₀.Started → Lts.Run step s₀ (ls₁ ++ watching :: ls₂) s →
    watching.Watches sha256 c k w → c ∈ s.live → c ∉ s.down →
    (∀ m ∈ ls₂, ¬ m.Unwatches sha256 k w) →
      ∀ m ∈ ls₂, m.event.compassKey sha256 = some k →
        m.sentTo c w = ((m.written sha256 k).map fun v => (c, ⟨w, v⟩)).toList

/-- What the property says of one request, all that it asks of the run taken together. -/
theorem WatchNotification.told {step : Server → Label → Server → Prop}
    (h : WatchNotification sha256 step) {s₀ : Server} {ls₁ ls₂ : List Label} {watching m : Label}
    (hstarted : s₀.Started) (hrun : Lts.Run step s₀ (ls₁ ++ watching :: ls₂) s) (hm : m ∈ ls₂)
    (hwatched : (watching.Watches sha256 c k w ∧ c ∈ s.live ∧ c ∉ s.down) ∧
      (∀ m ∈ ls₂, ¬ m.Unwatches sha256 k w) ∧ m.event.compassKey sha256 = some k) :
    m.sentTo c w = ((m.written sha256 k).map fun v => (c, ⟨w, v⟩)).toList := by
  obtain ⟨⟨hwatching, hc, hopen⟩, hkept, hk⟩ := hwatched
  exact h hstarted hrun hwatching hc hopen hkept m hm hk

theorem Server.watched_of_run (hs : s.Inv) (hseen : c ∈ s.seen)
    (hmem : (w, c) ∈ (s.compass k).watcherMap.entries) {ls : List Label}
    (h : Lts.Run (Lts.Guarded (Step sha256) fun s l => SparesWatchers s l.event) s ls t)
    (hc : c ∈ t.live) (hopen : c ∉ t.down) (hkept : ∀ m ∈ ls, ¬ m.Unwatches sha256 k w) :
    (w, c) ∈ (t.compass k).watcherMap.entries ∧
      ∀ m ∈ ls, m.event.compassKey sha256 = some k →
        m.sentTo c w = ((m.written sha256 k).map fun v => (c, ⟨w, v⟩)).toList := by
  induction h with
  | nil => exact ⟨hmem, by simp⟩
  | @snoc u v ls m hpre hlast ih =>
    have hu := Server.inv_of_run hs hpre.of_guarded
    have hseenu : c ∈ u.seen := hpre.of_guarded.invariant (I := fun u => c ∈ u.seen)
      (fun h hstep => Step.seen_of_seen hstep h) hseen
    have hopenu : c ∉ u.down := fun hdown => hopen (hlast.2.down_mono hdown)
    obtain ⟨hmemu, htold⟩ := ih (hlast.2.live_of_seen hseenu hc) hopenu
      fun m' hm' => hkept m' (List.mem_append_left _ hm')
    refine ⟨hlast.2.watched hu hlast.1 hc hopen (hkept m (by simp)) hseenu hmemu, fun m' hm' => ?_⟩
    rcases List.mem_append.mp hm' with hm' | hm'
    · exact htold m' hm'
    · rw [List.mem_singleton.mp hm']
      exact hlast.2.told hu hc hopen hmemu

/-- **No notification is lost in a run whose ticks spare the watched compasses.** -/
theorem watchNotification_of_sparesWatchers (sha256 : Bytes → Sha256) :
    WatchNotification sha256 (Lts.Guarded (Step sha256) fun s l => SparesWatchers s l.event) := by
  intro s₀ s ls₁ ls₂ watching c k w hstarted hrun hwatching hc hopen hkept
  obtain ⟨u, v, hpre, hstep, hpost⟩ := hrun.split
  have hu := Server.inv_of_run hstarted.inv hpre.of_guarded
  obtain ⟨hlive, hmem⟩ := hstep.2.watching hu hwatching
  exact (Server.watched_of_run (hstep.2.inv hu) (hstep.2.seen_of_seen (hu.liveSeen c hlive)) hmem
    hpost hc hopen hkept).2

end Watching

/-! ## A watch and a tick

`A` watches the empty key, a tick comes at the default expiry duration, and `B` writes `[1]`. -/

/-- `A` and `B` connect; then whatever happens `before` the watch. -/
def watchTrialStart (before : List Event) : List Event :=
  .connect ⟨0, 1⟩ :: .connect ⟨1, 2⟩ :: before

def watchTrialWatch : Event := .addWatch ⟨0, 1⟩ ⟨[]⟩ 7

def watchTrialEnd : List Event :=
  [.gcTimer 1500000060000 86400000, .exchange ⟨1, 2⟩ ⟨[], [1], 0⟩ 1500000060000 []]

/-- A compass nobody wrote is collected together with its watchers: `A` hears nothing. -/
theorem not_watchNotification : ¬ WatchNotification emptySha256 (Step emptySha256) := by
  intro h
  have hrun := Server.run_labels emptySha256 (fun _ _ => True) emptyServer (watchTrialStart [])
    watchTrialWatch watchTrialEnd (by decide +kernel)
  have htold := WatchNotification.told h emptyServer_started hrun.of_guarded (c := ⟨0, 1⟩)
    (k := .fromHashOf emptySha256 []) (w := 7) (List.mem_cons_of_mem _ List.mem_cons_self)
    (by decide +kernel)
  exact absurd htold (by decide +kernel)

/-- A compass written a minute ago is kept: `A` is told `[1]`, once. -/
theorem watchNotification_of_sparesWatchers_trial :
    ((emptyServer.labels emptySha256 (watchTrialStart
      [.exchange ⟨1, 2⟩ ⟨[], [0], 0⟩ 1500000000000 []] ++ watchTrialWatch ::
        watchTrialEnd)).getLast?.map
        fun l => l.sentTo ⟨0, 1⟩ 7) = some [(⟨0, 1⟩, ⟨7, [1]⟩)] := by
  have hrun := Server.run_labels emptySha256 SparesWatchers emptyServer
    (watchTrialStart [.exchange ⟨1, 2⟩ ⟨[], [0], 0⟩ 1500000000000 []]) watchTrialWatch watchTrialEnd
    (by decide +kernel)
  have htold := (watchNotification_of_sparesWatchers emptySha256).told emptyServer_started hrun
    (c := ⟨0, 1⟩) (k := .fromHashOf emptySha256 []) (w := 7)
    (List.mem_cons_of_mem _ List.mem_cons_self) (by decide +kernel)
  exact congrArg some (htold.trans (by decide +kernel))

end Circe.Pilot
