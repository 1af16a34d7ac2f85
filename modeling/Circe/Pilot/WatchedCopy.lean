import Circe.Pilot.CompassRegister
import Circe.Pilot.WatchNotification

/-!
# Pilot/WatchedCopy — a copy of a value that is kept by its notifications

`Pilot/WatchNotification` says that a watcher misses nothing.  Here is the other half: what a
watcher is told is all it asked for.

* `told_of_watched` — a notification is sent because of a watch that was answered and not removed,
  by the request that wrote the value, once;
* `watched_copy` — so a watcher that has once read the value has a copy of it: what was reported,
  replayed with what it is told since, is the register of the pilot.
-/

namespace Circe.Pilot

open Protocol.Pilot

section Watched

variable {sha256 : Bytes → Sha256} {s t u : Server} {l m : Label} {ls : List Label} {c : Connection}
  {k : CompassKey} {w : Uuid}

/-! ## Who is told -/

theorem CompassWatcherMap.mem_of_mem_addWatcher {alive : Alive} {u : Uuid} {c : Connection}
    {m : CompassWatcherMap} {e : Uuid × Connection} (he : e ∈ (m.addWatcher alive u c).2.entries) :
    e ∈ m.entries ∨ (e = (u, c) ∧ (m.addWatcher alive u c).1 = some u) := by
  rw [addWatcher] at he ⊢
  cases hm : (FlatMap.eraseIf m fun c => !alive c).emplace u c with
  | none =>
    simp only [hm] at he
    exact .inl (FlatMap.mem_entries_eraseIf.mp he).1
  | some m' =>
    simp only [hm] at he ⊢
    rcases (FlatMap.mem_entries_emplace hm).mp he with rfl | he
    · exact .inr ⟨rfl, trivial⟩
    · exact .inl (FlatMap.mem_entries_eraseIf.mp he).1

/-- Only a request sends. -/
theorem Step.sent_eq_nil (h : Step sha256 s l t) (hkey : l.event.compassKey sha256 = none) :
    l.sent = [] := by
  have hl : (s.perform sha256 l.event).1 = l := by rw [h.2.2]
  cases he : l.event with
  | compareExchange | exchange | addWatch | removeWatch =>
    rw [he] at hkey
    cases hkey
  | _ =>
    rw [← hl, he]
    rfl

/-- **Who is told of a write**: the watchers in the map, on connections that are open, each once. -/
theorem Step.told_watcher (hinv : s.Inv) (h : Step sha256 s l t) {x : Sent} (hx : x ∈ l.sent) :
    ∃ k v, l.event.compassKey sha256 = some k ∧ l.written sha256 k = some v ∧
      (x.2.watcherUuid, x.1) ∈ (s.compass k).watcherMap.entries ∧ x.1 ∉ s.down ∧
        l.sentTo x.1 x.2.watcherUuid = [(x.1, ⟨x.2.watcherUuid, v⟩)] := by
  cases hkey : l.event.compassKey sha256 with
  | none =>
    rw [h.sent_eq_nil hkey] at hx
    cases hx
  | some k =>
    refine ⟨k, ?_⟩
    cases h.compass hinv k with
    | access a q ha hk hc hr hh ht =>
      obtain ⟨seen, -, hsent⟩ := hh.sent
      rw [Label.written_of_access ha hk]
      cases hwritten : a.written with
      | none =>
        rw [hsent, hwritten] at hx
        cases hx
      | some v =>
        rw [hsent, hwritten, Compass.sentFor, Compass.notifications] at hx
        obtain ⟨e, he, rfl⟩ := List.mem_map.mp hx
        obtain ⟨hmem, hopen⟩ := List.mem_filter.mp he
        obtain ⟨hentry, hseen⟩ := List.mem_filter.mp hmem
        have hshut : s.shut e.2 = false := by simpa using hopen
        refine ⟨v, rfl, rfl, hentry, by simpa [Server.shut] using hshut, ?_⟩
        rw [Label.sentTo, hsent, hwritten]
        exact Compass.filter_notifications hentry hseen hshut
    | addWatch _ _ _ _ _ _ hsent _ | removeWatch _ _ _ _ hsent _ =>
      rw [hsent] at hx
      cases hx
    | collected _ _ he =>
      rw [he] at hkey
      cases hkey
    | kept hk => exact absurd hkey hk

/-! ## Why somebody is in the map -/

/-- There is a watch of `k` by `c` under `w` that was answered and not removed since. -/
def Standing (sha256 : Bytes → Sha256) (ls : List Label) (c : Connection) (k : CompassKey)
    (w : Uuid) : Prop :=
  ∃ pre watching post, ls = pre ++ watching :: post ∧ watching.Watches sha256 c k w ∧
    ∀ l ∈ post, ¬ l.Unwatches sha256 k w

theorem Standing.snoc (h : Standing sha256 ls c k w) (hl : ¬ l.Unwatches sha256 k w) :
    Standing sha256 (ls ++ [l]) c k w := by
  obtain ⟨pre, watching, post, rfl, hwatching, hkept⟩ := h
  refine ⟨pre, watching, post ++ [l], by simp, hwatching, fun l' hl' => ?_⟩
  rcases List.mem_append.mp hl' with hl' | hl'
  · exact hkept l' hl'
  · rw [List.mem_singleton.mp hl']
    exact hl

/-- **A watcher in the map was put there**, and nobody took it out. -/
theorem Step.standing (hinv : s.Inv) (h : Step sha256 s l t)
    (hs : (w, c) ∈ (s.compass k).watcherMap.entries → Standing sha256 ls c k w)
    (hmem : (w, c) ∈ (t.compass k).watcherMap.entries) : Standing sha256 (ls ++ [l]) c k w := by
  cases h.compass hinv k with
  | access a q ha hk hc hr hh ht =>
    rw [ht.watcherMap, hh.watcherMap] at hmem
    refine (hs hmem).snoc fun hun => ?_
    unfold Label.Unwatches at hun
    split at hun
    case h_1 c' ntfy he => simp [Label.access, he] at ha
    case h_2 => exact hun
  | addWatch c' req w' he hk hr hsent ht =>
    rw [ht.watcherMap, Server.addWatchServlet_compass] at hmem
    rcases CompassWatcherMap.mem_of_mem_addWatcher hmem with hold | ⟨hnew, hadded⟩
    · refine (hs hold).snoc fun hun => ?_
      simp only [Label.Unwatches, he] at hun
    · obtain ⟨rfl, rfl⟩ := Prod.mk.inj hnew
      have hresult : (Server.addWatchServlet s.alive c w (s.compass k)).result = .ok ⟨w⟩ := by
        simp only [Server.addWatchServlet, hadded]
      refine ⟨ls, l, [], rfl, ?_, by simp⟩
      rw [hresult] at hr
      simp only [Label.Watches, he, hr]
      exact ⟨trivial, hk, trivial⟩
  | removeWatch c' ntfy he hk hsent ht =>
    rw [ht.watcherMap] at hmem
    obtain ⟨hold, hne⟩ := FlatMap.mem_entries_erase.mp hmem
    refine (hs hold).snoc fun hun => ?_
    simp only [Label.Unwatches, he] at hun
    exact hne hun.2.symm
  | collected utcNow expiryDuration he e hmem' hobject htime ht =>
    rw [ht] at hmem
    cases hmem
  | kept hk ht =>
    rw [ht] at hmem
    refine (hs hmem).snoc fun hun => hk ?_
    unfold Label.Unwatches at hun
    split at hun
    case h_1 c' ntfy he => simpa [he, Event.compassKey] using hun.1
    case h_2 => exact hun.elim

theorem Server.Started.watcherMap (h : s.Started) (k : CompassKey) :
    (s.compass k).watcherMap = .empty := by
  rw [Server.compass, CompassRepository.compass]
  cases hget : s.repository.getCompass k with
  | none => rfl
  | some q =>
    obtain ⟨dao, hdao⟩ := h.loaded k q hget
    simp [hdao, Compass.ofDao]

theorem Server.standing_of_run (hs : s.Started) (h : Lts.Run (Step sha256) s ls t)
    (hmem : (w, c) ∈ (t.compass k).watcherMap.entries) : Standing sha256 ls c k w := by
  induction h with
  | nil =>
    rw [hs.watcherMap k] at hmem
    cases hmem
  | snoc hpre hlast ih => exact hlast.standing (inv_of_run hs.inv hpre) ih hmem

/-- **Nobody is told what they did not ask for.**  In every run, a notification carries the value
that the very request wrote, and is the only one of that request under its UUID on its connection;
and that connection has a watch on the key of the request under that UUID, which was answered before
and not removed since. -/
theorem told_of_watched {pre post : List Label} (hs : s.Started)
    (h : Lts.Run (Step sha256) s (pre ++ l :: post) t) {x : Sent} (hx : x ∈ l.sent) :
    ∃ k v, l.event.compassKey sha256 = some k ∧ l.written sha256 k = some v ∧
      l.sentTo x.1 x.2.watcherUuid = [(x.1, ⟨x.2.watcherUuid, v⟩)] ∧
        Standing sha256 pre x.1 k x.2.watcherUuid := by
  obtain ⟨u, v, hpre, hstep, -⟩ := h.split
  obtain ⟨k, v, hkey, hwritten, hmem, -, hsent⟩ :=
    hstep.told_watcher (Server.inv_of_run hs.inv hpre) hx
  exact ⟨k, v, hkey, hwritten, hsent, Server.standing_of_run hs hpre hmem⟩

/-! ## The copy -/

/-- The values that `c` is told under `w`. -/
def told (c : Connection) (w : Uuid) (ls : List Label) : List (Option Bytes) :=
  ls.flatMap fun l => (l.sentTo c w).map fun x => some x.2.valueNew

theorem told_append (c : Connection) (w : Uuid) (ls ms : List Label) :
    told c w (ls ++ ms) = told c w ls ++ told c w ms := List.flatMap_append

/-- Who watches no other key under `w` is told nothing under `w` by a request on another. -/
theorem sentTo_of_off {pre post : List Label} (hs : s.Started)
    (h : Lts.Run (Step sha256) s (pre ++ m :: post) t)
    (honly : ∀ l ∈ pre, ∀ k', l.Watches sha256 c k' w → k' = k)
    (hoff : m.event.compassKey sha256 ≠ some k) : m.sentTo c w = [] := by
  refine List.eq_nil_iff_forall_not_mem.mpr fun x hx => ?_
  obtain ⟨hsent, hto⟩ := List.mem_filter.mp hx
  obtain ⟨rfl, rfl⟩ := of_decide_eq_true hto
  obtain ⟨k', v, hkey, -, -, pre₁, watching, post₁, rfl, hwatching, -⟩ := told_of_watched hs h hsent
  have hk : k' = k := honly watching (by simp) k' hwatching
  exact hoff (hk ▸ hkey)

/-- Entries that were not written can be left out of a history. -/
theorem replay_told (r : Register Bytes)
    (h : ∀ m ∈ ls, m.sentTo c w = ((m.written sha256 k).map fun v => (c, ⟨w, v⟩)).toList) :
    r.replay (told c w ls) = r.replay (ls.map fun l => l.written sha256 k) := by
  induction ls generalizing r with
  | nil => rfl
  | cons m ls ih =>
    obtain ⟨hm, hrest⟩ := List.forall_mem_cons.mp h
    have hfirst : r.replay (told c w [m]) = r.replay [m.written sha256 k] := by
      rw [told, List.flatMap_singleton, hm]
      cases m.written sha256 k <;> rfl
    rw [← List.singleton_append, told_append, Register.replay_append, hfirst, ih _ hrest,
      ← Register.replay_append]
    rfl

theorem Server.compass_of_mem (hinv : s.Inv) {e : CompassElement}
    (he : e ∈ s.repository.container) : s.compass e.compassKey = e.compass.object := by
  have hkey : e.compassKey = e.compass.object.compassKey :=
    congrArg CompassElement.compassKey (hinv.repository.truthful e he)
  have hget : s.repository.getCompass e.compassKey = some e.compass :=
    hinv.repository.getCompass_eq_some_iff.mpr ⟨hinv.repository.mem_create he, hkey.symm⟩
  rw [compass, CompassRepository.compass, hget]
  rfl

/-- A compass that is watched is kept. -/
theorem SparesWatchers.keepsCompass {e : Event} (h : SparesWatchers s e) (hinv : s.Inv)
    (hmem : (w, c) ∈ (s.compass k).watcherMap.entries) (hlive : c ∈ s.live) (hopen : c ∉ s.down) :
    KeepsCompass k s e := by
  cases e with
  | gcTimer utcNow expiryDuration =>
    rintro e he rfl htime
    rw [Server.compass_of_mem hinv he] at hmem
    exact hopen (h e he htime (w, c) hmem hlive)
  | _ => trivial

theorem Server.keeps_of_watched (hs : s.Inv) (hseen : c ∈ s.seen)
    (hmem : (w, c) ∈ (s.compass k).watcherMap.entries)
    (h : Lts.Run (Lts.Guarded (Step sha256) fun s l => SparesWatchers s l.event) s ls t)
    (hc : c ∈ t.live) (hopen : c ∉ t.down) (hkept : ∀ m ∈ ls, ¬ m.Unwatches sha256 k w) :
    Lts.Run (KeepsStep sha256 k) s ls t := by
  induction h with
  | nil => exact .nil _
  | @snoc u v ls m hpre hlast ih =>
    have hu := Server.inv_of_run hs hpre.of_guarded
    have hseenu : c ∈ u.seen := hpre.of_guarded.invariant (I := fun u => c ∈ u.seen)
      (fun h hstep => Step.seen_of_seen hstep h) hseen
    have hopenu : c ∉ u.down := fun hdown => hopen (hlast.2.down_mono hdown)
    have hliveu : c ∈ u.live := hlast.2.live_of_seen hseenu hc
    have hkeptu : ∀ m' ∈ ls, ¬ m'.Unwatches sha256 k w := fun m' hm' =>
      hkept m' (List.mem_append_left _ hm')
    have hmemu := (Server.watched_of_run hs hseen hmem hpre hliveu hopenu hkeptu).1
    exact (ih hliveu hopenu hkeptu).snoc ⟨hlast.1.keepsCompass hu hmemu hliveu hopenu, hlast.2⟩

/-- **A watcher has a copy.**  Let `c` watch `k` under `w`, which is random and so stands for no
other key, and let a request after that report a value and a version of `k`.  While `c` is alive and
open, the watch is not removed and the ticks spare the watched compasses, the register of the pilot
is what was reported, replayed with what `c` has been told under `w` since, by that request and
those after it. -/
theorem watched_copy {s₀ : Server} {ls₁ ls₂ ls₃ : List Label} {watching reading : Label}
    {b : Bytes} {n : UInt64} (hstarted : s₀.Started)
    (hrun : Lts.Run (Lts.Guarded (Step sha256) fun s l => SparesWatchers s l.event) s₀
      (ls₁ ++ watching :: ls₂ ++ reading :: ls₃) t)
    (hwatching : watching.Watches sha256 c k w)
    (honly : ∀ l ∈ ls₁ ++ watching :: ls₂ ++ reading :: ls₃, ∀ k', l.Watches sha256 c k' w → k' = k)
    (hreading : reading.reported sha256 k = some (b, n))
    (hc : c ∈ t.live) (hopen : c ∉ t.down)
    (hkept : ∀ m ∈ ls₂ ++ reading :: ls₃, ¬ m.Unwatches sha256 k w) :
    t.register k = Register.replay ⟨b, n⟩ (told c w (reading :: ls₃)) := by
  have hrun' : Lts.Run (Lts.Guarded (Step sha256) fun s l => SparesWatchers s l.event) s₀
      (ls₁ ++ watching :: (ls₂ ++ reading :: ls₃)) t := by simpa using hrun
  obtain ⟨v, v', hbefore, hstep, hafter⟩ := hrun'.split
  have hv := Server.inv_of_run hstarted.inv hbefore.of_guarded
  have hv' := hstep.2.inv hv
  obtain ⟨hlive, hmem⟩ := hstep.2.watching hv hwatching
  have hseen : c ∈ v'.seen := hstep.2.seen_of_seen (hv.liveSeen c hlive)
  have hsent := (Server.watched_of_run hv' hseen hmem hafter hc hopen hkept).2
  obtain ⟨u, hbetween, hlast⟩ :=
    (Server.keeps_of_watched hv' hseen hmem hafter hc hopen hkept).of_append
  have hu := Server.inv_of_run hv' hbetween.of_guarded
  obtain ⟨u', hread, -⟩ := hlast.of_cons
  obtain ⟨rfl, rfl⟩ := Prod.mk.inj (hread.2.reported hu hreading)
  rw [Server.register_of_run hu hlast, replay_told (k := k)]
  intro m hm
  by_cases hon : m.event.compassKey sha256 = some k
  · exact hsent m (List.mem_append_right _ hm) hon
  · obtain ⟨pre, post, hsplit⟩ := List.append_of_mem hm
    rw [hsplit, ← List.append_assoc] at hrun honly
    rw [Label.written_of_off hon]
    refine sentTo_of_off hstarted hrun.of_guarded (fun l hl => honly l ?_) hon
    exact List.mem_append_left _ hl

end Watched

/-! ## A copy that is kept

`A` watches the empty key and reads it, and then `B` writes it. -/

theorem Label.Watches.compassKey {sha256 : Bytes → Sha256} {l : Label} {c : Connection}
    {k : CompassKey} {w : Uuid} (h : l.Watches sha256 c k w) :
    l.event.compassKey sha256 = some k := by
  unfold Label.Watches at h
  split at h
  case h_1 he _ =>
    rw [he, ← h.2.1]
    rfl
  case h_2 => exact h.elim

def copyTrialBefore : List Event := [.connect ⟨0, 1⟩, .connect ⟨1, 2⟩]

def copyTrialRead : Event := .compareExchange ⟨0, 1⟩ ⟨[], [], 0⟩ 1500000000000 []

def copyTrialWrite : Event := .exchange ⟨1, 2⟩ ⟨[], [1], 0⟩ 1500000000001 []

theorem told_of_watched_trial :
    let s := emptyServer.after emptySha256 (copyTrialBefore ++ [watchTrialWatch])
    let l := (s.perform emptySha256 copyTrialWrite).1
    ∃ k v, l.event.compassKey emptySha256 = some k ∧ l.written emptySha256 k = some v ∧
      l.sentTo ⟨0, 1⟩ 7 = [(⟨0, 1⟩, ⟨7, v⟩)] ∧
        Standing emptySha256
          (emptyServer.labels emptySha256 (copyTrialBefore ++ [watchTrialWatch])) ⟨0, 1⟩ k 7 :=
  told_of_watched emptyServer_started
    (Server.run_labels emptySha256 SparesWatchers emptyServer
      (copyTrialBefore ++ [watchTrialWatch]) copyTrialWrite [] (by decide +kernel)).of_guarded
    (x := (⟨0, 1⟩, ⟨7, [1]⟩)) (by decide +kernel)

theorem watched_copy_trial :
    (emptyServer.after emptySha256 ((copyTrialBefore ++ [watchTrialWatch]) ++
        copyTrialRead :: [copyTrialWrite])).register (.fromHashOf emptySha256 []) = ⟨[1], 1⟩ := by
  have hrun := Server.run_labels emptySha256 SparesWatchers emptyServer
    (copyTrialBefore ++ [watchTrialWatch]) copyTrialRead [copyTrialWrite] (by decide +kernel)
  rw [Server.labels_append] at hrun
  have honly : ∀ l ∈ emptyServer.labels emptySha256 ((copyTrialBefore ++ [watchTrialWatch]) ++
      copyTrialRead :: [copyTrialWrite]),
      ∀ k' ∈ l.event.compassKey emptySha256, k' = .fromHashOf emptySha256 [] := by
    decide +kernel
  rw [Server.labels_append, Server.labels_append] at honly
  have hcopy := watched_copy (c := ⟨0, 1⟩) (k := .fromHashOf emptySha256 []) (w := 7) (b := [])
    (n := 0) emptyServer_started hrun (by decide +kernel)
    (fun l hl k' h => honly l hl k' h.compassKey) (by decide +kernel) (by decide +kernel)
    (by decide +kernel) (by decide +kernel)
  exact hcopy.trans (by decide +kernel)

end Circe.Pilot
