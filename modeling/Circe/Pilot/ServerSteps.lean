import Circe.Pilot.Server

/-!
# Pilot/ServerSteps — what a step does to a compass, and the server's invariant

`CompassStep` lists all that one step can do to the compass of one key; `Step.compass` proves the
list complete.  Every invariant of the server is a case analysis over it.
-/

namespace Circe.Pilot

open Protocol.Pilot

/-! ## The frame of a servlet -/

/-- A compass whose last access time may have been updated. -/
def Compass.Touched (p q : Compass) : Prop := q = p ∨ ∃ utcNow, q = p.touch utcNow

namespace Compass.Touched

variable {p q : Compass}

theorem lock (h : p.Touched q) : q.lock = p.lock := by
  rcases h with rfl | ⟨_, rfl⟩ <;> rfl

theorem watcherMap (h : p.Touched q) : q.watcherMap = p.watcherMap := by
  rcases h with rfl | ⟨_, rfl⟩ <;> rfl

theorem getValue (h : p.Touched q) : q.getValue = p.getValue := by
  rcases h with rfl | ⟨_, rfl⟩
  · rfl
  · exact getValue_touch _ _

theorem getVersion (h : p.Touched q) : q.getVersion = p.getVersion := by
  rcases h with rfl | ⟨_, rfl⟩
  · rfl
  · exact getVersion_touch _ _

end Compass.Touched

/-- A request does not move the last access time itself. -/
theorem Handled.getLastAccessTime {fin shut : Alive} {c : Connection} {grant : ℤ × ℤ}
    {written : Option Bytes} {p p' : Compass} {sent : List Sent}
    (h : Handled fin shut c grant written p p' sent) :
    p'.getLastAccessTime = p.getLastAccessTime := by
  rw [Compass.getLastAccessTime, h.dao, Compass.getLastAccessTime]
  cases written with
  | none => rfl
  | some v => cases hdao : p.dao <;> simp [Compass.daoAfter, Compass.daoWritten, hdao]

theorem CompassRepository.Inv.compassKey_compass {r : CompassRepository} (h : r.Inv)
    (k : CompassKey) : (r.compass k).compassKey = k := by
  rw [CompassRepository.compass]
  cases hget : r.getCompass k with
  | none => rfl
  | some p => exact h.compassKey_of_getCompass hget

/-- **A servlet changes the compass it opened and no other.** -/
theorem Server.runServlet_spec {α : Type} {s t : Server} {k : CompassKey} (touchAt : Option ℕ)
    (f : Compass → Outcome α) (h : s.repository.Inv)
    (ht : t.repository = (runServlet k touchAt f s.repository).2.2)
    (hkey : (f (s.compass k)).compass.compassKey = (s.compass k).compassKey)
    (htime : (f (s.compass k)).compass.getLastAccessTime = (s.compass k).getLastAccessTime) :
    (runServlet k touchAt f s.repository).1 = (f (s.compass k)).result ∧
      (runServlet k touchAt f s.repository).2.1 = (f (s.compass k)).sent ∧
      t.repository.Inv ∧ (f (s.compass k)).compass.Touched (t.compass k) ∧
      ∀ k', k' ≠ k → t.compass k' = s.compass k' := by
  obtain ⟨hget, hobject, hothers⟩ := h.openCompass_spec k
  have hinv := h.openCompass k
  have hcompass : ∀ k', t.compass k' = t.repository.compass k' := fun _ => rfl
  simp only [hcompass]
  rw [ht]
  unfold runServlet
  generalize s.repository.openCompass k = opened at *
  obtain ⟨p, r⟩ := opened
  simp only at hget hobject hothers hinv ⊢
  have hobject' : s.compass k = p.object := hobject.symm
  rw [hobject'] at hkey htime ⊢
  generalize f p.object = o at *
  -- Whatever is put back in the end, only the compass of `k` is another one.
  have hput : ∀ c : Compass, c.compassKey = p.object.compassKey →
      (r.put ⟨p.get, c⟩).Inv ∧ (r.put ⟨p.get, c⟩).compass k = c ∧
        ∀ k', k' ≠ k → (r.put ⟨p.get, c⟩).compass k' = s.compass k' := by
    intro c hc
    have hlookup := hinv.getCompass_put (q := ⟨p.get, c⟩) hget rfl hc
    refine ⟨hinv.put hget rfl hc, ?_, fun k' hne => ?_⟩
    · rw [CompassRepository.compass, hlookup, if_pos rfl]
      rfl
    · rw [CompassRepository.compass, hlookup, if_neg hne, hothers k' hne, Server.compass,
        CompassRepository.compass]
  split
  case h_1 a utcNow hres =>
    rw [hinv.updateLastAccessTime_store (q := ⟨p.get, o.compass⟩) hget rfl hkey htime]
    obtain ⟨hinv', hself, hrest⟩ := hput (o.compass.touch utcNow) hkey
    exact ⟨hres.symm, rfl, hinv', Or.inr ⟨utcNow, hself⟩, hrest⟩
  case h_2 =>
    rw [hinv.store_eq_put (q := ⟨p.get, o.compass⟩) hget rfl hkey htime]
    obtain ⟨hinv', hself, hrest⟩ := hput o.compass hkey
    exact ⟨rfl, rfl, hinv', Or.inl hself, hrest⟩

/-! ## The invariant -/

/-- The repository's index is true, UUIDs tell the living apart, every lock is exclusive among the
living, and holders are connections that have been seen. -/
structure Server.Inv (s : Server) : Prop where
  repository : s.repository.Inv
  liveSeen : ∀ c ∈ s.live, c ∈ s.seen
  distinct : DistinctUuids s.alive
  locks : ∀ k, (s.compass k).lock.Inv s.alive
  holders : ∀ k c, 0 < (s.compass k).lock.shared c ∨ 0 < (s.compass k).lock.exclusive c →
    c ∈ s.seen

theorem Server.Started.inv {s : Server} (h : s.Started) : s.Inv := by
  have hempty : ∀ k, (s.compass k).lock = .empty := fun k => by
    rw [Server.compass, CompassRepository.compass]
    cases hget : s.repository.getCompass k with
    | none => rfl
    | some q =>
      obtain ⟨dao, hdao⟩ := h.loaded k q hget
      simp [hdao, Compass.ofDao]
  refine ⟨h.repository, ?_, ?_, fun k => ?_, fun k c hc => ?_⟩
  · simp [h.live]
  · simp [DistinctUuids, h.live]
  · exact hempty k ▸ CompassLock.inv_empty _
  · rw [hempty k] at hc
    simp [CompassLock.empty, CompassLock.shared, CompassLock.exclusive] at hc

/-! ## All that a step can do to a compass -/

/-- What a step does to the compass of `k`: a request that may lock or write, a watch added or
removed, a collection, or nothing. -/
inductive CompassStep (sha256 : Bytes → Sha256) (s t : Server) (l : Label) (k : CompassKey) : Prop
  | access (a : Access) (q : Compass) (ha : l.access sha256 = some a) (hk : a.compassKey = k)
      (hc : a.connection ∈ s.live ∧ a.connection ∈ t.live)
      (hr : ∀ r, a.reported = some r → r = ((s.compass k).getValue, (s.compass k).getVersion))
      (hh : Handled t.alive s.shut a.connection a.grant a.written (s.compass k) q l.sent)
      (ht : q.Touched (t.compass k))
  | addWatch (c : Connection) (req : AddWatchRequest) (w : Uuid) (he : l.event = .addWatch c req w)
      (hk : .fromHashOf sha256 req.key = k)
      (hr : l.reply = .addWatch (Server.addWatchServlet s.alive c w (s.compass k)).result)
      (hs : l.sent = [])
      (ht : (Server.addWatchServlet s.alive c w (s.compass k)).compass.Touched (t.compass k))
  | removeWatch (c : Connection) (ntfy : RemoveWatchNotification)
    (he : l.event = .removeWatch c ntfy)
      (hk : .fromHashOf sha256 ntfy.key = k) (hs : l.sent = [])
      (ht : (Server.removeWatchServlet ntfy.watcherUuid (s.compass k)).compass.Touched
        (t.compass k))
  | collected (utcNow expiryDuration : ℕ) (he : l.event = .gcTimer utcNow expiryDuration)
      (e : CompassElement) (hmem : e ∈ s.repository.container)
      (hobject : e.compass.object = s.compass k)
      (htime : e.lastAccessTime ≤ CompassRepository.expiryTime utcNow expiryDuration)
      (ht : t.compass k = .create k)
  | kept (hk : l.event.compassKey sha256 ≠ some k) (ht : t.compass k = s.compass k)

section Steps

variable {sha256 : Bytes → Sha256} {s t : Server} {l : Label} {k : CompassKey} {c : Connection}
  {deaths : List (List Connection)}

/-- Who died before an early look died before every later one. -/
theorem mem_flatten_take {i j : ℕ} (hij : i ≤ j) (h : c ∈ (deaths.take i).flatten) :
    c ∈ (deaths.take j).flatten := by
  obtain ⟨dead, hdead, hmem⟩ := List.mem_flatten.mp h
  exact List.mem_flatten.mpr ⟨dead, (List.take_prefix_take_left hij).subset hdead, hmem⟩

theorem mem_flatten_of_take {i : ℕ} (h : c ∈ (deaths.take i).flatten) : c ∈ deaths.flatten := by
  obtain ⟨dead, hdead, hmem⟩ := List.mem_flatten.mp h
  exact List.mem_flatten.mpr ⟨dead, List.mem_of_mem_take hdead, hmem⟩

theorem Server.Inv.aliveDuring_ok (h : s.Inv) (hc : c ∈ s.live) (hdeaths : c ∉ deaths.flatten) :
    (s.aliveDuring deaths).Ok c where
  anti {i j} hij d hd := by
    simp only [aliveDuring, decide_eq_true_eq] at hd ⊢
    exact ⟨hd.1, fun hmem => hd.2 (mem_flatten_take (Nat.add_le_add_right hij 1) hmem)⟩
  self i := by
    simp only [aliveDuring, decide_eq_true_eq]
    exact ⟨hc, fun hmem => hdeaths (mem_flatten_of_take hmem)⟩
  distinct d e hd he := by
    simp only [aliveDuring, decide_eq_true_eq] at hd he
    exact h.distinct d e (alive_iff.mpr hd.1) (alive_iff.mpr he.1)

/-- Who is alive after a request was alive throughout. -/
theorem Server.aliveDuring_of_survivor {d : Connection} (i : ℕ)
    (hd : d ∈ s.live.filter fun d => d ∉ deaths.flatten) : s.aliveDuring deaths i d = true := by
  simp only [List.mem_filter, decide_eq_true_eq] at hd
  simp only [aliveDuring, decide_eq_true_eq]
  exact ⟨hd.1, fun hmem => hd.2 (mem_flatten_of_take hmem)⟩

theorem Server.alive_of_aliveDuring {d : Connection} {i : ℕ}
    (hd : s.aliveDuring deaths i d = true) : s.alive d = true := by
  simp only [aliveDuring, decide_eq_true_eq] at hd
  exact alive_iff.mpr hd.1

/-- A step ran a servlet of `c` on the compass of `k`, with outcome `o`. -/
structure Ran {α : Type} (s t : Server) (l : Label) (k : CompassKey) (c : Connection)
    (deaths : List (List Connection)) (o : Outcome α) : Prop where
  sent : l.sent = o.sent
  before : c ∈ s.live
  after : c ∈ t.live
  repository : t.repository.Inv
  touched : o.compass.Touched (t.compass k)
  others : ∀ k', k' ≠ k → t.compass k' = s.compass k'
  ok : (s.aliveDuring deaths).Ok c
  survivors : ∀ i d, t.alive d → s.aliveDuring deaths i d

/-- A request that does to its compass what `Handled` says runs as a servlet does. -/
theorem Ran.of_handled {α : Type} (touchAt : Option ℕ) (f : Compass → Outcome α) (hinv : s.Inv)
    (hc : c ∈ s.live) (hdeaths : c ∉ deaths.flatten)
    {grant : ℤ × ℤ} {written : Option Bytes}
    (hlive : t.live = s.live.filter fun d => d ∉ deaths.flatten)
    (hrepository : t.repository = (Server.runServlet k touchAt f s.repository).2.2)
    (hsent : l.sent = (Server.runServlet k touchAt f s.repository).2.1)
    (hh : Handled t.alive s.shut c grant written (s.compass k) (f (s.compass k)).compass
      (f (s.compass k)).sent) :
    (Server.runServlet k touchAt f s.repository).1 = (f (s.compass k)).result ∧
      Ran s t l k c deaths (f (s.compass k)) := by
  obtain ⟨hresult, hsent', hinv', htouched, hothers⟩ :=
    Server.runServlet_spec touchAt f hinv.repository hrepository hh.key hh.getLastAccessTime
  refine ⟨hresult, hsent.trans hsent', hc, ?_, hinv', htouched, hothers,
    hinv.aliveDuring_ok hc hdeaths,
    fun i d hd => Server.aliveDuring_of_survivor i (hlive ▸ Server.alive_iff.mp hd)⟩
  rw [hlive, List.mem_filter]
  exact ⟨hc, by simpa using hdeaths⟩

theorem Server.Inv.lock_aliveDuring (h : s.Inv) (k : CompassKey)
    (deaths : List (List Connection)) : (s.compass k).lock.Inv (s.aliveDuring deaths 0) :=
  (h.locks k).anti fun _ hd => Server.alive_of_aliveDuring hd

/-- **A compare-exchange is its servlet, run on the compass of its key.** -/
theorem Step.compareExchange (hinv : s.Inv) {req : CompareExchangeRequest} {utcNow : ℕ}
    (h : Step sha256 s l t) (he : l.event = .compareExchange c req utcNow deaths) :
    ∃ o, compareExchangeServlet (s.aliveDuring deaths) s.shut c req
        (s.compass (.fromHashOf sha256 req.key)) = o ∧ l.reply = .compareExchange o.result ∧
      Ran s t l (.fromHashOf sha256 req.key) c deaths o := by
  obtain ⟨-, henabled, hperform⟩ := h
  rw [he] at henabled hperform
  obtain ⟨hc, hdeaths, -⟩ := henabled
  have hl : (s.perform sha256 (.compareExchange c req utcNow deaths)).1 = l := by rw [hperform]
  have ht : (s.perform sha256 (.compareExchange c req utcNow deaths)).2 = t := by rw [hperform]
  have hlive : t.live = s.live.filter fun d => d ∉ deaths.flatten := by rw [← ht]; rfl
  have hspec := compareExchangeServlet_spec t.alive s.shut (hinv.aliveDuring_ok hc hdeaths)
    (fun i d hd => Server.aliveDuring_of_survivor i (hlive ▸ Server.alive_iff.mp hd))
    (hinv.lock_aliveDuring (.fromHashOf sha256 req.key) deaths) req rfl
  rcases hspec with ⟨_, -, -, hh⟩ | ⟨_, _, -, -, -, -, -, hh⟩
  all_goals
    obtain ⟨hresult, hran⟩ := Ran.of_handled (l := l) (some utcNow) _ hinv hc hdeaths hlive
      (by rw [← ht]; rfl) (by rw [← hl]; rfl) hh
    exact ⟨_, rfl, by rw [← hresult, ← hl]; rfl, hran⟩

/-- **An exchange is its servlet, run on the compass of its key.** -/
theorem Step.exchange (hinv : s.Inv) {req : ExchangeRequest} {utcNow : ℕ}
    (h : Step sha256 s l t) (he : l.event = .exchange c req utcNow deaths) :
    ∃ o, exchangeServlet (s.aliveDuring deaths) s.shut c req
        (s.compass (.fromHashOf sha256 req.key)) = o ∧ l.reply = .exchange o.result ∧
      Ran s t l (.fromHashOf sha256 req.key) c deaths o := by
  obtain ⟨-, henabled, hperform⟩ := h
  rw [he] at henabled hperform
  obtain ⟨hc, hdeaths, -⟩ := henabled
  have hl : (s.perform sha256 (.exchange c req utcNow deaths)).1 = l := by rw [hperform]
  have ht : (s.perform sha256 (.exchange c req utcNow deaths)).2 = t := by rw [hperform]
  have hlive : t.live = s.live.filter fun d => d ∉ deaths.flatten := by rw [← ht]; rfl
  have hspec := exchangeServlet_spec t.alive s.shut (hinv.aliveDuring_ok hc hdeaths)
    (fun i d hd => Server.aliveDuring_of_survivor i (hlive ▸ Server.alive_iff.mp hd))
    (hinv.lock_aliveDuring (.fromHashOf sha256 req.key) deaths) req rfl
  rcases hspec with ⟨_, -, -, hh⟩ | ⟨_, _, -, -, -, -, hh⟩
  all_goals
    obtain ⟨hresult, hran⟩ := Ran.of_handled (l := l) (some utcNow) _ hinv hc hdeaths hlive
      (by rw [← ht]; rfl) (by rw [← hl]; rfl) hh
    exact ⟨_, rfl, by rw [← hresult, ← hl]; rfl, hran⟩

theorem Access.grant_eq {a : Access} {counts : ℤ × ℤ}
    (h : lockDispositionCounts a.lockDisposition = .ok counts) :
    a.grant = if a.succeeded then counts else (0, 0) := by
  rw [Access.grant, h]
  cases a.succeeded <;> rfl

theorem Step.compass_compareExchange (hinv : s.Inv) {req : CompareExchangeRequest} {utcNow : ℕ}
    (h : Step sha256 s l t) (he : l.event = .compareExchange c req utcNow deaths) :
    t.repository.Inv ∧ ∀ k, CompassStep sha256 s t l k := by
  obtain ⟨o, ho, hreply, hran⟩ := h.compareExchange hinv he
  refine ⟨hran.repository, fun k => ?_⟩
  by_cases hk : k = .fromHashOf sha256 req.key
  case neg =>
    exact .kept (by simpa [he, Event.compassKey] using Ne.symm hk) (hran.others k hk)
  subst hk
  rcases compareExchangeServlet_spec t.alive s.shut hran.ok hran.survivors
    (hinv.lock_aliveDuring _ deaths) req ho with
    ⟨e, hres, -, hh⟩ | ⟨r, counts, hres, hcounts, hvalue, hversion, -, hh⟩
  · refine .access ⟨c, .fromHashOf sha256 req.key, req.lockDisposition.toNat, false, none, none⟩
      o.compass (by simp only [Label.access, he, hreply, hres]) rfl ⟨hran.before, hran.after⟩
      (by simp) (hran.sent ▸ hh) hran.touched
  · refine .access ⟨c, .fromHashOf sha256 req.key, req.lockDisposition.toNat, r.succeeded, _,
      some (r.valueOld, r.versionOld)⟩ o.compass
      (by simp only [Label.access, he, hreply, hres]; rfl) rfl ⟨hran.before, hran.after⟩
      (fun _ h => by rw [← Option.some.inj h, hvalue, hversion]) ?_ hran.touched
    rw [Access.grant_eq hcounts]
    exact hran.sent ▸ hh

theorem Step.compass_exchange (hinv : s.Inv) {req : ExchangeRequest} {utcNow : ℕ}
    (h : Step sha256 s l t) (he : l.event = .exchange c req utcNow deaths) :
    t.repository.Inv ∧ ∀ k, CompassStep sha256 s t l k := by
  obtain ⟨o, ho, hreply, hran⟩ := h.exchange hinv he
  refine ⟨hran.repository, fun k => ?_⟩
  by_cases hk : k = .fromHashOf sha256 req.key
  case neg =>
    exact .kept (by simpa [he, Event.compassKey] using Ne.symm hk) (hran.others k hk)
  subst hk
  rcases exchangeServlet_spec t.alive s.shut hran.ok hran.survivors
    (hinv.lock_aliveDuring _ deaths) req ho with
    ⟨e, hres, -, hh⟩ | ⟨r, counts, hres, hcounts, hvalue, hversion, hh⟩
  · refine .access ⟨c, .fromHashOf sha256 req.key, req.lockDisposition.toNat, false, none, none⟩
      o.compass (by simp only [Label.access, he, hreply, hres]) rfl ⟨hran.before, hran.after⟩
      (by simp) (hran.sent ▸ hh) hran.touched
  · refine .access ⟨c, .fromHashOf sha256 req.key, req.lockDisposition.toNat, r.succeeded, _,
      some (r.valueOld, r.versionOld)⟩ o.compass
      (by simp only [Label.access, he, hreply, hres]; rfl) rfl ⟨hran.before, hran.after⟩
      (fun _ h => by rw [← Option.some.inj h, hvalue, hversion]) ?_ hran.touched
    rw [Access.grant_eq hcounts]
    exact hran.sent ▸ hh

/-- Adding a watch changes the watcher map alone. -/
theorem Server.addWatchServlet_compass (alive : Alive) (w : Uuid) (p : Compass) :
    (addWatchServlet alive c w p).compass
      = { p with watcherMap := (p.watcherMap.addWatcher alive w c).2 } := by
  unfold addWatchServlet
  split
  split <;> simp_all

theorem Server.addWatchServlet_ok {alive : Alive} {w : Uuid} {p : Compass} {resp : AddWatchResponse}
    (h : (addWatchServlet alive c w p).result = .ok resp) :
    (p.watcherMap.addWatcher alive w c).1 = some resp.watcherUuid := by
  unfold addWatchServlet at h
  cases hadded : (p.watcherMap.addWatcher alive w c).1 with
  | none => simp [hadded] at h
  | some u =>
    simp only [hadded, Except.ok.injEq] at h
    rw [← h]

theorem Server.addWatchServlet_sent (alive : Alive) (w : Uuid) (p : Compass) :
    (addWatchServlet alive c w p).sent = [] := by
  unfold addWatchServlet
  split
  split <;> rfl

theorem Step.compass_addWatch (hinv : s.Inv) {req : AddWatchRequest} {w : Uuid}
    (h : Step sha256 s l t) (he : l.event = .addWatch c req w) :
    t.repository.Inv ∧ ∀ k, CompassStep sha256 s t l k := by
  obtain ⟨-, -, hperform⟩ := h
  rw [he] at hperform
  have hl : (s.perform sha256 (.addWatch c req w)).1 = l := by rw [hperform]
  have ht : (s.perform sha256 (.addWatch c req w)).2 = t := by rw [hperform]
  obtain ⟨hresult, hsent, hinv', htouched, hothers⟩ := Server.runServlet_spec (t := t)
    (k := .fromHashOf sha256 req.key) none (Server.addWatchServlet s.alive c w) hinv.repository
    (by rw [← ht]; rfl) (by rw [Server.addWatchServlet_compass])
    (by rw [Server.addWatchServlet_compass]; rfl)
  refine ⟨hinv', fun k => ?_⟩
  by_cases hk : k = .fromHashOf sha256 req.key
  · subst hk
    refine .addWatch c req w he rfl (by rw [← hl, ← hresult]; rfl) ?_ htouched
    rw [Server.addWatchServlet_sent] at hsent
    rw [← hl, ← hsent]
    rfl
  · exact .kept (by simpa [he, Event.compassKey] using Ne.symm hk) (hothers k hk)

theorem Step.compass_removeWatch (hinv : s.Inv) {ntfy : RemoveWatchNotification}
    (h : Step sha256 s l t) (he : l.event = .removeWatch c ntfy) :
    t.repository.Inv ∧ ∀ k, CompassStep sha256 s t l k := by
  obtain ⟨-, -, hperform⟩ := h
  rw [he] at hperform
  have hl : (s.perform sha256 (.removeWatch c ntfy)).1 = l := by rw [hperform]
  have ht : (s.perform sha256 (.removeWatch c ntfy)).2 = t := by rw [hperform]
  obtain ⟨-, hsent, hinv', htouched, hothers⟩ := Server.runServlet_spec (t := t)
    (k := .fromHashOf sha256 ntfy.key) none (Server.removeWatchServlet ntfy.watcherUuid)
    hinv.repository (by rw [← ht]; rfl) rfl rfl
  refine ⟨hinv', fun k => ?_⟩
  by_cases hk : k = .fromHashOf sha256 ntfy.key
  · subst hk
    refine .removeWatch c ntfy he rfl ?_ htouched
    rw [← hl]
    exact hsent
  · exact .kept (by simpa [he, Event.compassKey] using Ne.symm hk) (hothers k hk)

theorem Step.compass_gcTimer (hinv : s.Inv) {utcNow expiryDuration : ℕ}
    (h : Step sha256 s l t) (he : l.event = .gcTimer utcNow expiryDuration) :
    t.repository.Inv ∧ ∀ k, CompassStep sha256 s t l k := by
  obtain ⟨-, -, hperform⟩ := h
  rw [he] at hperform
  have ht : (s.perform sha256 (.gcTimer utcNow expiryDuration)).2 = t := by rw [hperform]
  have hrepository : t.repository = s.repository.gcTimerProc utcNow expiryDuration := by
    rw [← ht]
    rfl
  refine ⟨hrepository ▸ hinv.repository.gcTimerProc utcNow expiryDuration, fun k => ?_⟩
  have hlookup := hinv.repository.getCompass_gcTimerProc utcNow expiryDuration k
  have hcompass : t.compass k
      = ((t.repository.getCompass k).map CompassPtr.object).getD (.create k) := rfl
  rw [hrepository, hlookup] at hcompass
  have hoff : l.event.compassKey sha256 ≠ some k := by simp [he, Event.compassKey]
  cases hget : s.repository.getCompass k with
  | none =>
    refine .kept hoff ?_
    rw [hcompass, hget, Server.compass, CompassRepository.compass, hget]
    rfl
  | some q =>
    have hobject : q.object = s.compass k := by
      rw [Server.compass, CompassRepository.compass, hget]
      rfl
    by_cases hold : q.object.getLastAccessTime
        ≤ CompassRepository.expiryTime utcNow expiryDuration
    · refine .collected utcNow expiryDuration he (createCompassElement q)
        (hinv.repository.getCompass_eq_some_iff.mp hget).1 hobject hold ?_
      rw [hcompass, hget, Option.filter_some, if_neg (by simpa using hold)]
      rfl
    · refine .kept hoff ?_
      rw [hcompass, hget, ← hobject, Option.filter_some, if_pos (by simpa using hold)]
      rfl

/-- **`CompassStep` lists all that a step can do.** -/
theorem Step.repository_compass (hinv : s.Inv) (h : Step sha256 s l t) :
    t.repository.Inv ∧ ∀ k, CompassStep sha256 s t l k := by
  have hkept : t.repository = s.repository → l.event.compassKey sha256 = none →
      t.repository.Inv ∧ ∀ k, CompassStep sha256 s t l k := fun hrepository hkey =>
    ⟨hrepository ▸ hinv.repository, fun k =>
      .kept (by simp [hkey]) (by rw [Server.compass, hrepository, Server.compass])⟩
  have ht : (s.perform sha256 l.event).2 = t := by rw [h.2.2]
  cases he : l.event with
  | connect c => exact hkept (by rw [← ht, he]; rfl) (by rw [he]; rfl)
  | shutdown c => exact hkept (by rw [← ht, he]; rfl) (by rw [he]; rfl)
  | die c => exact hkept (by rw [← ht, he]; rfl) (by rw [he]; rfl)
  | compareExchange c req utcNow deaths => exact h.compass_compareExchange hinv he
  | exchange c req utcNow deaths => exact h.compass_exchange hinv he
  | addWatch c req w => exact h.compass_addWatch hinv he
  | removeWatch c ntfy => exact h.compass_removeWatch hinv he
  | gcTimer utcNow expiryDuration => exact h.compass_gcTimer hinv he

theorem Step.compass (hinv : s.Inv) (h : Step sha256 s l t) (k : CompassKey) :
    CompassStep sha256 s t l k := (h.repository_compass hinv).2 k

/-! ## Connections -/

/-- Only `connect` brings a connection, one never seen before and with a UUID of its own. -/
theorem Step.live_cases (h : Step sha256 s l t) :
    t.seen = s.seen ∧ (∀ d ∈ t.live, d ∈ s.live) ∨
      ∃ c, l.event = .connect c ∧ c ∉ s.seen ∧
        (∀ d ∈ s.live, d.connectionUuid ≠ c.connectionUuid) ∧
        t.seen = c :: s.seen ∧ t.live = c :: s.live := by
  have ht : (s.perform sha256 l.event).2 = t := by rw [h.2.2]
  have hdistinct : s.KeepsDistinct l.event := h.1
  have henabled := h.2.1
  cases he : l.event with
  | connect c =>
    rw [he] at ht hdistinct henabled
    exact Or.inr ⟨c, rfl, henabled.1, hdistinct, by rw [← ht]; rfl, by rw [← ht]; rfl⟩
  | die c | compareExchange c req utcNow deaths | exchange c req utcNow deaths =>
    rw [he] at ht
    refine Or.inl ⟨by rw [← ht]; rfl, fun d hd => ?_⟩
    rw [← ht] at hd
    exact List.mem_of_mem_filter hd
  | shutdown c | addWatch c req w | removeWatch c ntfy | gcTimer utcNow expiryDuration =>
    rw [he] at ht
    exact Or.inl ⟨by rw [← ht]; rfl, fun d hd => by rwa [← ht] at hd⟩

/-- A connection that was seen and is alive was alive before. -/
theorem Step.live_of_seen (h : Step sha256 s l t) {d : Connection} (hseen : d ∈ s.seen)
    (hd : d ∈ t.live) : d ∈ s.live := by
  rcases h.live_cases with ⟨-, hlive⟩ | ⟨c, -, hc, -, -, hlive⟩
  · exact hlive d hd
  · rw [hlive] at hd
    rcases List.mem_cons.mp hd with rfl | hd
    · exact absurd hseen hc
    · exact hd

theorem Step.seen_of_seen (h : Step sha256 s l t) {d : Connection} (hseen : d ∈ s.seen) :
    d ∈ t.seen := by
  rcases h.live_cases with ⟨heq, -⟩ | ⟨c, -, -, -, heq, -⟩
  · exact heq ▸ hseen
  · exact heq ▸ List.mem_cons_of_mem c hseen

/-- What is shut down stays shut down. -/
theorem Step.down_mono (h : Step sha256 s l t) {d : Connection} (hd : d ∈ s.down) : d ∈ t.down := by
  have ht : (s.perform sha256 l.event).2 = t := by rw [h.2.2]
  have hthrown : ∀ {α : Type} (c : Connection) (r : Except Exception α),
      d ∈ Server.shutdownIfThrown c r s.down := by
    intro α c r
    cases r with
    | ok _ => exact hd
    | error _ => exact List.mem_cons_of_mem c hd
  rw [← ht]
  cases l.event with
  | shutdown c => exact List.mem_cons_of_mem c hd
  | compareExchange | exchange | addWatch => exact hthrown _ _
  | connect | die | removeWatch | gcTimer => exact hd

/-- A lock in which only connections seen before the step stand keeps its invariant. -/
theorem Step.lock_inv (h : Step sha256 s l t) {lock : CompassLock}
    (hlock : lock.Inv s.alive)
    (hseen : ∀ c, 0 < lock.shared c ∨ 0 < lock.exclusive c → c ∈ s.seen) : lock.Inv t.alive where
  keyedReaders := hlock.keyedReaders
  keyedWriters := hlock.keyedWriters
  exclusion {c d} hc hd hpos hne := by
    have hc' := h.live_of_seen (hseen c (Or.inr hpos)) (Server.alive_iff.mp hc)
    by_cases hd' : d ∈ s.seen
    · exact hlock.exclusion (Server.alive_iff.mpr hc')
        (Server.alive_iff.mpr (h.live_of_seen hd' (Server.alive_iff.mp hd))) hpos hne
    · constructor
      · by_contra hs
        exact hd' (hseen d (Or.inl (Nat.pos_of_ne_zero hs)))
      · by_contra hx
        exact hd' (hseen d (Or.inr (Nat.pos_of_ne_zero hx)))

/-- **Every step keeps the invariant.** -/
theorem Step.inv (hinv : s.Inv) (h : Step sha256 s l t) : t.Inv := by
  refine ⟨(h.repository_compass hinv).1, ?_, ?_, fun k => ?_, fun k c hc => ?_⟩
  · intro d hd
    rcases h.live_cases with ⟨hseen, hlive⟩ | ⟨c, -, -, -, hseen, hlive⟩
    · exact hseen ▸ hinv.liveSeen d (hlive d hd)
    · rw [hlive] at hd
      rw [hseen]
      rcases List.mem_cons.mp hd with rfl | hd
      · exact List.mem_cons_self
      · exact List.mem_cons_of_mem c (hinv.liveSeen d hd)
  · intro d e hd he heq
    rw [Server.alive_iff] at hd he
    rcases h.live_cases with ⟨-, hlive⟩ | ⟨c, -, -, hnew, -, hlive⟩
    · exact hinv.distinct d e (Server.alive_iff.mpr (hlive d hd))
        (Server.alive_iff.mpr (hlive e he)) heq
    · rw [hlive] at hd he
      rcases List.mem_cons.mp hd with rfl | hd' <;> rcases List.mem_cons.mp he with rfl | he'
      · rfl
      · exact absurd heq.symm (hnew e he')
      · exact absurd heq (hnew d hd')
      · exact hinv.distinct d e (Server.alive_iff.mpr hd') (Server.alive_iff.mpr he') heq
  · have hold : (s.compass k).lock.Inv t.alive := h.lock_inv (hinv.locks k) (hinv.holders k)
    cases h.compass hinv k with
    | access a q ha hk hc hr hh ht => exact ht.lock ▸ hh.inv
    | addWatch c req w he hk hr hs ht =>
      rw [ht.lock, Server.addWatchServlet_compass]
      exact hold
    | removeWatch c ntfy he hk hs ht => exact ht.lock ▸ hold
    | collected _ _ _ _ _ _ _ ht =>
      rw [ht]
      exact CompassLock.inv_empty _
    | kept hk ht => exact ht ▸ hold
  · have hold : 0 < (s.compass k).lock.shared c ∨ 0 < (s.compass k).lock.exclusive c →
        c ∈ t.seen := fun h' => h.seen_of_seen (hinv.holders k c h')
    cases h.compass hinv k with
    | access a q ha hk hc' hr hh ht =>
      rw [ht.lock] at hc
      by_cases hac : c = a.connection
      · exact h.seen_of_seen (hinv.liveSeen c (hac ▸ hc'.1))
      · obtain ⟨hs, hx⟩ := hh.changed.others c hac
        exact hold (hc.imp (fun h => h.trans_le hs) fun h => h.trans_le hx)
    | addWatch d req w he hk hr hs ht =>
      rw [ht.lock, Server.addWatchServlet_compass] at hc
      exact hold hc
    | removeWatch d ntfy he hk hs ht => exact hold (ht.lock ▸ hc)
    | collected _ _ _ _ _ _ _ ht =>
      rw [ht] at hc
      simp [Compass.create, CompassLock.empty, CompassLock.shared, CompassLock.exclusive] at hc
    | kept hk ht => exact hold (ht ▸ hc)

end Steps

/-- **The invariant holds after every run.** -/
theorem Server.inv_of_run {sha256 : Bytes → Sha256} {s t : Server} {ls : List Label}
    (hs : s.Inv) (h : Lts.Run (Step sha256) s ls t) : t.Inv :=
  h.invariant (fun hinv hstep => hstep.inv hinv) hs

end Circe.Pilot
