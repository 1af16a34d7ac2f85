import Circe.Foundations.ExpiringStore
import Circe.Pilot.CompassRegister

/-!
# Pilot/StoreRefinement — a pilot server is a store that expires

What the compasses of a server hold makes an `ExpiringStore`: a compass that was written has a
register and a last access time.  Locks, watchers and connections decide which requests write; what
is stored is moved by the answered requests and the ticks of the garbage collector alone.

* `refines_store` — every run of a server is a run of the store, over all keys and all collections,
  and a response reports what the store reads;
* `kept_while_accessed` — a value is kept as long as somebody asks for it often enough.
-/

namespace Circe.Pilot

open Protocol.Pilot

/-- What the compasses hold. -/
def Server.store (s : Server) : ExpiringStore CompassKey Bytes := fun k =>
  (s.compass k).dao.map fun dao => ⟨⟨dao.value, dao.version⟩, dao.lastAccessTime⟩

/-- What a label does to the store.  A request that threw does nothing. -/
def Label.op (sha256 : Bytes → Sha256) (l : Label) : ExpiringStore.Op CompassKey Bytes :=
  match l.event, l.reply with
  | .compareExchange _ req utcNow _, .compareExchange (.ok resp) =>
    .access (.fromHashOf sha256 req.key)
      (if resp.succeeded then req.criteria[resp.criterionIndex]?.map Criterion.valueNew else none)
      utcNow
  | .exchange _ req utcNow _, .exchange (.ok resp) =>
    .access (.fromHashOf sha256 req.key) (if resp.succeeded then some req.valueNew else none) utcNow
  | .gcTimer utcNow expiryDuration, _ =>
    .collect (CompassRepository.expiryTime utcNow expiryDuration)
  | _, _ => .idle

section Steps

variable {sha256 : Bytes → Sha256} {s t : Server} {l : Label} {k : CompassKey}

theorem Server.store_congr (h : t.compass k = s.compass k) : t.store k = s.store k := by
  rw [store, store, h]

/-- The register of a key is what the store reads. -/
theorem Server.read_store (s : Server) (k : CompassKey) : s.store.read k = s.register k := by
  rw [ExpiringStore.read, store, register, Compass.register, Compass.getValue, Compass.getVersion]
  cases (s.compass k).dao <;> rfl

/-- What `runServlet` leaves of the compass it opened. -/
def Outcome.left {α : Type} (o : Outcome α) (touchAt : Option ℕ) : Compass :=
  match o.result, touchAt with
  | .ok _, some utcNow => o.compass.touch utcNow
  | _, _ => o.compass

/-- **A servlet that does not throw touches the compass**, where it is to; one that throws leaves it
as it is. -/
theorem Server.compass_runServlet {α : Type} (touchAt : Option ℕ) (f : Compass → Outcome α)
    (h : s.repository.Inv)
    (ht : t.repository = (runServlet k touchAt f s.repository).2.2)
    (hkey : (f (s.compass k)).compass.compassKey = (s.compass k).compassKey)
    (htime : (f (s.compass k)).compass.getLastAccessTime = (s.compass k).getLastAccessTime) :
    t.compass k = (f (s.compass k)).left touchAt := by
  obtain ⟨hget, hobject, -⟩ := h.openCompass_spec k
  have hinv := h.openCompass k
  have hcompass : t.compass k = t.repository.compass k := rfl
  rw [hcompass, ht]
  unfold runServlet
  generalize s.repository.openCompass k = opened at *
  obtain ⟨p, r⟩ := opened
  simp only at hget hobject hinv ⊢
  have hobject' : s.compass k = p.object := hobject.symm
  rw [hobject'] at hkey htime ⊢
  generalize f p.object = o at *
  have hput (c : Compass) (hc : c.compassKey = p.object.compassKey) :
      (r.put ⟨p.get, c⟩).compass k = c := by
    rw [CompassRepository.compass, hinv.getCompass_put (q := ⟨p.get, c⟩) hget rfl hc, if_pos rfl]
    rfl
  split
  case h_1 a utcNow hresult =>
    rw [hinv.updateLastAccessTime_store (q := ⟨p.get, o.compass⟩) hget rfl hkey htime]
    simp only [Outcome.left, hresult]
    exact hput _ hkey
  case h_2 hnone =>
    rw [hinv.store_eq_put (q := ⟨p.get, o.compass⟩) hget rfl hkey htime, Outcome.left]
    · exact hput _ hkey
    · exact hnone

/-- An answered request is an access. -/
theorem Server.store_access {q : Compass} {written : Option Bytes} {now : ℕ}
    (hdao : q.dao = (s.compass k).daoAfter written) (hself : t.compass k = q.touch now)
    (hothers : ∀ k', k' ≠ k → t.compass k' = s.compass k') :
    t.store = s.store.apply (.access k written now) := by
  have hk : t.store k = (q.dao.map fun dao => { dao with lastAccessTime := now }).map fun dao =>
      ⟨⟨dao.value, dao.version⟩, dao.lastAccessTime⟩ := by
    rw [store, hself, Compass.touch]
  funext k'
  by_cases hne : k' = k
  · subst hne
    rw [hk, hdao]
    cases written with
    | none =>
      rw [ExpiringStore.apply, Function.update_self, store]
      cases hold : (s.compass k').dao <;> simp [Compass.daoAfter, hold]
    | some v =>
      rw [ExpiringStore.apply, Function.update_self, Server.read_store]
      simp [Compass.daoAfter, register, Compass.register]
  · rw [store_congr (hothers k' hne), ExpiringStore.apply_access_of_ne (Ne.symm hne)]

/-- A request that threw, or only watches, stores nothing. -/
theorem Server.store_kept {q : Compass} (hdao : q.dao = (s.compass k).dao)
    (hself : t.compass k = q) (hothers : ∀ k', k' ≠ k → t.compass k' = s.compass k') :
    t.store = s.store := by
  funext k'
  by_cases hne : k' = k
  · subst hne
    rw [store, hself, hdao, store]
  · exact store_congr (hothers k' hne)

/-- **A request that was handled** is an access where it was answered, and nothing where it
threw. -/
theorem Server.store_handled {α : Type} {f : Compass → Outcome α} {o : Outcome α} (utcNow : ℕ)
    {fin shut : Alive} {c : Connection} {grant : ℤ × ℤ} {written : Option Bytes} {sent : List Sent}
    (ho : f (s.compass k) = o) (hinv : s.repository.Inv)
    (ht : t.repository = (runServlet k (some utcNow) f s.repository).2.2)
    (hothers : ∀ k', k' ≠ k → t.compass k' = s.compass k')
    (hh : Handled fin shut c grant written (s.compass k) o.compass sent) :
    match o.result with
    | .ok _ => t.store = s.store.apply (.access k written utcNow)
    | .error _ => written = none → t.store = s.store := by
  subst ho
  have hleft := compass_runServlet (some utcNow) f hinv ht hh.key hh.getLastAccessTime
  cases hresult : (f (s.compass k)).result with
  | ok a =>
    simp only [Outcome.left, hresult] at hleft
    exact store_access hh.dao hleft hothers
  | error e =>
    simp only [Outcome.left, hresult] at hleft
    rintro rfl
    exact store_kept hh.dao hleft hothers

/-- A request about watchers stores nothing. -/
theorem Server.store_watched {α : Type} {f : Compass → Outcome α} (hinv : s.repository.Inv)
    (ht : t.repository = (runServlet k none f s.repository).2.2)
    (hkey : (f (s.compass k)).compass.compassKey = (s.compass k).compassKey)
    (hdao : (f (s.compass k)).compass.dao = (s.compass k).dao) : t.store = s.store := by
  have htime : (f (s.compass k)).compass.getLastAccessTime = (s.compass k).getLastAccessTime := by
    rw [Compass.getLastAccessTime, hdao, Compass.getLastAccessTime]
  obtain ⟨-, -, -, -, hothers⟩ := runServlet_spec none f hinv ht hkey htime
  refine store_kept hdao ?_ hothers
  rw [compass_runServlet none f hinv ht hkey htime, Outcome.left]
  intro _ _ _ hnone
  cases hnone

/-- A tick of the garbage collector is a collection. -/
theorem Server.store_collected (hinv : s.repository.Inv) {utcNow expiryDuration : ℕ}
    (ht : t.repository = s.repository.gcTimerProc utcNow expiryDuration) :
    t.store
      = s.store.apply (.collect (CompassRepository.expiryTime utcNow expiryDuration)) := by
  funext k
  have hlookup := hinv.getCompass_gcTimerProc utcNow expiryDuration k
  have hafter : t.compass k
      = ((t.repository.getCompass k).map CompassPtr.object).getD (.create k) :=
    rfl
  have hbefore : s.compass k
      = ((s.repository.getCompass k).map CompassPtr.object).getD (.create k) := rfl
  rw [ht, hlookup] at hafter
  simp only [store, ExpiringStore.apply, hafter, hbefore]
  cases s.repository.getCompass k with
  | none => rfl
  | some p =>
    rw [Option.filter_some]
    cases hdao : p.object.dao with
    | none => split <;> simp [hdao, Compass.create]
    | some dao =>
      have htime : p.object.getLastAccessTime = dao.lastAccessTime := by
        rw [Compass.getLastAccessTime, hdao]
      by_cases hold : dao.lastAccessTime ≤ CompassRepository.expiryTime utcNow expiryDuration
      · simp [htime, hold, hdao, Compass.create, Option.filter_some]
      · simp [htime, hold, hdao, Option.filter_some]

/-- **A step moves the store as its label says.** -/
theorem Step.store (hinv : s.Inv) (h : Step sha256 s l t) :
    t.store = s.store.apply (l.op sha256) := by
  have ht : (s.perform sha256 l.event).2 = t := by rw [h.2.2]
  have hkept (hrepository : t.repository = s.repository) (hop : l.op sha256 = .idle) :
      t.store = s.store.apply (l.op sha256) := by
    rw [hop]
    funext k
    exact Server.store_congr (by rw [Server.compass, hrepository, Server.compass])
  cases he : l.event with
  | connect c => exact hkept (by rw [← ht, he]; rfl) (by simp only [Label.op, he])
  | shutdown c => exact hkept (by rw [← ht, he]; rfl) (by simp only [Label.op, he])
  | die c => exact hkept (by rw [← ht, he]; rfl) (by simp only [Label.op, he])
  | compareExchange c req utcNow deaths =>
    obtain ⟨o, ho, hreply, hran⟩ := h.compareExchange hinv he
    rcases compareExchangeServlet_spec t.alive s.shut hran.ok hran.survivors
      (hinv.lock_aliveDuring _ deaths) req ho with
      ⟨e, hresult, -, hh⟩ | ⟨r, grant, hresult, -, -, -, -, hh⟩
    all_goals
      have hstore := Server.store_handled utcNow ho hinv.repository
        (by rw [← ht, he]; rfl) hran.others hh
      simp only [hresult] at hstore
      simp only [Label.op, he, hreply, hresult]
    · exact hstore trivial
    · exact hstore
  | exchange c req utcNow deaths =>
    obtain ⟨o, ho, hreply, hran⟩ := h.exchange hinv he
    rcases exchangeServlet_spec t.alive s.shut hran.ok hran.survivors
      (hinv.lock_aliveDuring _ deaths) req ho with
      ⟨e, hresult, -, hh⟩ | ⟨r, grant, hresult, -, -, -, hh⟩
    all_goals
      have hstore := Server.store_handled utcNow ho hinv.repository
        (by rw [← ht, he]; rfl) hran.others hh
      simp only [hresult] at hstore
      simp only [Label.op, he, hreply, hresult]
    · exact hstore trivial
    · exact hstore
  | addWatch c req w =>
    simp only [Label.op, he]
    exact Server.store_watched hinv.repository (by rw [← ht, he]; rfl)
      (by rw [Server.addWatchServlet_compass]) (by rw [Server.addWatchServlet_compass])
  | removeWatch c ntfy =>
    simp only [Label.op, he]
    exact Server.store_watched (f := Server.removeWatchServlet ntfy.watcherUuid) hinv.repository
      (by rw [← ht, he]; rfl) rfl rfl
  | gcTimer utcNow expiryDuration =>
    simp only [Label.op, he]
    exact Server.store_collected hinv.repository (by rw [← ht, he]; rfl)

/-- What an operation writes is what the label says was written. -/
theorem writtenTo_op (l : Label) (k : CompassKey) :
    (l.op sha256).writtenTo k = l.written sha256 k := by
  obtain ⟨event, reply, sent⟩ := l
  cases event with
  | compareExchange c req utcNow deaths | exchange c req utcNow deaths =>
    cases reply with
    | compareExchange result | exchange result =>
      cases result <;>
        simp [Label.op, Label.written, Label.access, ExpiringStore.Op.writtenTo]
    | _ => rfl
  | _ => rfl

/-- **The clock does not go back**, and an access is made at the time it then shows. -/
theorem Step.utcNow (h : Step sha256 s l t) : s.utcNow ≤ t.utcNow ∧
    ∀ k written now, l.op sha256 = .access k written now → t.utcNow = now := by
  have ht : (s.perform sha256 l.event).2 = t := by rw [h.2.2]
  have henabled := h.2.1
  cases he : l.event with
  | compareExchange c req utcNow deaths =>
    have hnow : t.utcNow = utcNow := by rw [← ht, he]; rfl
    rw [he] at henabled
    refine ⟨hnow ▸ henabled.2.2, fun k written now hop => ?_⟩
    rw [hnow]
    unfold Label.op at hop
    split at hop <;> simp_all
  | exchange c req utcNow deaths =>
    have hnow : t.utcNow = utcNow := by rw [← ht, he]; rfl
    rw [he] at henabled
    refine ⟨hnow ▸ henabled.2.2, fun k written now hop => ?_⟩
    rw [hnow]
    unfold Label.op at hop
    split at hop <;> simp_all
  | gcTimer utcNow expiryDuration =>
    have hnow : t.utcNow = utcNow := by rw [← ht, he]; rfl
    rw [he] at henabled
    exact ⟨hnow ▸ henabled, fun k written now hop => by simp [Label.op, he] at hop⟩
  | _ =>
    have hnow : t.utcNow = s.utcNow := by rw [← ht, he]; rfl
    exact ⟨hnow.ge, fun k written now hop => by simp [Label.op, he] at hop⟩

end Steps

section Runs

variable {sha256 : Bytes → Sha256} {s t : Server} {ls : List Label} {k : CompassKey}

theorem Server.store_of_run (hs : s.Inv) (h : Lts.Run (Step sha256) s ls t) :
    t.store = s.store.run (ls.map (Label.op sha256)) := by
  induction h with
  | nil => rfl
  | snoc hpre hlast ih =>
    rw [hlast.store (inv_of_run hs hpre), ih, List.map_append, ExpiringStore.run_append]
    rfl

theorem Server.notBefore_of_run (h : Lts.Run (Step sha256) s ls t) :
    s.utcNow ≤ t.utcNow ∧ ∀ op ∈ ls.map (Label.op sha256), op.NotBefore s.utcNow := by
  induction h with
  | nil => exact ⟨le_rfl, by simp⟩
  | @snoc u v ls l hpre hlast ih =>
    obtain ⟨hle, hall⟩ := ih
    obtain ⟨hlater, hnow⟩ := hlast.utcNow
    refine ⟨hle.trans hlater, fun op hop => ?_⟩
    rw [List.map_append, List.mem_append] at hop
    rcases hop with hop | hop
    · exact hall op hop
    · rw [List.map_singleton, List.mem_singleton] at hop
      subst hop
      cases haccess : l.op sha256 with
      | access k written now => exact (hnow k written now haccess) ▸ hle.trans hlater
      | _ => trivial

/-- **A pilot server is a store that expires.**  Over all keys, requests and connections, and over
the ticks of the garbage collector, a server holds what the store holds after the operations of its
labels; and each answer is right about what the store read before it and reads after it. -/
theorem refines_store (hs : s.Started) (h : Lts.Run (Step sha256) s ls t) :
    t.store = s.store.run (ls.map (Label.op sha256)) ∧
      ∀ pre l post, ls = pre ++ l :: post → (∀ utcNow expiryDuration,
          l.event ≠ .gcTimer utcNow expiryDuration) → ∀ k,
        l.Responds sha256 k ((s.store.run (pre.map (Label.op sha256))).read k)
          ((s.store.run ((pre ++ [l]).map (Label.op sha256))).read k) := by
  refine ⟨Server.store_of_run hs.inv h, ?_⟩
  rintro pre l post rfl hgc k
  obtain ⟨u, v, hpre, hstep, -⟩ := h.split
  have hu := Server.inv_of_run hs.inv hpre
  have hkeeps : KeepsCompass k u l.event := by
    cases he : l.event with
    | gcTimer utcNow expiryDuration => exact absurd he (hgc utcNow expiryDuration)
    | _ => trivial
  rw [← Server.store_of_run hs.inv hpre, ← Server.store_of_run hs.inv (hpre.snoc hstep),
    Server.read_store, Server.read_store]
  exact hstep.responds hu hkeeps

/-- **A value is kept as long as somebody asks for it.**  Where every tick of the garbage collector
finds that an answered request on `k` came after its expiry time, the register of `k` is the replay
of all that was written to it. -/
theorem kept_while_accessed {s₀ : Server} {before : List Label} (hstarted : s₀.Started)
    (hbefore : Lts.Run (Step sha256) s₀ before s) (h : Lts.Run (Step sha256) s ls t)
    (hasked : ∀ pre gc post utcNow expiryDuration, ls = pre ++ gc :: post →
      gc.event = .gcTimer utcNow expiryDuration →
        ∃ l ∈ pre, ∃ written now, l.op sha256 = .access k written now ∧
          CompassRepository.expiryTime utcNow expiryDuration < now) :
    t.register k = (s.register k).replay (ls.map fun l => l.written sha256 k) := by
  have hs := Server.inv_of_run hstarted.inv hbefore
  have hwritten : (ls.map (Label.op sha256)).map (ExpiringStore.Op.writtenTo k)
      = ls.map fun l => l.written sha256 k := by
    rw [List.map_map]
    exact List.map_congr_left fun l _ => writtenTo_op l k
  rw [← Server.read_store, ← Server.read_store, Server.store_of_run hs h, ← hwritten]
  refine ExpiringStore.read_run fun pre op post hsplit => ?_
  obtain ⟨pre', rest, rfl, rfl, hrest⟩ := List.map_eq_append_iff.mp hsplit
  obtain ⟨gc, post', rfl, rfl, rfl⟩ := List.map_eq_cons_iff.mp hrest
  cases hevent : gc.event with
  | gcTimer utcNow expiryDuration =>
    obtain ⟨l, hl, written, now, haccess, hlate⟩ :=
      hasked pre' gc post' utcNow expiryDuration rfl hevent
    obtain ⟨pre₁, pre₂, rfl⟩ := List.append_of_mem hl
    obtain ⟨u, v, hpre, -, -⟩ := h.split
    obtain ⟨_, w, -, hstep, hlater⟩ := hpre.split
    have hop : gc.op sha256
        = .collect (CompassRepository.expiryTime utcNow expiryDuration) := by
      simp only [Label.op, hevent]
    rw [hop, List.map_append, List.map_cons, haccess]
    refine ExpiringStore.spares_of_accessed ?_ hlate
    exact hstep.utcNow.2 k written now haccess ▸ (Server.notBefore_of_run hlater).2
  | _ =>
    have hop (hnot : ∀ utcNow expiryDuration, gc.event ≠ .gcTimer utcNow expiryDuration) :
        (s.store.run (pre'.map (Label.op sha256))).Spares k (gc.op sha256) := by
      unfold Label.op
      split
      case h_3 hgc => exact absurd hgc (hnot _ _)
      all_goals trivial
    exact hop (by simp [hevent])

end Runs

/-! ## A value that is kept, and then forgotten -/

/-- Two writes, with a tick in between that comes early enough. -/
def keptTrial : List Event :=
  [.exchange ⟨0, 1⟩ ⟨[], [1], 0⟩ 1000 [], .gcTimer 1500 1000, .exchange ⟨0, 1⟩ ⟨[], [2], 0⟩ 2000 []]

/-- A tick that comes too late, and a third write. -/
def forgottenTrial : List Event :=
  [.gcTimer 4000 1000, .compareExchange ⟨0, 1⟩ ⟨[], [⟨[], [3]⟩], 0⟩ 4000 []]

theorem refines_store_trial :
    (Lts.final (Server.perform emptySha256) emptyServer
        (.connect ⟨0, 1⟩ :: keptTrial ++ forgottenTrial)).store
      = emptyServer.store.run ((Lts.trace (Server.perform emptySha256) emptyServer
          (.connect ⟨0, 1⟩ :: keptTrial ++ forgottenTrial)).map (Label.op emptySha256)) ∧
      (Lts.final (Server.perform emptySha256) emptyServer
        (.connect ⟨0, 1⟩ :: keptTrial ++ forgottenTrial)).store.read (.fromHashOf emptySha256 [])
        = ⟨[3], 1⟩ := by
  have hrun : Lts.Run (Step emptySha256) emptyServer _ _ :=
    Lts.Run.of_admits (Server.perform emptySha256) Server.Admits Server.step_perform emptyServer
      (.connect ⟨0, 1⟩ :: keptTrial ++ forgottenTrial) (by decide +kernel)
  exact ⟨(refines_store emptyServer_started hrun).1, by decide +kernel⟩

theorem kept_while_accessed_trial :
    (Lts.final (Server.perform emptySha256) registerTrialStart keptTrial).register
        (.fromHashOf emptySha256 [])
      = (registerTrialStart.register (.fromHashOf emptySha256 [])).replay
          ((Lts.trace (Server.perform emptySha256) registerTrialStart keptTrial).map
            fun l => l.written emptySha256 (.fromHashOf emptySha256 [])) ∧
      (Lts.final (Server.perform emptySha256) registerTrialStart keptTrial).register
        (.fromHashOf emptySha256 []) = ⟨[2], 2⟩ := by
  have hconnect : emptyServer.Admits (.connect ⟨0, 1⟩) := by decide
  have hpre : Lts.Run (Step emptySha256) emptyServer _ registerTrialStart :=
    .single (Server.step_perform hconnect)
  have hrun : Lts.Run (Step emptySha256) registerTrialStart _ _ :=
    Lts.Run.of_admits (Server.perform emptySha256) Server.Admits Server.step_perform
      registerTrialStart keptTrial (by decide +kernel)
  refine ⟨kept_while_accessed emptyServer_started hpre hrun ?_, by decide +kernel⟩
  intro pre gc post utcNow expiryDuration hsplit hgc
  simp only [keptTrial, Lts.trace] at hsplit
  match pre, hsplit with
  | [], hsplit =>
    rw [← (List.cons.inj hsplit).1, Server.event_perform] at hgc
    cases hgc
  | [l], hsplit =>
    obtain ⟨rfl, hrest⟩ := List.cons.inj hsplit
    rw [← (List.cons.inj hrest).1, Server.event_perform] at hgc
    obtain ⟨rfl, rfl⟩ := Event.gcTimer.inj hgc
    exact ⟨_, List.mem_singleton_self _, some [1], 1000, by decide +kernel, by decide⟩
  | [_, _], hsplit =>
    rw [← (List.cons.inj (List.cons.inj (List.cons.inj hsplit).2).2).1,
      Server.event_perform] at hgc
    cases hgc
  | _ :: _ :: _ :: rest, hsplit =>
    have hlength := congrArg List.length hsplit
    simp at hlength

end Circe.Pilot
