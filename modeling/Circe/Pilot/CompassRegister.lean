import Circe.Foundations.VersionedRegister
import Circe.Pilot.ServerSteps

/-!
# Pilot/CompassRegister — a compass is an atomic versioned register

Whatever the locks let through, the value and the version of a compass move as a register's do: a
reply reports them as they were, and the request wrote what the reply says or nothing
(`Label.Responds`).
-/

namespace Circe.Pilot

open Protocol.Pilot

/-- The register a compass implements. -/
def Compass.register (p : Compass) : Register Bytes := ⟨p.getValue, p.getVersion⟩

def Server.register (s : Server) (k : CompassKey) : Register Bytes := (s.compass k).register

/-- **A request writes its value to the register**, or none. -/
theorem Handled.register {fin shut : Alive} {c : Connection} {grant : ℤ × ℤ}
    {written : Option Bytes} {p p' : Compass} {sent : List Sent}
    (h : Handled fin shut c grant written p p' sent) : p'.register = p.register.write written := by
  rw [Compass.register, Compass.getValue, Compass.getVersion, h.dao]
  cases written with
  | none => rfl
  | some v => simp [Compass.daoAfter, Compass.register]

theorem Compass.Touched.register {p q : Compass} (h : p.Touched q) : q.register = p.register := by
  rw [Compass.register, h.getValue, h.getVersion, Compass.register]

/-- The compass of `k` stays in the repository. -/
def KeepsCompass (k : CompassKey) (s : Server) : Event → Prop
  | .gcTimer utcNow expiryDuration =>
    ∀ e ∈ s.repository.container, e.compassKey = k →
      ¬ e.lastAccessTime ≤ CompassRepository.expiryTime utcNow expiryDuration
  | _ => True

instance (k : CompassKey) (s : Server) : DecidablePred (KeepsCompass k s)
  | .gcTimer .. => inferInstanceAs (Decidable (∀ e ∈ s.repository.container, _ → ¬ _))
  | .connect _ | .shutdown _ | .die _ | .compareExchange .. | .exchange .. | .addWatch ..
  | .removeWatch .. => inferInstanceAs (Decidable True)

/-- **What a reply promises about the register of `k`**: the value and version just before the
request, and the write of the first criterion that matched, of an exchange, or no write at all. -/
def Label.Responds (sha256 : Bytes → Sha256) (l : Label) (k : CompassKey)
    (before after : Register Bytes) : Prop :=
  if l.event.compassKey sha256 = some k then
    match l.event, l.reply with
    | .compareExchange _ req _ _, .compareExchange (.ok resp) =>
      resp.valueOld = before.value ∧ resp.versionOld = before.version ∧
        if resp.succeeded = true ∧ resp.criterionIndex < req.criteria.length then
          ∃ criterion, req.criteria[resp.criterionIndex]? = some criterion ∧
            criterion.valueCmp = resp.valueOld ∧
            (∀ i < resp.criterionIndex, ∀ earlier, req.criteria[i]? = some earlier →
              earlier.valueCmp ≠ resp.valueOld) ∧
            after = ⟨criterion.valueNew, before.version + 1⟩
        else after = before
    | .exchange _ req _ _, .exchange (.ok resp) =>
      resp.valueOld = before.value ∧ resp.versionOld = before.version ∧
        after = if resp.succeeded then ⟨req.valueNew, before.version + 1⟩ else before
    | _, _ => after = before
  else after = before

section Steps

variable {sha256 : Bytes → Sha256} {s t : Server} {l : Label} {k : CompassKey}

theorem Label.written_of_access {a : Access} (ha : l.access sha256 = some a)
    (hk : a.compassKey = k) : l.written sha256 k = a.written := by
  rw [Label.written, ha, Option.bind_some, if_pos hk]

theorem Label.written_of_off (h : l.event.compassKey sha256 ≠ some k) :
    l.written sha256 k = none := by
  cases ha : l.access sha256 with
  | none => rw [Label.written, ha, Option.bind_none]
  | some a =>
    rw [Label.written, ha, Option.bind_some, if_neg]
    rintro rfl
    exact h (Label.compassKey_of_access ha)

/-- **The register moves by what was written**, whatever the step. -/
theorem Step.register (hinv : s.Inv) (h : Step sha256 s l t) (hkeeps : KeepsCompass k s l.event) :
    t.register k = (s.register k).write (l.written sha256 k) := by
  cases h.compass hinv k with
  | access a q ha hk hc hr hh ht =>
    rw [Server.register, ht.register, hh.register, Label.written_of_access ha hk]
    rfl
  | addWatch c req w he hk hr hs ht =>
    rw [Server.register, ht.register, Server.addWatchServlet_compass]
    simp only [Label.written, Label.access, he]
    rfl
  | removeWatch c ntfy he hk hs ht =>
    rw [Server.register, ht.register]
    simp only [Label.written, Label.access, he]
    rfl
  | collected utcNow expiryDuration he e hmem hobject htime ht =>
    rw [he] at hkeeps
    refine absurd htime (hkeeps e hmem ?_)
    rw [hinv.repository.truthful e hmem]
    exact (congrArg Compass.compassKey hobject).trans (hinv.repository.compassKey_compass k)
  | kept hk ht =>
    rw [Server.register, ht, Label.written_of_off hk]
    rfl

/-- A response reports the register as it was. -/
theorem Step.reported (hinv : s.Inv) (h : Step sha256 s l t) {r : Bytes × UInt64}
    (hr : l.reported sha256 k = some r) :
    r = ((s.register k).value, (s.register k).version) := by
  cases ha : l.access sha256 with
  | none => simp [Label.reported, ha] at hr
  | some a =>
    rw [Label.reported, ha, Option.bind_some] at hr
    by_cases hk : a.compassKey = k
    · rw [if_pos hk] at hr
      cases h.compass hinv k with
      | access a' q ha' _ _ hreport _ _ =>
        obtain rfl : a = a' := Option.some.inj (ha.symm.trans ha')
        exact hreport r hr
      | addWatch c req w he => simp [Label.access, he] at ha
      | removeWatch c ntfy he => simp [Label.access, he] at ha
      | collected _ _ he => simp [Label.access, he] at ha
      | kept hoff => exact absurd (hk ▸ Label.compassKey_of_access ha) hoff
    · simp [hk] at hr

/-- **Every step keeps what its reply promises.** -/
theorem Step.responds (hinv : s.Inv) (h : Step sha256 s l t) (hkeeps : KeepsCompass k s l.event) :
    l.Responds sha256 k (s.register k) (t.register k) := by
  have hmove := h.register hinv hkeeps
  unfold Label.Responds
  split
  case isFalse hoff => rw [hmove, Label.written_of_off hoff, Register.write_none]
  case isTrue hon =>
    split
    case h_1 c req utcNow deaths resp he hreply =>
      have hk : .fromHashOf sha256 req.key = k := by simpa [he, Event.compassKey] using hon
      subst hk
      obtain ⟨o, ho, hreply', hran⟩ := h.compareExchange hinv he
      have hres : o.result = .ok resp := by
        rw [hreply] at hreply'
        exact (Reply.compareExchange.inj hreply').symm
      rcases compareExchangeServlet_spec t.alive s.shut hran.ok hran.survivors
        (hinv.lock_aliveDuring _ deaths) req ho with
        ⟨e, herr, -⟩ | ⟨r, _, hok, -, hvalue, hversion, hindex, -⟩
      · rw [hres] at herr
        cases herr
      obtain rfl : resp = r := Except.ok.inj (hres.symm.trans hok)
      have hwritten : l.written sha256 (.fromHashOf sha256 req.key)
          = if resp.succeeded then req.criteria[resp.criterionIndex]?.map Criterion.valueNew
            else none := by
        simp only [Label.written, Label.access, he, hreply, Option.bind_some, if_true]
      rw [hmove, hwritten]
      refine ⟨hvalue, hversion, ?_⟩
      split
      case isTrue hmatch =>
        obtain ⟨hsucceeded, hlt⟩ := hmatch
        have hget := List.getElem?_eq_getElem hlt
        refine ⟨_, hget, ?_, fun i hi earlier hearlier => ?_, ?_⟩
        · have hlt' := hlt
          rw [hindex] at hlt'
          have := List.findIdx_getElem (w := hlt')
          simp only [decide_eq_true_eq, ← hindex] at this
          rw [hvalue]
          exact this
        · rw [hindex] at hi
          have := List.not_of_lt_findIdx hi
          obtain ⟨hi', rfl⟩ := List.getElem?_eq_some_iff.mp hearlier
          rw [hvalue]
          simpa using this
        · rw [if_pos hsucceeded, hget]
          rfl
      case isFalse hmiss =>
        by_cases hsucceeded : resp.succeeded = true
        · have hge : req.criteria.length ≤ resp.criterionIndex := by
            by_contra hlt
            exact hmiss ⟨hsucceeded, by omega⟩
          rw [if_pos hsucceeded, List.getElem?_eq_none hge]
          rfl
        · rw [if_neg hsucceeded, Register.write_none]
    case h_2 c req utcNow deaths resp he hreply =>
      have hk : .fromHashOf sha256 req.key = k := by simpa [he, Event.compassKey] using hon
      subst hk
      have hwritten : l.written sha256 (.fromHashOf sha256 req.key)
          = if resp.succeeded then some req.valueNew else none := by
        simp only [Label.written, Label.access, he, hreply, Option.bind_some, if_true]
      have hreported : l.reported sha256 (.fromHashOf sha256 req.key)
          = some (resp.valueOld, resp.versionOld) := by
        simp only [Label.reported, Label.access, he, hreply, Option.bind_some, if_true]
      obtain ⟨hvalue, hversion⟩ := Prod.mk.inj (h.reported hinv hreported)
      refine ⟨hvalue, hversion, ?_⟩
      rw [hmove, hwritten]
      cases resp.succeeded <;> rfl
    case h_3 hnotCompare hnotExchange =>
      have hwritten : l.written sha256 k = none := by
        unfold Label.written Label.access
        split
        case h_1 he hreply => exact absurd hreply (hnotCompare _ _ _ _ _ he)
        case h_3 he hreply => exact absurd hreply (hnotExchange _ _ _ _ _ he)
        all_goals simp
      rw [hmove, hwritten, Register.write_none]

end Steps

/-! ## Whole runs -/

section Runs

variable {sha256 : Bytes → Sha256} {s t : Server} {k : CompassKey} {ls : List Label}

/-- The steps after which the compass of `k` is still there. -/
abbrev KeepsStep (sha256 : Bytes → Sha256) (k : CompassKey) : Server → Label → Server → Prop :=
  Lts.Guarded (Step sha256) fun s l => KeepsCompass k s l.event

/-- **The register after a run is the replay of its writes.** -/
theorem Server.register_of_run (hs : s.Inv) (h : Lts.Run (KeepsStep sha256 k) s ls t) :
    t.register k = (s.register k).replay (ls.map fun l => l.written sha256 k) := by
  induction h with
  | nil => rfl
  | snoc hpre hlast ih =>
    rw [hlast.2.register (Server.inv_of_run hs hpre.of_guarded) hlast.1, ih, List.map_append,
      Register.replay_append]
    rfl

/-- What a response reports is the register after some of the run's writes. -/
theorem Server.reported_of_run (hs : s.Inv) (h : Lts.Run (KeepsStep sha256 k) s ls t) {l : Label}
    (hl : l ∈ ls) {x : Bytes × UInt64} (hx : l.reported sha256 k = some x) :
    ∃ ws, ws <+: ls.map (fun l => l.written sha256 k) ∧
      x = (((s.register k).replay ws).value, ((s.register k).replay ws).version) := by
  obtain ⟨ls₁, ls₂, rfl⟩ := List.append_of_mem hl
  obtain ⟨u, v, hpre, hstep, -⟩ := h.split
  refine ⟨ls₁.map fun l => l.written sha256 k, ?_, ?_⟩
  · rw [List.map_append]
    exact List.prefix_append _ _
  · rw [← Server.register_of_run hs hpre]
    exact hstep.2.reported (Server.inv_of_run hs hpre.of_guarded) hx

/-- **Compare-exchange is an atomic versioned register.**  While the compass of `k` stays and fewer
than `2 ^ 64` writes reach it, every reply keeps its promise, the version grows by one with each
write, and replies that report the same version report the same value. -/
theorem compass_register {s₀ : Server} {pre : List Label} (hstarted : s₀.Started)
    (hpre : Lts.Run (Step sha256) s₀ pre s) (hrun : Lts.Run (KeepsStep sha256 k) s ls t)
    (hwrites : Register.writes (ls.map fun l => l.written sha256 k) < 2 ^ 64) :
    (∀ ls₁ l ls₂, ls = ls₁ ++ l :: ls₂ → ∃ u v, Lts.Run (KeepsStep sha256 k) s ls₁ u ∧
        Step sha256 u l v ∧ Lts.Run (KeepsStep sha256 k) v ls₂ t ∧
        l.Responds sha256 k (u.register k) (v.register k) ∧
        ((s.register k).version.toNat + Register.writes (ls.map fun l => l.written sha256 k)
            < 2 ^ 64 → (l.written sha256 k).isSome →
          (v.register k).version.toNat = (u.register k).version.toNat + 1)) ∧
      ∀ l ∈ ls, ∀ m ∈ ls, ∀ x y, l.reported sha256 k = some x → m.reported sha256 k = some y →
        x.2 = y.2 → x.1 = y.1 := by
  have hs := Server.inv_of_run hstarted.inv hpre
  constructor
  · rintro ls₁ l ls₂ rfl
    obtain ⟨u, v, hpre', hstep, hpost⟩ := hrun.split
    have hu := Server.inv_of_run hs hpre'.of_guarded
    refine ⟨u, v, hpre', hstep.2, hpost, hstep.2.responds hu hstep.1, fun hroom hsome => ?_⟩
    have hcount : Register.writes ((ls₁ ++ [l]).map fun l => l.written sha256 k)
        = Register.writes (ls₁.map fun l => l.written sha256 k) + 1 := by
      rw [List.map_append, Register.writes_append]
      simp [Register.writes, hsome]
    have hle : Register.writes ((ls₁ ++ [l]).map fun l => l.written sha256 k)
        ≤ Register.writes ((ls₁ ++ l :: ls₂).map fun l => l.written sha256 k) := by
      refine (Nat.le_add_right _ (Register.writes (ls₂.map fun l => l.written sha256 k))).trans ?_
      rw [← Register.writes_append, ← List.map_append, List.append_cons ls₁ l ls₂]
    rw [Server.register_of_run hs hpre', Server.register_of_run hs (hpre'.snoc hstep),
      Register.toNat_version_replay (by omega), Register.toNat_version_replay (by omega), hcount,
      Nat.add_assoc]
  · intro l hl m hm x y hx hy hversion
    obtain ⟨ws₁, hpre₁, rfl⟩ := Server.reported_of_run hs hrun hl hx
    obtain ⟨ws₂, hpre₂, rfl⟩ := Server.reported_of_run hs hrun hm hy
    exact congrArg Register.value (Register.replay_eq_of_prefix hwrites hpre₁ hpre₂ hversion)

/-- A write, a tick and a compare-exchange on the empty key. -/
def registerTrial : List Event :=
  [.exchange ⟨0, 1⟩ ⟨[], [1], 0⟩ 1500000000000 [], .gcTimer 1500000060000 86400000]

def registerTrialLast : Event := .compareExchange ⟨0, 1⟩ ⟨[], [⟨[1], [2]⟩], 0⟩ 1500000060000 []

/-- The server `registerTrial` starts at, its one connection there. -/
def registerTrialStart : Server := (emptyServer.perform emptySha256 (.connect ⟨0, 1⟩)).2

theorem compass_register_trial :
    ∃ u v : Server, Lts.Run (KeepsStep emptySha256 (.fromHashOf emptySha256 [])) registerTrialStart
        (registerTrialStart.labels emptySha256 registerTrial) u ∧
      (((registerTrialStart.after emptySha256 registerTrial).perform emptySha256
        registerTrialLast).1).Responds emptySha256 (.fromHashOf emptySha256 [])
          (u.register (.fromHashOf emptySha256 [])) (v.register (.fromHashOf emptySha256 [])) := by
  have hconnect : emptyServer.Admits (.connect ⟨0, 1⟩) := by decide
  have hpre : Lts.Run (Step emptySha256) emptyServer _ registerTrialStart :=
    .single (Server.step_perform hconnect)
  have hrun := Server.run_labels emptySha256 (KeepsCompass (.fromHashOf emptySha256 []))
    registerTrialStart registerTrial registerTrialLast [] (by decide +kernel)
  obtain ⟨u, v, hu, -, -, _, -⟩ :=
    (compass_register emptyServer_started hpre hrun (by decide +kernel)).1 _ _ _ rfl
  refine ⟨u, v, hu, ?_⟩
  assumption

end Runs

end Circe.Pilot
