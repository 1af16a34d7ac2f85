import Mathlib.Data.List.Induction

/-!
# Foundations/Run — runs of a labelled transition system

A system is a relation `step s l t` between states, with a label on every step; `Run step s ls t`
performs the labels `ls` in order.  The rules a client uses:

* `Run.invariant` — what every step preserves holds after every run;
* `Run.historyInvariant` — the same for a property of the labels so far *and* the state;
* `Run.split` — any step of a run, with the run before it and the run after it;
* `Run.project` — a run of a system is a run of each of its parts;
* `Run.unique`, `Run.to_guarded`, `Run.guard_of_split` — runs of a deterministic step, runs whose
  steps are guarded;
* `Run.of_admits` — enabled events, executed, make a run.

`Guarded step G` keeps the steps whose source state and label satisfy `G`: the runs "whose steps all
meet the condition".
-/

namespace Lts

variable {σ ℓ : Type*}

/-- A finite run of `step`, growing at its end: a history is read from the left. -/
inductive Run (step : σ → ℓ → σ → Prop) : σ → List ℓ → σ → Prop
  | nil (s : σ) : Run step s [] s
  | snoc {s t u : σ} {ls : List ℓ} {l : ℓ} :
      Run step s ls t → step t l u → Run step s (ls ++ [l]) u

/-- The steps of `step` whose source state and label satisfy `G`. -/
def Guarded (step : σ → ℓ → σ → Prop) (G : σ → ℓ → Prop) (s : σ) (l : ℓ) (t : σ) : Prop :=
  G s l ∧ step s l t

namespace Run

variable {step : σ → ℓ → σ → Prop} {s t u : σ} {ls ms : List ℓ} {l : ℓ}

/-- One step is a run. -/
theorem single (h : step s l t) : Run step s [l] t := by
  simpa using (nil s).snoc h

theorem append (h₁ : Run step s ls t) (h₂ : Run step t ms u) : Run step s (ls ++ ms) u := by
  induction h₂ with
  | nil => simpa using h₁
  | snoc _ hstep ih =>
    rw [← List.append_assoc]
    exact ih.snoc hstep

theorem cons (h : step s l t) (h₂ : Run step t ls u) : Run step s (l :: ls) u :=
  (single h).append h₂

theorem of_nil (h : Run step s [] t) : s = t := by
  generalize hall : ([] : List ℓ) = all at h
  cases h with
  | nil => rfl
  | snoc _ _ => simp at hall

/-- The last step of a run. -/
theorem of_snoc (h : Run step s (ls ++ [l]) u) : ∃ t, Run step s ls t ∧ step t l u := by
  generalize hall : ls ++ [l] = all at h
  cases h with
  | nil => simp at hall
  | snoc hrun hstep =>
    obtain ⟨rfl, hl⟩ := List.append_inj' hall rfl
    obtain rfl := List.singleton_inj.mp hl
    exact ⟨_, hrun, hstep⟩

/-- **A run is cut wherever its labels are.** -/
theorem of_append (h : Run step s (ls ++ ms) u) : ∃ t, Run step s ls t ∧ Run step t ms u := by
  induction ms using List.reverseRecOn generalizing u with
  | nil => exact ⟨u, by simpa using h, nil u⟩
  | append_singleton ms m ih =>
    rw [← List.append_assoc] at h
    obtain ⟨t, hrun, hstep⟩ := of_snoc h
    obtain ⟨t', h₁, h₂⟩ := ih hrun
    exact ⟨t', h₁, h₂.snoc hstep⟩

/-- The first step of a run. -/
theorem of_cons (h : Run step s (l :: ls) u) : ∃ t, step s l t ∧ Run step t ls u := by
  have happ : Run step s ([l] ++ ls) u := h
  obtain ⟨t, h₁, h₂⟩ := of_append happ
  have hone : Run step s ([] ++ [l]) t := h₁
  obtain ⟨s', h₀, hstep⟩ := of_snoc hone
  obtain rfl := of_nil h₀
  exact ⟨t, hstep, h₂⟩

/-- **Any step of a run**, with the run before it and the run after it. -/
theorem split {pre post : List ℓ} (h : Run step s (pre ++ l :: post) u) :
    ∃ t t', Run step s pre t ∧ step t l t' ∧ Run step t' post u := by
  obtain ⟨t, hpre, hrest⟩ := of_append h
  obtain ⟨t', hstep, hpost⟩ := of_cons hrest
  exact ⟨t, t', hpre, hstep, hpost⟩

/-- Where a label says what its step does, it says what a run does. -/
theorem unique (hdet : ∀ {s l t t'}, step s l t → step s l t' → t = t') (h : Run step s ls t)
    (h' : Run step s ls u) : t = u := by
  induction h generalizing u with
  | nil => exact of_nil h'
  | snoc _ hl ih =>
    obtain ⟨t', hpre, hl'⟩ := of_snoc h'
    obtain rfl := ih hpre
    exact hdet hl hl'

/-- **The invariant rule**: what every step preserves holds after every run. -/
theorem invariant {I : σ → Prop} (hstep : ∀ {s l t}, I s → step s l t → I t)
    (h : Run step s ls t) (hs : I s) : I t := by
  induction h with
  | nil => exact hs
  | snoc _ hl ih => exact hstep ih hl

/-- **The history rule**: a property of the labels performed so far and of the state reached. -/
theorem historyInvariant {J : List ℓ → σ → Prop}
    (hstep : ∀ {ls s l t}, J ls s → step s l t → J (ls ++ [l]) t)
    (h : Run step s ls t) (hs : J [] s) : J ls t := by
  induction h with
  | nil => exact hs
  | snoc _ hl ih => exact hstep ih hl

/-- A weaker step relation has every run of the stronger one. -/
theorem mono {step' : σ → ℓ → σ → Prop} (hsub : ∀ {s l t}, step s l t → step' s l t)
    (h : Run step s ls t) : Run step' s ls t := by
  induction h with
  | nil => exact nil _
  | snoc _ hl ih => exact ih.snoc (hsub hl)

/-- **A part of a system runs on its own**: `view` is its state in that of the system, and `part`
the label it sees of a step, if it takes one. -/
theorem project {σ' ℓ' : Type*} {step' : σ' → ℓ' → σ' → Prop} (view : σ → σ')
    (part : ℓ → Option ℓ')
    (hpart : ∀ {s l t}, step s l t →
      (∃ m, part l = some m ∧ step' (view s) m (view t)) ∨ part l = none ∧ view t = view s)
    (h : Run step s ls t) : Run step' (view s) (ls.filterMap part) (view t) := by
  induction h with
  | nil => exact nil _
  | @snoc t u ls l _ hl ih =>
    rw [List.filterMap_append]
    rcases hpart hl with ⟨m, hm, hstep⟩ | ⟨hnone, hview⟩
    · rw [show [l].filterMap part = [m] by simp [hm]]
      exact ih.snoc hstep
    · rwa [show [l].filterMap part = [] by simp [hnone], List.append_nil, hview]

/-- Forgetting the guard. -/
theorem of_guarded {G : σ → ℓ → Prop} (h : Run (Guarded step G) s ls t) : Run step s ls t :=
  h.mono fun hl => hl.2

/-- A run whose every step satisfies the guard is a run of guarded steps. -/
theorem to_guarded {G : σ → ℓ → Prop} (h : Run step s ls u)
    (hG : ∀ pre l post, ls = pre ++ l :: post → ∀ t t', Run step s pre t → step t l t' → G t l) :
    Run (Guarded step G) s ls u := by
  induction h with
  | nil => exact nil _
  | @snoc t u ls m hpre hl ih =>
    refine (ih fun pre l post hls => hG pre l (post ++ [m]) (by simp [hls])).snoc ⟨?_, hl⟩
    exact hG ls m [] rfl t u hpre hl

/-- **The guard of a run holds where the run is**, of a step that its label determines. -/
theorem guard_of_split {G : σ → ℓ → Prop} {pre post : List ℓ}
    (h : Run (Guarded step G) s (pre ++ l :: post) u) (hpre : Run step s pre t)
    (hdet : ∀ {s l t t'}, step s l t → step s l t' → t = t') : G t l := by
  obtain ⟨t', -, hpre', ⟨hG, -⟩, -⟩ := h.split
  have hsame : t = t' := by
    refine unique ?_ hpre hpre'.of_guarded
    exact hdet
  exact hsame ▸ hG

end Run

/-! ## Systems that can be executed

`next s e` is the label and the state an event leads to. -/

section Execution

variable {ε : Type*} (next : σ → ε → ℓ × σ) (Enabled : σ → ε → Prop)

/-- The labels of a sequence of events. -/
def trace : σ → List ε → List ℓ
  | _, [] => []
  | s, e :: es => (next s e).1 :: trace (next s e).2 es

/-- The state a sequence of events leads to. -/
def final : σ → List ε → σ
  | s, [] => s
  | s, e :: es => final (next s e).2 es

/-- Every event of a sequence is enabled when it comes up. -/
def Admits : σ → List ε → Prop
  | _, [] => True
  | s, e :: es => Enabled s e ∧ Admits (next s e).2 es

instance decidableAdmits [∀ s, DecidablePred (Enabled s)] :
    ∀ s es, Decidable (Admits next Enabled s es)
  | _, [] => inferInstanceAs (Decidable True)
  | s, e :: es =>
    have := decidableAdmits (next s e).2 es
    inferInstanceAs (Decidable (Enabled s e ∧ Admits next Enabled (next s e).2 es))

/-- **Admitted events make a run.** -/
theorem Run.of_admits {step : σ → ℓ → σ → Prop}
    (hstep : ∀ {s e}, Enabled s e → step s (next s e).1 (next s e).2) (s : σ) (es : List ε)
    (h : Admits next Enabled s es) : Run step s (trace next s es) (final next s es) := by
  induction es generalizing s with
  | nil => exact .nil s
  | cons e es ih => exact .cons (hstep h.1) (ih _ h.2)

end Execution

end Lts
