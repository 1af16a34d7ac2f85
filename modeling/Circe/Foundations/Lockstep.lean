import Mathlib.Data.List.Basic

/-!
# Foundations/Lockstep — stateful encoders and decoders over a FIFO channel

An encoder and a decoder are *in step* when what the one encodes next, the other decodes, and they
are in step again.  Between them, frames are on their way: `InTransit s r frames msgs` says that
from some encoder in step with `r`, sending `msgs` gave `frames` and ended in `s`.  So the decoder
reads exactly `msgs` from `frames`, in order (`InTransit.pop`), however the encoder goes on
(`InTransit.push`), and whatever either end does that the other direction is for (`InTransit.idle`,
`InTransit.idleReceiver`).
-/

/-- An encoder with states `S` and a decoder with states `R`, of messages `M` as frames `F`. -/
structure Lockstep (S R M F : Type*) where
  encode : S → M → Option (F × S)
  decode : R → F → Option (M × R)
  InStep : S → R → Prop
  /-- What an encoder may do without a frame. -/
  Idle : S → S → Prop
  /-- What a decoder may do without a frame. -/
  IdleReceiver : R → R → Prop
  decode_of_encode : ∀ {s s' r m f}, InStep s r → encode s m = some (f, s') →
    ∃ r', decode r f = some (m, r') ∧ InStep s' r'
  inStep_idle : ∀ {s s' r}, InStep s r → Idle s s' → InStep s' r
  inStep_idleReceiver : ∀ {s r r'}, InStep s r → IdleReceiver r r' → InStep s r'

namespace Lockstep

variable {S R M F : Type*} (L : Lockstep S R M F)

/-- From the state `s`, sending the messages gives the frames and ends in `t`. -/
inductive Emits : S → List F → List M → S → Prop
  | nil (s : S) : Emits s [] [] s
  | idle {s s' t : S} {fs : List F} {ms : List M} : L.Idle s s' → Emits s' fs ms t → Emits s fs ms t
  | send {s s' t : S} {m : M} {f : F} {fs : List F} {ms : List M} :
      L.encode s m = some (f, s') → Emits s' fs ms t → Emits s (f :: fs) (m :: ms) t

/-- The frames on their way from an encoder in state `s` to a decoder in state `r`, and the
messages in them. -/
def InTransit (s : S) (r : R) (fs : List F) (ms : List M) : Prop :=
  ∃ s₀, L.InStep s₀ r ∧ L.Emits s₀ fs ms s

variable {L} {s s' : S} {r r' : R} {fs : List F} {ms : List M} {m : M} {f : F}

theorem Emits.concat_idle (h : L.Emits s fs ms s') {t : S} (ht : L.Idle s' t) :
    L.Emits s fs ms t := by
  induction h with
  | nil => exact .idle ht (.nil t)
  | idle hs _ ih => exact .idle hs (ih ht)
  | send hs _ ih => exact .send hs (ih ht)

theorem Emits.concat_send (h : L.Emits s fs ms s') {t : S} (ht : L.encode s' m = some (f, t)) :
    L.Emits s (fs ++ [f]) (ms ++ [m]) t := by
  induction h with
  | nil => exact .send ht (.nil t)
  | idle hs _ ih => exact .idle hs (ih ht)
  | send hs _ ih => exact .send hs (ih ht)

namespace InTransit

/-- Nothing is on its way. -/
theorem nil (h : L.InStep s r) : L.InTransit s r [] [] := ⟨s, h, .nil s⟩

/-- **The encoder sends.** -/
theorem push (h : L.InTransit s r fs ms) (hs : L.encode s m = some (f, s')) :
    L.InTransit s' r (fs ++ [f]) (ms ++ [m]) := by
  obtain ⟨s₀, hstep, hemits⟩ := h
  exact ⟨s₀, hstep, hemits.concat_send hs⟩

theorem idle (h : L.InTransit s r fs ms) (hs : L.Idle s s') : L.InTransit s' r fs ms := by
  obtain ⟨s₀, hstep, hemits⟩ := h
  exact ⟨s₀, hstep, hemits.concat_idle hs⟩

theorem idleReceiver (h : L.InTransit s r fs ms) (hr : L.IdleReceiver r r') :
    L.InTransit s r' fs ms := by
  obtain ⟨s₀, hstep, hemits⟩ := h
  exact ⟨s₀, L.inStep_idleReceiver hstep hr, hemits⟩

/-- **The decoder reads the next message**, and the rest is still on its way. -/
theorem pop (h : L.InTransit s r (f :: fs) ms) :
    ∃ m ms' r', ms = m :: ms' ∧ L.decode r f = some (m, r') ∧ L.InTransit s r' fs ms' := by
  obtain ⟨s₀, hstep, hemits⟩ := h
  generalize hall : f :: fs = all at hemits
  induction hemits with
  | nil => cases hall
  | idle hs _ ih => exact ih (L.inStep_idle hstep hs) hall
  | send hs hrest _ =>
    cases hall
    obtain ⟨r', hdecode, hstep'⟩ := L.decode_of_encode hstep hs
    exact ⟨_, _, r', rfl, hdecode, _, hstep', hrest⟩

end InTransit

end Lockstep
