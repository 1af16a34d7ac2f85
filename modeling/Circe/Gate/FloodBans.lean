import Circe.Gate.IpBanList
import Mathlib.Data.List.Induction

/-!
# Gate/FloodBans — bans of addresses that go on calling

The calls on a ban list, one after the other, each with the time its clock shows.  A ban is kept by
the calls of other addresses, but a counter that reaches its maximum bans its address anew, from now
on and for the configured duration: a longer ban is cut short by it (`neverShortened_iff`).
-/

namespace Circe.Gate

/-! ## Calls -/

/-- An accumulating call, with the configuration it meets. -/
structure AccumulateCall where
  config : Config
  now : ℕ
  ip : Bytes
  counter : Counter
deriving DecidableEq

/-- A call that changes the list. -/
inductive BanCall
  | accumulate (call : AccumulateCall)
  | setBanTimeRemaining (now : ℕ) (ip : Bytes) (timeRemaining : ℕ)
  | removeBan (ip : Bytes)
deriving DecidableEq

/-- The configured maximum of a counter. -/
def Config.counterValueMax (config : Config) : Counter → ℕ
  | .httpRequest => config.clientHttpMaxRequestsPerMinuteByIp
  | .websocketRequest => config.clientWebsocketMaxRequestsPerMinuteByIp
  | .authFailure => config.clientGenericMaxAuthFailureCountPerMinuteByIp

namespace IpContainer

def call (bans : IpContainer) (c : AccumulateCall) : Accumulated × IpContainer :=
  bans.accumulate c.config c.now c.ip c.counter

def perform (bans : IpContainer) : BanCall → IpContainer
  | .accumulate c => (bans.call c).2
  | .setBanTimeRemaining now ip timeRemaining => bans.setBanTimeRemaining now ip timeRemaining
  | .removeBan ip => (bans.removeBan ip).2

/-- The list after some accumulating calls. -/
def calls (bans : IpContainer) (cs : List AccumulateCall) : IpContainer :=
  cs.foldl (fun bans c => (bans.call c).2) bans

variable {bans : IpContainer} {c : AccumulateCall} {ip : Bytes}

theorem call_eq (bans : IpContainer) (c : AccumulateCall) : bans.call c
    = accumulateAndCheckBan c.config bans c.now c.ip c.counter
      (c.config.counterValueMax c.counter) := by
  unfold call accumulate
  cases c.counter <;> rfl

theorem calls_concat (bans : IpContainer) (cs : List AccumulateCall) (c : AccumulateCall) :
    bans.calls (cs ++ [c]) = ((bans.calls cs).call c).2 := by
  rw [calls, List.foldl_append, List.foldl_cons, List.foldl_nil, calls]

/-- A call counts for its own address. -/
theorem counted_call (bans : IpContainer) (c : AccumulateCall) :
    ∃ elem, Counted c.config c.now c.counter (c.config.counterValueMax c.counter)
        (bans.elementAt c.now c.ip) (bans.call c).1 elem ∧
      (bans.call c).2.find? c.ip = some elem := by
  rw [call_eq]
  exact counted_accumulateAndCheckBan ..

/-- A call keeps of the other addresses what has not expired. -/
theorem find?_call_of_ne (h : ip ≠ c.ip) :
    (bans.call c).2.find? ip
      = (bans.find? ip).filter fun elem => !decide (elem.expiryTime ≤ c.now) := by
  rw [call_eq]
  exact find?_accumulateAndCheckBan_of_ne h

theorem WellKept.call (h : bans.WellKept) : (bans.call c).2.WellKept := by
  rw [call_eq]
  exact h.accumulateAndCheckBan

theorem WellKept.perform (h : bans.WellKept) (c : BanCall) : (bans.perform c).WellKept := by
  cases c with
  | accumulate c => exact h.call
  | setBanTimeRemaining now ip timeRemaining => exact h.setBanTimeRemaining timeRemaining
  | removeBan ip => exact h.removeBan

/-- **Every ban list is well kept.** -/
theorem wellKept_of_history (history : List BanCall) :
    WellKept (history.foldl perform FlatMap.empty) := by
  induction history using List.reverseRecOn with
  | nil => exact fun ip elem h => by cases h
  | append_singleton history c ih =>
    rw [List.foldl_append]
    exact ih.perform c

theorem WellKept.calls (h : bans.WellKept) (cs : List AccumulateCall) :
    (bans.calls cs).WellKept := by
  induction cs using List.reverseRecOn with
  | nil => exact h
  | append_singleton cs c ih =>
    rw [calls_concat]
    exact ih.call

end IpContainer

/-! ## A ban and the calls that follow -/

/-- **A ban is never shortened**: of `r` milliseconds remaining at `t`, at least those that are left
at `t'` remain then, after as many of the calls as were made by `t'`. -/
def NeverShortened (bans : IpContainer) (ip : Bytes) (t r : ℕ) (cs : List AccumulateCall) : Prop :=
  ∀ pre post, cs = pre ++ post → ∀ t', t ≤ t' → t' < t + r → (∀ c ∈ pre, c.now ≤ t') →
    r - (t' - t) ≤ (bans.calls pre).getBanTimeRemaining t' ip

/-- A call does not ban anew, for a shorter time, an address that is banned up to `banEnd`. -/
def Spares (bans : IpContainer) (ip : Bytes) (banEnd : ℕ) (c : AccumulateCall) : Prop :=
  c.ip = ip → c.now < banEnd → ∀ elem, bans.find? ip = some elem →
    elem.counters c.counter + 1 ≤ uint64Max →
    c.config.counterValueMax c.counter ≤ elem.counters c.counter + 1 →
      banEnd ≤ saturatedAdd c.now c.config.clientGenericAutoIpBanExpiryDuration

section Floods

variable {bans : IpContainer} {ip : Bytes} {t r banEnd : ℕ} {c : AccumulateCall}
  {cs : List AccumulateCall}

/-- The address is banned up to `banEnd` at least. -/
def BannedUntil (bans : IpContainer) (ip : Bytes) (banEnd : ℕ) : Prop :=
  ∃ elem, bans.find? ip = some elem ∧ banEnd ≤ elem.banExpiryTime

theorem BannedUntil.remaining (h : BannedUntil bans ip banEnd) (t' : ℕ) :
    banEnd - t' ≤ bans.getBanTimeRemaining t' ip := by
  obtain ⟨elem, hfind, hban⟩ := h
  rw [IpContainer.getBanTimeRemaining_of_find? hfind]
  exact Nat.sub_le_sub_right hban t'

/-- **A call that spares a ban keeps it.** -/
theorem BannedUntil.call (hkept : bans.WellKept) (h : BannedUntil bans ip banEnd)
    (hnow : c.now < banEnd) (hspares : Spares bans ip banEnd c) :
    BannedUntil (bans.call c).2 ip banEnd := by
  obtain ⟨elem, hfind, hban⟩ := h
  have hlive : c.now < elem.expiryTime := (hnow.trans_le hban).trans_le (hkept ip elem hfind)
  by_cases hself : ip = c.ip
  · subst hself
    obtain ⟨elem', hcounted, hfind'⟩ := bans.counted_call c
    rw [IpContainer.elementAt_of_find? hfind hlive] at hcounted
    refine ⟨elem', hfind', ?_⟩
    generalize (bans.call c).1 = result at hcounted
    cases hcounted with
    | overflow | returned => exact hban
    | excessFlood hfits hmax => exact hspares rfl hnow elem hfind hfits hmax
  · refine ⟨elem, ?_, hban⟩
    rw [IpContainer.find?_call_of_ne hself, hfind, Option.filter_some,
      if_pos (by simpa using hlive)]

/-- A call that does not spare a ban leaves less of it. -/
theorem remaining_of_not_spares (hkept : bans.WellKept) (h : BannedUntil bans ip banEnd)
    (hspares : ¬ Spares bans ip banEnd c) :
    c.now < banEnd ∧ (bans.call c).2.getBanTimeRemaining c.now ip < banEnd - c.now := by
  obtain ⟨elem, hfind, hban⟩ := h
  simp only [Spares, Classical.not_imp, not_forall] at hspares
  obtain ⟨rfl, hnow, elem', hfind', hfits, hmax, hshort⟩ := hspares
  obtain rfl : elem = elem' := Option.some_inj.mp (hfind.symm.trans hfind')
  have hlive : c.now < elem.expiryTime := (hnow.trans_le hban).trans_le (hkept c.ip elem hfind)
  obtain ⟨elem', hcounted, hcalled⟩ := bans.counted_call c
  rw [IpContainer.elementAt_of_find? hfind hlive] at hcounted
  refine ⟨hnow, ?_⟩
  rw [IpContainer.getBanTimeRemaining_of_find? hcalled]
  generalize (bans.call c).1 = result at hcounted
  cases hcounted with
  | overflow hover => exact absurd hfits (not_le.mpr hover)
  | returned _ hless => exact absurd hmax (not_le.mpr hless)
  | excessFlood =>
    have hlt := not_le.mp hshort
    change saturatedAdd c.now c.config.clientGenericAutoIpBanExpiryDuration - c.now < _
    omega

/-- Calls that spare a ban keep it as long as it lasts. -/
theorem BannedUntil.calls (hkept : bans.WellKept) (h : BannedUntil bans ip banEnd)
    (hnow : ∀ c ∈ cs, c.now < banEnd)
    (hspares : ∀ pre c post, cs = pre ++ c :: post → Spares (bans.calls pre) ip banEnd c) :
    BannedUntil (bans.calls cs) ip banEnd := by
  induction cs using List.reverseRecOn with
  | nil => exact h
  | append_singleton cs c ih =>
    rw [IpContainer.calls_concat]
    refine BannedUntil.call (hkept.calls cs) (ih (fun d hd => hnow d (List.mem_append_left _ hd))
      fun pre d post hcs => hspares pre d (post ++ [c]) (by simp [hcs])) (hnow c (by simp)) ?_
    exact hspares cs c [] rfl

end Floods

/-- **Flooding never shortens a ban exactly when no call bans anew for a shorter time.** -/
theorem neverShortened_iff (history : List BanCall) {bans : IpContainer}
    (hbans : history.foldl IpContainer.perform FlatMap.empty = bans) {ip : Bytes} {t r : ℕ}
    (hremaining : bans.getBanTimeRemaining t ip = r) (hpos : 0 < r) {cs : List AccumulateCall}
    (hclock : (t :: cs.map AccumulateCall.now).Pairwise (· ≤ ·)) :
    NeverShortened bans ip t r cs ↔
      ∀ pre c post, cs = pre ++ c :: post → Spares (bans.calls pre) ip (t + r) c := by
  have hkept : bans.WellKept := hbans ▸ IpContainer.wellKept_of_history history
  have hbanned : BannedUntil bans ip (t + r) := by
    rw [IpContainer.getBanTimeRemaining] at hremaining
    split at hremaining
    case h_1 => omega
    case h_2 elem hfind => exact ⟨elem, hfind, by omega⟩
  obtain ⟨hstart, hsorted⟩ := List.pairwise_cons.mp hclock
  have hstart (c : AccumulateCall) (hc : c ∈ cs) : t ≤ c.now := hstart _ (List.mem_map_of_mem hc)
  have hsorted := List.pairwise_map.mp hsorted
  constructor
  · intro h pre
    -- The first call that does not spare the ban would leave too little of it.
    induction hlength : pre.length using Nat.strong_induction_on generalizing pre with
    | _ n ih =>
      rintro c post rfl
      by_contra hnot
      have hnow : c.now < t + r := by
        by_contra hlate
        exact hnot fun _ hlt => absurd hlt hlate
      have hpre (d : AccumulateCall) (hd : d ∈ pre) : d.now ≤ c.now :=
        (List.pairwise_append.mp hsorted).2.2 d hd c List.mem_cons_self
      have hbefore := BannedUntil.calls hkept hbanned (fun d hd => (hpre d hd).trans_lt hnow)
        fun pre' d post' hpre' => ih pre'.length (by simp [← hlength, hpre']) pre' rfl d
          (post' ++ c :: post) (by simp [hpre'])
      obtain ⟨-, hless⟩ := remaining_of_not_spares (hkept.calls pre) hbefore hnot
      have hlate := hstart c (by simp)
      have hleft := h (pre ++ [c]) post (by simp) c.now hlate hnow
        fun d hd => (List.mem_append.mp hd).elim (hpre d) fun hd => by simp_all
      rw [IpContainer.calls_concat] at hleft
      omega
  · rintro hspares pre post rfl t' ht ht' hpre
    have hbefore := BannedUntil.calls hkept hbanned (fun c hc => (hpre c hc).trans_lt ht')
      fun pre' c post' hpre' => hspares pre' c (post' ++ post) (by simp [hpre'])
    have hleft := hbefore.remaining t'
    omega

/-! ## An hour, and a minute

An address is banned for an hour, and then fails to authenticate five times. -/

def hourBan : List BanCall := [.setBanTimeRemaining 0 (asciiBytes "203.0.113.7") 3600000]

def authFailures (banExpiryDuration : ℕ) : List AccumulateCall :=
  List.replicate 5 ⟨{ clientGenericAutoIpBanExpiryDuration := banExpiryDuration }, 1,
    asciiBytes "203.0.113.7", .authFailure⟩

/-- Of the hour a minute is left. -/
theorem not_neverShortened :
    (hourBan.foldl IpContainer.perform FlatMap.empty).getBanTimeRemaining 1
        (asciiBytes "203.0.113.7") = 3599999 ∧
      ¬ NeverShortened (hourBan.foldl IpContainer.perform FlatMap.empty) (asciiBytes "203.0.113.7")
        1 3599999 (authFailures 60000) := by
  refine ⟨by decide +kernel, fun h => ?_⟩
  have hleft := h (authFailures 60000) [] (List.append_nil _).symm 1 le_rfl (by decide)
    (by decide +kernel)
  exact absurd hleft (by decide +kernel)

theorem neverShortened_iff_trial :
    NeverShortened (hourBan.foldl IpContainer.perform FlatMap.empty) (asciiBytes "203.0.113.7")
      1 3599999 (authFailures 7200000) := by
  refine (neverShortened_iff hourBan rfl (by decide +kernel) (by decide) (by decide +kernel)).mpr ?_
  rintro pre c post hcs - - elem - - -
  obtain rfl : c = ⟨{ clientGenericAutoIpBanExpiryDuration := 7200000 }, 1,
      asciiBytes "203.0.113.7", .authFailure⟩ :=
    List.eq_of_mem_replicate (show c ∈ authFailures 7200000 by simp [hcs])
  decide

end Circe.Gate
