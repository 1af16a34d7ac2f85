import Circe.Gate.FloodBans

/-!
# Gate/RateLimit — how many calls of an address are let through

A counter begins with the first call of its address and lasts a minute, or as long as a ban.  So the
calls that return are at most `2 * (N - 1)` in any minute (`admitted_le`): two elements of an
address meet a minute, no more.  It is the fixed windows that a client has to keep below the maximum
for never being banned, and the maximum itself is too many (`neverBanned_iff`).
-/

namespace Circe.Gate

/-! ## The element of an address, as other calls leave it -/

namespace IpContainer

variable {bans : IpContainer} {c : AccumulateCall} {ip : Bytes} {elem : IpElement} {now : ℕ}

/-- A call makes no difference for the elements of the other addresses. -/
theorem elementAt_call_of_ne (h : ip ≠ c.ip) (hnow : c.now ≤ now) :
    (bans.call c).2.elementAt now ip = bans.elementAt now ip := by
  rw [elementAt, find?_call_of_ne h, elementAt, Option.filter_filter]
  congr 2
  funext elem
  by_cases hexpired : elem.expiryTime ≤ c.now
  · simp [hexpired, hexpired.trans hnow]
  · simp [hexpired]

/-- Only what has not expired can still ban. -/
theorem WellKept.getBanTimeRemaining_eq (h : bans.WellKept) (now : ℕ) (ip : Bytes) :
    bans.getBanTimeRemaining now ip = (bans.elementAt now ip).banExpiryTime - now := by
  cases hfind : bans.find? ip with
  | none =>
    rw [getBanTimeRemaining, hfind, elementAt_of_none hfind]
    exact (Nat.zero_sub now).symm
  | some elem =>
    rw [getBanTimeRemaining_of_find? hfind]
    rcases lt_or_ge now elem.expiryTime with hlive | hexpired
    · rw [elementAt_of_find? hfind hlive]
    · rw [elementAt_of_expired hfind hexpired]
      have hle := h ip elem hfind
      change elem.banExpiryTime - now = 0 - now
      omega

/-- The calls that return. -/
def admitted (bans : IpContainer) : List AccumulateCall → List AccumulateCall
  | [] => []
  | c :: cs =>
    if (bans.call c).1 = .returned then c :: admitted (bans.call c).2 cs
    else admitted (bans.call c).2 cs

theorem admitted_concat (bans : IpContainer) (cs : List AccumulateCall) (c : AccumulateCall) :
    bans.admitted (cs ++ [c]) = bans.admitted cs
      ++ if ((bans.calls cs).call c).1 = .returned then [c] else [] := by
  induction cs generalizing bans with
  | nil => rfl
  | cons d cs ih =>
    simp only [List.cons_append, admitted, ih, calls, List.foldl_cons]
    split <;> rfl

theorem mem_of_mem_admitted {cs : List AccumulateCall} (h : c ∈ bans.admitted cs) : c ∈ cs := by
  induction cs using List.reverseRecOn with
  | nil => exact h
  | append_singleton cs d ih =>
    rw [admitted_concat, List.mem_append] at h
    rcases h with h | h
    · exact List.mem_append_left _ (ih h)
    · split at h
      · exact List.mem_append_right _ h
      · cases h

end IpContainer

/-! ## Every minute -/

section Minutes

variable {bans : IpContainer} {ip : Bytes} {counter : Counter} {n now u : ℕ} {c : AccumulateCall}
  {cs : List AccumulateCall} {elem elem' : IpElement} {result : Accumulated}

/-- How many of the calls were made in the minute up to `u`. -/
def recent (ip : Bytes) (counter : Counter) (cs : List AccumulateCall) (u : ℕ) : ℕ :=
  cs.countP fun c => c.ip = ip ∧ c.counter = counter ∧ u < c.now + 60000

theorem recent_eq_zero (h : ∀ c ∈ cs, c.now + 60000 ≤ u) : recent ip counter cs u = 0 := by
  refine List.countP_eq_zero.mpr fun c hc => ?_
  have hle := h c hc
  simp only [decide_eq_true_eq, not_and, not_lt]
  exact fun _ _ => hle

theorem recent_concat_le (ip : Bytes) (counter : Counter) (cs : List AccumulateCall)
    (c : AccumulateCall) (u : ℕ) :
    recent ip counter (cs ++ [c]) u ≤ recent ip counter cs u + 1 := by
  rw [recent, List.countP_append]
  exact Nat.add_le_add_left (List.countP_le_length ..) _

theorem recent_concat_of_ne (h : ¬ (c.ip = ip ∧ c.counter = counter)) :
    recent ip counter (cs ++ [c]) = recent ip counter cs := by
  funext u
  rw [recent, List.countP_append, List.countP_singleton, if_neg (by simp; tauto)]
  rfl

/-- Of the calls that were recent, an element has counted all but `n - 1`, and after it has expired
there is nothing else that was. -/
structure Accounts (counter : Counter) (n : ℕ) (recent : ℕ → ℕ) (now : ℕ) (elem : IpElement) :
    Prop where
  total : ∀ u, now ≤ u → recent u ≤ (n - 1) + min (elem.counters counter) (n - 1)
  expired : ∀ u, now ≤ u → elem.expiryTime ≤ u → recent u ≤ min (elem.counters counter) (n - 1)

/-- An element that is new accounts for what is over in a minute. -/
theorem accounts_new (htotal : ∀ u, now ≤ u → recent ip counter cs u ≤ n - 1)
    (hcs : ∀ c ∈ cs, c.now ≤ now) (hfits : now + 60000 ≤ uint64Max) :
    Accounts counter n (recent ip counter cs) now (.new (saturatedAdd now 60000)) where
  total u hu := (htotal u hu).trans (Nat.le_add_right ..)
  expired u _ hexpired := by
    change min (now + 60000) uint64Max ≤ u at hexpired
    rw [min_eq_left hfits] at hexpired
    rw [recent_eq_zero fun c hc => (Nat.add_le_add_right (hcs c hc) _).trans hexpired]
    exact Nat.zero_le _

/-- **What a call counts, it accounts for.** -/
theorem Accounts.counted (h : Accounts counter n (recent ip counter cs) c.now elem)
    (hcs : ∀ d ∈ cs, d.now ≤ c.now)
    (hmax : c.counter = counter → c.config.counterValueMax counter = n)
    (hduration : 60000 ≤ c.config.clientGenericAutoIpBanExpiryDuration)
    (hfits : c.now + c.config.clientGenericAutoIpBanExpiryDuration ≤ uint64Max)
    (hcounted : IpContainer.Counted c.config c.now c.counter
    (c.config.counterValueMax c.counter) elem result
      elem') :
    Accounts counter n
      (recent ip counter (cs ++ if result = .returned then [c] else [])) c.now elem' := by
  have hcount : elem.counters counter ≤ (elem.count c.counter).counters counter := by
    by_cases heq : counter = c.counter
    · subst heq
      simp [IpElement.count]
    · simp [IpElement.count, heq]
  cases hcounted with
  | overflow => simpa using h
  | excessFlood =>
    -- The ban lasts a minute at least, and nothing is recent by then.
    rw [if_neg (by decide), List.append_nil]
    refine ⟨fun u hu => (h.total u hu).trans (by dsimp only; omega), fun u _ hexpired => ?_⟩
    change min (c.now + _) uint64Max ≤ u at hexpired
    rw [min_eq_left hfits] at hexpired
    rw [recent_eq_zero fun d hd => (by have := hcs d hd; omega)]
    exact Nat.zero_le _
  | returned _ hless =>
    rw [if_pos rfl]
    by_cases heq : c.counter = counter
    · subst heq
      rw [hmax rfl] at hless
      have hself : (elem.count c.counter).counters c.counter = elem.counters c.counter + 1 := by
        simp [IpElement.count]
      refine ⟨fun u hu => ?_, fun u hu hexpired => ?_⟩
      · have htotal := h.total u hu
        have hconcat := recent_concat_le ip c.counter cs c u
        omega
      · have htotal := h.expired u hu hexpired
        have hconcat := recent_concat_le ip c.counter cs c u
        omega
    · rw [recent_concat_of_ne fun hboth => heq hboth.2]
      exact ⟨fun u hu => (h.total u hu).trans (by omega),
        fun u hu hexpired => (h.expired u hu hexpired).trans (by omega)⟩

/-- **Every element accounts for what was recent**, whenever its address calls next. -/
theorem accounts_of_calls (ip : Bytes) (counter : Counter)
    (hclock : cs.Pairwise fun c d => c.now ≤ d.now)
    (hmax : ∀ c ∈ cs, c.counter = counter → c.config.counterValueMax counter = n)
    (hduration : ∀ c ∈ cs, 60000 ≤ c.config.clientGenericAutoIpBanExpiryDuration)
    (hfits : ∀ c ∈ cs, c.now + c.config.clientGenericAutoIpBanExpiryDuration ≤ uint64Max)
    (hcs : ∀ c ∈ cs, c.now ≤ now) (hnow : now + 60000 ≤ uint64Max) :
    Accounts counter n (recent ip counter (IpContainer.admitted FlatMap.empty cs)) now
      ((IpContainer.calls FlatMap.empty cs).elementAt now ip) := by
  induction cs using List.reverseRecOn generalizing now with
  | nil => exact accounts_new (fun u _ => Nat.zero_le _) (fun c hc => by cases hc) hnow
  | append_singleton cs c ih =>
    have hmem (d : AccumulateCall) (hd : d ∈ cs) : d ∈ cs ++ [c] := List.mem_append_left _ hd
    have hself : c ∈ cs ++ [c] := List.mem_append_right _ (List.mem_singleton_self c)
    obtain ⟨hclock, -, hbefore⟩ := List.pairwise_append.mp hclock
    have hbefore (d : AccumulateCall) (hd : d ∈ cs) : d.now ≤ c.now :=
      hbefore d hd c (List.mem_singleton_self c)
    have ih {now : ℕ} (hle : c.now ≤ now) (hnow : now + 60000 ≤ uint64Max) :=
      ih hclock (fun d hd => hmax d (hmem d hd)) (fun d hd => hduration d (hmem d hd))
        (fun d hd => hfits d (hmem d hd)) (fun d hd => (hbefore d hd).trans hle) hnow
    have hcnow := hcs c hself
    have hcduration := hduration c hself
    have hcfits := hfits c hself
    rw [IpContainer.admitted_concat, IpContainer.calls_concat]
    by_cases hip : c.ip = ip
    · subst hip
      obtain ⟨elem', hcounted, hfind⟩ := (IpContainer.calls FlatMap.empty cs).counted_call c
      have haccounts := (ih le_rfl (by omega)).counted
        (fun d hd => hbefore d (IpContainer.mem_of_mem_admitted hd)) (hmax c hself) hcduration
        hcfits hcounted
      rcases lt_or_ge now elem'.expiryTime with hlive | hexpired
      · rw [IpContainer.elementAt_of_find? hfind hlive]
        exact ⟨fun u hu => haccounts.total u (hcnow.trans hu),
          fun u hu => haccounts.expired u (hcnow.trans hu)⟩
      · rw [IpContainer.elementAt_of_expired hfind hexpired]
        refine accounts_new (fun u hu => (haccounts.expired u (hcnow.trans hu)
          (hexpired.trans hu)).trans (min_le_right ..)) (fun d hd => hcs d ?_) hnow
        rw [← IpContainer.admitted_concat] at hd
        exact IpContainer.mem_of_mem_admitted hd
    · rw [IpContainer.elementAt_call_of_ne (Ne.symm hip) hcnow]
      split
      · rw [recent_concat_of_ne fun hboth => hip hboth.1]
        exact ih hcnow hnow
      · rw [List.append_nil]
        exact ih hcnow hnow

/-- **The rate limit holds in every minute.** -/
theorem admitted_le (limit : Counter → ℕ) (cs : List AccumulateCall)
    (hclock : cs.Pairwise fun c d => c.now ≤ d.now)
    (hlimit : ∀ c ∈ cs, c.config.counterValueMax c.counter = limit c.counter)
    (hduration : ∀ c ∈ cs, 60000 ≤ c.config.clientGenericAutoIpBanExpiryDuration)
    (hfits : ∀ c ∈ cs, c.now + c.config.clientGenericAutoIpBanExpiryDuration < 2 ^ 64)
    (ip : Bytes) (counter : Counter) (t : ℕ) :
    ((IpContainer.admitted FlatMap.empty cs).countP fun c =>
      c.ip = ip ∧ c.counter = counter ∧ t ≤ c.now ∧
        c.now < t + 60000) ≤ 2 * (limit counter - 1) := by
  induction cs using List.reverseRecOn with
  | nil => exact Nat.zero_le _
  | append_singleton cs c ih =>
    have hmem (d : AccumulateCall) (hd : d ∈ cs) : d ∈ cs ++ [c] := List.mem_append_left _ hd
    have hself : c ∈ cs ++ [c] := List.mem_append_right _ (List.mem_singleton_self c)
    have hbefore := List.pairwise_append.mp hclock
    have ih := ih hbefore.1 (fun d hd => hlimit d (hmem d hd)) (fun d hd => hduration d (hmem d hd))
      fun d hd => hfits d (hmem d hd)
    have hcduration := hduration c hself
    have hcfits := hfits c hself
    have hnow : ∀ d ∈ cs ++ [c], d.now ≤ c.now := by
      intro d hd
      rcases List.mem_append.mp hd with hd | hd
      · exact hbefore.2.2 d hd c (List.mem_singleton_self c)
      · rw [List.mem_singleton.mp hd]
    by_cases hwindow : t ≤ c.now ∧ c.now < t + 60000
    · -- Whatever is in the window with the last call was recent when that was made.
      have hrecent : _ ≤ recent ip counter (IpContainer.admitted FlatMap.empty (cs ++ [c])) c.now :=
        List.countP_mono_left (p := fun d => decide (d.ip = ip ∧ d.counter = counter ∧
          t ≤ d.now ∧ d.now < t + 60000)) fun d _ hd => by
            simp only [decide_eq_true_eq] at hd ⊢
            exact ⟨hd.1, hd.2.1, by omega⟩
      have htotal := (accounts_of_calls ip counter hclock
        (fun d hd heq => heq ▸ hlimit d hd) hduration
        (fun d hd => Nat.le_sub_one_of_lt (hfits d hd)) hnow
        (Nat.le_sub_one_of_lt (by omega))).total c.now le_rfl
      omega
    · rw [IpContainer.admitted_concat, List.countP_append]
      split
      · rw [List.countP_singleton, if_neg (by simpa using fun _ _ => not_and.mp hwindow)]
        exact ih
      · exact ih

end Minutes

/-! ## Fixed windows -/

/-- When the window ends that the first of some calls began. -/
def windowEnd : List AccumulateCall → ℕ
  | [] => 0
  | c :: _ => saturatedAdd c.now 60000

/-- A call goes into the window that is open, or begins one. -/
def enter (window : List AccumulateCall) (c : AccumulateCall) : List AccumulateCall :=
  if c.now < windowEnd window then window ++ [c] else [c]

/-- The calls of an address that are in the window of its last one. -/
def window (ip : Bytes) (cs : List AccumulateCall) : List AccumulateCall :=
  (cs.filter fun c => c.ip = ip).foldl enter []

/-- **A client that is never banned**: all its calls return, and none is ever left of a ban. -/
structure NeverBanned (ip : Bytes) (cs : List AccumulateCall) : Prop where
  returns : ∀ pre c, pre ++ [c] <+: cs → c.ip = ip →
    ((IpContainer.calls FlatMap.empty pre).call c).1 = .returned
  unbanned : ∀ pre, pre <+: cs → ∀ now, (∀ c ∈ pre, c.now ≤ now) →
    (IpContainer.calls FlatMap.empty pre).getBanTimeRemaining now ip = 0

/-- At most the maximum of each kind in every minute. -/
def WithinMaximum (limit : Counter → ℕ) (ip : Bytes) (cs : List AccumulateCall) : Prop :=
  ∀ counter t, (cs.countP fun c =>
    c.ip = ip ∧ c.counter = counter ∧ t ≤ c.now ∧ c.now < t + 60000) ≤ limit counter

/-- Fewer than the maximum of each kind in every fixed window. -/
def FillsNoWindow (limit : Counter → ℕ) (ip : Bytes) (cs : List AccumulateCall) : Prop :=
  ∀ pre c, pre ++ [c] <+: cs → c.ip = ip →
    (window ip (pre ++ [c])).countP (fun d => d.counter = c.counter) < limit c.counter

section Windows

variable {ip : Bytes} {c : AccumulateCall} {cs w : List AccumulateCall} {limit : Counter → ℕ}

theorem window_concat (ip : Bytes) (cs : List AccumulateCall) (c : AccumulateCall) :
    window ip (cs ++ [c]) = if c.ip = ip then enter (window ip cs) c else window ip cs := by
  rw [window, List.filter_append, List.foldl_append]
  by_cases h : c.ip = ip
  · rw [if_pos h, List.filter_cons_of_pos (by simpa using h)]
    rfl
  · rw [if_neg h, List.filter_cons_of_neg (by simpa using h)]
    rfl

/-- The element that counts a window, and was never banned. -/
def windowElement (w : List AccumulateCall) : IpElement :=
  ⟨windowEnd w, fun counter => w.countP fun c => c.counter = counter, 0⟩

theorem count_windowElement : IpElement.count (if c.now < windowEnd w then windowElement w
    else .new (saturatedAdd c.now 60000)) c.counter = windowElement (enter w c) := by
  have hcounters (w : List AccumulateCall) :
      Function.update (windowElement w).counters c.counter
        ((windowElement w).counters c.counter + 1)
        = (windowElement (w ++ [c])).counters := by
    funext counter
    by_cases h : counter = c.counter
    · subst h
      simp [windowElement]
    · simp [windowElement, h, Ne.symm h]
  by_cases h : c.now < windowEnd w
  · have hend : windowEnd (w ++ [c]) = windowEnd w := by
      cases w with
      | nil => cases h
      | cons d w => rfl
    rw [if_pos h, enter, if_pos h, IpElement.count, hcounters]
    exact congrArg (fun e => IpElement.mk e _ 0) hend.symm
  · rw [if_neg h, enter, if_neg h, IpElement.count]
    exact congrArg (fun counters => IpElement.mk _ counters 0) (hcounters [])

/-- The element of the address is that of its window, or a new one. -/
def Tracks (ip : Bytes) (cs : List AccumulateCall) : Prop :=
  ∀ now, (∀ c ∈ cs, c.now ≤ now) → (IpContainer.calls FlatMap.empty cs).elementAt now ip
    = if now < windowEnd (window ip cs) then windowElement (window ip cs)
      else .new (saturatedAdd now 60000)

/-- **A call returns if it does not fill its window.** -/
theorem Tracks.returned_iff (h : Tracks c.ip cs) (hclock : ∀ d ∈ cs, d.now ≤ c.now)
    (hmax : c.config.counterValueMax c.counter ≤ uint64Max) :
    ((IpContainer.calls FlatMap.empty cs).call c).1 = .returned ↔
      (window c.ip (cs ++ [c])).countP (fun d => d.counter = c.counter)
        < c.config.counterValueMax c.counter := by
  obtain ⟨elem, hcounted, -⟩ := (IpContainer.calls FlatMap.empty cs).counted_call c
  have hcount : ((IpContainer.calls FlatMap.empty cs).elementAt c.now c.ip).counters c.counter + 1
      = (window c.ip (cs ++ [c])).countP fun d => d.counter = c.counter := by
    have helem := congrArg (fun elem => elem.counters c.counter)
      (congrArg (IpElement.count · c.counter) (h c.now hclock))
    rw [count_windowElement] at helem
    rw [window_concat, if_pos rfl]
    simpa [IpElement.count, windowElement] using helem
  rw [← hcount]
  generalize ((IpContainer.calls FlatMap.empty cs).call c).1 = result at hcounted
  cases hcounted with
  | overflow hover => exact ⟨(fun h => by cases h), fun h => by omega⟩
  | excessFlood _ hfull => exact ⟨(fun h => by cases h), fun h => absurd hfull (not_le.mpr h)⟩
  | returned _ hless => exact iff_of_true rfl hless

/-- **While its calls return, the element of an address is that of its window.** -/
theorem tracks_of_returned (hclock : cs.Pairwise fun c d => c.now ≤ d.now)
    (hreturned : ∀ pre c, pre ++ [c] <+: cs → c.ip = ip → Tracks ip pre →
      ((IpContainer.calls FlatMap.empty pre).call c).1 = .returned) : Tracks ip cs := by
  induction cs using List.reverseRecOn with
  | nil => exact fun now _ => rfl
  | append_singleton cs c ih =>
    obtain ⟨hclock, -, hbefore⟩ := List.pairwise_append.mp hclock
    have ih := ih hclock fun pre d hpre =>
      hreturned pre d (List.prefix_concat_iff.mpr (Or.inr hpre))
    intro now hnow
    have hcnow := hnow c (List.mem_append_right _ (List.mem_singleton_self c))
    rw [IpContainer.calls_concat, window_concat]
    by_cases hip : c.ip = ip
    · subst hip
      rw [if_pos rfl]
      obtain ⟨elem, hcounted, hfind⟩ := (IpContainer.calls FlatMap.empty cs).counted_call c
      rw [hreturned cs c List.prefix_rfl rfl ih,
        ih c.now fun d hd => hbefore d hd c (List.mem_singleton_self c)] at hcounted
      obtain rfl : elem = windowElement (enter (window c.ip cs) c) := by
        cases hcounted with
        | returned => exact count_windowElement
      rcases lt_or_ge now (windowEnd (enter (window c.ip cs) c)) with hlive | hexpired
      · rw [IpContainer.elementAt_of_find? hfind hlive, if_pos hlive]
      · rw [IpContainer.elementAt_of_expired hfind hexpired, if_neg hexpired.not_gt]
    · rw [if_neg hip, IpContainer.elementAt_call_of_ne (Ne.symm hip) hcnow]
      exact ih now fun d hd => hnow d (List.mem_append_left _ hd)

/-- **A client is never banned exactly when it fills no window.** -/
theorem neverBanned_iff (limit : Counter → ℕ) (hclock : cs.Pairwise fun c d => c.now ≤ d.now)
    (hlimit : ∀ c ∈ cs, c.config.counterValueMax c.counter = limit c.counter)
    (hmax : ∀ counter, limit counter ≤ uint64Max) (ip : Bytes) :
    NeverBanned ip cs ↔ FillsNoWindow limit ip cs := by
  have hsplit {pre : List AccumulateCall} {c : AccumulateCall} (hpre : pre ++ [c] <+: cs) :
      pre.Pairwise (fun c d => c.now ≤ d.now) ∧ (∀ d ∈ pre, d.now ≤ c.now) ∧
        c.config.counterValueMax c.counter = limit c.counter := by
    have hpre' := List.pairwise_append.mp (hclock.sublist hpre.sublist)
    exact ⟨hpre'.1, fun d hd => hpre'.2.2 d hd c (List.mem_singleton_self c),
      hlimit c (hpre.subset (by simp))⟩
  constructor
  · intro h pre c hpre hip
    obtain ⟨hsorted, hbefore, hlimit⟩ := hsplit hpre
    subst hip
    have htracks := tracks_of_returned hsorted fun pre' d hpre' hip _ =>
      h.returns pre' d (hpre'.trans ((List.prefix_append pre [c]).trans hpre)) hip
    rw [← hlimit]
    exact (htracks.returned_iff hbefore (hlimit ▸ hmax c.counter)).mp (h.returns pre c hpre rfl)
  · intro h
    have hreturned (pre : List AccumulateCall) (c : AccumulateCall) (hpre : pre ++ [c] <+: cs)
        (hip : c.ip = ip) (htracks : Tracks ip pre) :
        ((IpContainer.calls FlatMap.empty pre).call c).1 = .returned := by
      obtain ⟨-, hbefore, hlimit⟩ := hsplit hpre
      subst hip
      refine (htracks.returned_iff hbefore (hlimit ▸ hmax c.counter)).mpr ?_
      rw [hlimit]
      exact h pre c hpre rfl
    have htracks (pre : List AccumulateCall) (hpre : pre <+: cs) : Tracks ip pre :=
      tracks_of_returned (hclock.sublist hpre.sublist) fun pre' d hpre' =>
        hreturned pre' d (hpre'.trans hpre)
    refine ⟨fun pre c hpre hip => hreturned pre c hpre hip
      (htracks pre ((List.prefix_append pre [c]).trans hpre)), fun pre hpre now hnow => ?_⟩
    have hkept : (IpContainer.calls FlatMap.empty pre).WellKept :=
      (IpContainer.wellKept_of_history []).calls pre
    rw [hkept.getBanTimeRemaining_eq, htracks pre hpre now hnow]
    split
    · exact Nat.zero_sub now
    · exact Nat.zero_sub now

/-- A window holds the last calls of its address. -/
theorem window_suffix (ip : Bytes) (cs : List AccumulateCall) :
    window ip cs <:+ cs.filter fun c => c.ip = ip := by
  induction cs using List.reverseRecOn with
  | nil => exact List.suffix_rfl
  | append_singleton cs c ih =>
    rw [window_concat, List.filter_append]
    by_cases hip : c.ip = ip
    · rw [if_pos hip, List.filter_cons_of_pos (by simpa using hip), List.filter_nil, enter]
      split
      · obtain ⟨before, hbefore⟩ := ih
        exact ⟨before, by rw [← List.append_assoc, hbefore]⟩
      · exact List.suffix_append _ _
    · rw [if_neg hip, List.filter_cons_of_neg (by simpa using hip), List.filter_nil,
        List.append_nil]
      exact ih

/-- A window does not last longer than a minute. -/
theorem now_lt_of_mem_window {first : AccumulateCall} {w : List AccumulateCall}
    (hwindow : window ip cs = first :: w) (hc : c ∈ window ip cs) : c.now < first.now + 60000 := by
  induction cs using List.reverseRecOn generalizing w with
  | nil => cases hc
  | append_singleton cs d ih =>
    rw [window_concat] at hwindow hc
    split at hwindow
    case isFalse hip =>
      rw [if_neg hip] at hc
      exact ih hwindow hc
    case isTrue hip =>
      rw [if_pos hip, enter] at hc
      rw [enter] at hwindow
      split at hwindow
      case isFalse hend =>
        obtain ⟨rfl, rfl⟩ := List.cons_eq_cons.mp hwindow
        rw [if_neg hend, List.mem_singleton] at hc
        subst hc
        omega
      case isTrue hend =>
        rw [if_pos hend] at hc
        cases hopen : window ip cs with
        | nil => simp [hopen, windowEnd] at hend
        | cons first' w' =>
          rw [hopen, List.cons_append] at hwindow
          obtain ⟨rfl, rfl⟩ := List.cons_eq_cons.mp hwindow
          rcases List.mem_append.mp hc with hc | hc
          · exact ih hopen hc
          · rw [List.mem_singleton.mp hc]
            rw [hopen] at hend
            exact hend.trans_le (min_le_left ..)

/-- **Fewer calls than the maximum in every minute fill no window.** -/
theorem fillsNoWindow_of_lt (hclock : cs.Pairwise fun c d => c.now ≤ d.now)
    (hfewer : ∀ counter t, (cs.countP fun c =>
      c.ip = ip ∧ c.counter = counter ∧ t ≤ c.now ∧ c.now < t + 60000) < limit counter) :
    FillsNoWindow limit ip cs := by
  intro pre c hpre hip
  have hsuffix := window_suffix ip (pre ++ [c])
  cases hwindow : window ip (pre ++ [c]) with
  | nil => exact (Nat.zero_le _).trans_lt (hfewer c.counter 0)
  | cons first w =>
    rw [← hwindow]
    have hsub : (window ip (pre ++ [c])).Sublist cs :=
      hsuffix.sublist.trans (List.filter_sublist.trans hpre.sublist)
    have hsorted := hclock.sublist hsub
    refine lt_of_le_of_lt ((List.countP_mono_left fun d hd heq => ?_).trans hsub.countP_le)
      (hfewer c.counter first.now)
    have hip := (List.mem_filter.mp (hsuffix.subset hd)).2
    have hlt := now_lt_of_mem_window hwindow hd
    rw [hwindow] at hsorted hd
    have hle : first.now ≤ d.now := (List.mem_cons.mp hd).elim (fun h => h ▸ le_rfl)
      fun hd => (List.pairwise_cons.mp hsorted).1 d hd
    simp only [decide_eq_true_eq] at hip heq ⊢
    exact ⟨hip, heq, hle, hlt⟩

end Windows

/-! ## Two bursts

A request of an address, four failures to authenticate just before its element expires, and four at
the moment it does. -/

def bursts : List AccumulateCall :=
  ⟨{}, 0, asciiBytes "203.0.113.7", .httpRequest⟩ ::
    (List.replicate 4 ⟨{}, 59999, asciiBytes "203.0.113.7", .authFailure⟩ ++
      List.replicate 4 ⟨{}, 60000, asciiBytes "203.0.113.7", .authFailure⟩)

/-- All return: the bound is reached. -/
theorem admitted_le_trial :
    8 ≤ ((IpContainer.admitted FlatMap.empty bursts).countP fun c => c.ip
      = asciiBytes "203.0.113.7" ∧
      c.counter = .authFailure ∧ 59999 ≤ c.now ∧ c.now < 59999 + 60000) ∧
    ((IpContainer.admitted FlatMap.empty bursts).countP fun c => c.ip = asciiBytes "203.0.113.7" ∧
      c.counter = .authFailure ∧ 59999 ≤ c.now ∧ c.now < 59999 + 60000) ≤ 8 := by
  refine ⟨by decide +kernel, ?_⟩
  exact admitted_le (Config.counterValueMax {}) bursts (by decide +kernel) (by decide +kernel)
    (by decide +kernel) (by decide +kernel) (asciiBytes "203.0.113.7") .authFailure 59999

/-- Five failures in a minute are within the maximum, and the fifth bans. -/
theorem not_neverBanned :
    ¬ ∀ (limit : Counter → ℕ) (ip : Bytes) (cs : List AccumulateCall),
      (cs.Pairwise fun c d => c.now ≤ d.now) →
      (∀ c ∈ cs, c.config.counterValueMax c.counter = limit c.counter) →
      WithinMaximum limit ip cs → NeverBanned ip cs := by
  intro h
  have hwithin : WithinMaximum (Config.counterValueMax {}) (asciiBytes "203.0.113.7")
      (authFailures 60000) := by
    rintro (- | - | -) t
    · exact List.countP_le_length.trans (by decide)
    · exact List.countP_le_length.trans (by decide)
    · exact List.countP_le_length.trans (by decide)
  have hbanned := (h _ _ _ (by decide +kernel) (by decide +kernel) hwithin).returns
    ((authFailures 60000).take 4) ⟨{}, 1, asciiBytes "203.0.113.7", .authFailure⟩
    (by decide +kernel) rfl
  exact absurd hbanned (by decide +kernel)

theorem neverBanned_iff_trial :
    NeverBanned (asciiBytes "203.0.113.7") ((authFailures 60000).take 4) := by
  refine (neverBanned_iff (Config.counterValueMax {}) (by decide +kernel) (by decide +kernel)
    (by rintro (- | - | -) <;> decide) _).mpr ?_
  refine fillsNoWindow_of_lt (by decide +kernel) fun counter t => ?_
  refine List.countP_le_length.trans_lt ?_
  cases counter <;> decide

end Circe.Gate
