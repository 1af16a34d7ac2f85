import Circe.Common.Platform
import Mathlib.Data.List.Lex

/-!
# Gate/IpBanList — the addresses that are banned

`Ip_ban_list` keeps an element for an address, with a counter for each kind of call that
accumulates; a counter that reaches its maximum bans the address for a while.  Elements that have
expired are erased by every accumulating call, whatever the address.  No ban is lifted by that: a
ban never outlasts its element (`WellKept`), so the other addresses stay banned as they were
(`getBanTimeRemaining_accumulateAndCheckBan_of_ne`).
-/

namespace Circe

namespace Gate

/-! ## Arithmetic on `boost::uint64_t` -/

def uint64Max : ℕ := 2 ^ 64 - 1

/-- `Poseidon::saturated_add`; `saturated_sub` is the subtraction of `ℕ`. -/
def saturatedAdd (a b : ℕ) : ℕ := min (a + b) uint64Max

/-- `Poseidon::checked_add`, which throws where the sum does not fit. -/
def checkedAdd (a b : ℕ) : Option ℕ := if a + b ≤ uint64Max then some (a + b) else none

/-! ## The list -/

/-- What `get_config` gives, with the defaults of the source. -/
structure Config where
  clientHttpEnabled : Bool := false
  clientWebsocketEnabled : Bool := false
  clientGenericExemptPrivateAddresses : Bool := true
  clientHttpMaxRequestsPerMinuteByIp : ℕ := 300
  clientWebsocketMaxRequestsPerMinuteByIp : ℕ := 120
  clientGenericMaxAuthFailureCountPerMinuteByIp : ℕ := 5
  clientGenericAutoIpBanExpiryDuration : ℕ := 60000
deriving DecidableEq

inductive Counter
  | httpRequest
  | websocketRequest
  | authFailure
deriving DecidableEq

/-- `Ip_element`, without the address it is stored under. -/
structure IpElement where
  expiryTime : ℕ
  counters : Counter → ℕ
  banExpiryTime : ℕ

/-- The initializer of an element leaves its variables zero. -/
def IpElement.new (expiryTime : ℕ) : IpElement := ⟨expiryTime, fun _ => 0, 0⟩

/-- The element after a call was counted. -/
def IpElement.count (elem : IpElement) (counter : Counter) : IpElement :=
  { elem with
    counters := Function.update elem.counters counter (elem.counters counter + 1) }

/-- `Ip_container`; the port in its keys is always zero. -/
abbrev IpContainer := FlatMap Bytes IpElement

/-- How an accumulating call ends. -/
inductive Accumulated
  | returned
  | overflow
  /-- `Poseidon::Exception`, "Excess flood". -/
  | excessFlood
deriving DecidableEq

namespace IpContainer

/-- `get_ban_time_remaining`. -/
def getBanTimeRemaining (bans : IpContainer) (now : ℕ) (ip : Bytes) : ℕ :=
  match bans.find? ip with
  | none => 0
  | some elem => elem.banExpiryTime - now

/-- `set_ban_time_remaining`. -/
def setBanTimeRemaining (bans : IpContainer) (now : ℕ) (ip : Bytes) (timeRemaining : ℕ) :
    IpContainer :=
  let expiryTime := saturatedAdd now timeRemaining
  (bans.insertNew ip (.new 0)).modify ip fun elem =>
    { elem with expiryTime := expiryTime, banExpiryTime := expiryTime }

/-- `remove_ban`, and whether there was an element. -/
def removeBan (bans : IpContainer) (ip : Bytes) : Bool × IpContainer :=
  match bans.find? ip with
  | none => (false, bans)
  | some _ => (true, bans.erase ip)

/-- `accumulate_and_check_ban` once it has an element for the address. -/
def increment (config : Config) (bans : IpContainer) (now : ℕ) (ip : Bytes) (counter : Counter)
    (counterValueMax : ℕ) (elem : IpElement) : Accumulated × IpContainer :=
  match checkedAdd (elem.counters counter) 1 with
  | none => (.overflow, bans)
  | some counterValueNew =>
    let elem := { elem with counters := Function.update elem.counters counter counterValueNew }
    if counterValueMax ≤ counterValueNew then
      let expiryTime := saturatedAdd now config.clientGenericAutoIpBanExpiryDuration
      (.excessFlood, bans.modify ip fun _ =>
        { elem with expiryTime := expiryTime, banExpiryTime := expiryTime })
    else (.returned, bans.modify ip fun _ => elem)

/-- `accumulate_and_check_ban`. -/
def accumulateAndCheckBan (config : Config) (bans : IpContainer) (now : ℕ) (ip : Bytes)
    (counter : Counter) (counterValueMax : ℕ) : Accumulated × IpContainer :=
  let bans := bans.eraseIf fun elem => elem.expiryTime ≤ now
  let elem := (bans.find? ip).getD (.new (saturatedAdd now 60000))
  increment config (bans.insertNew ip elem) now ip counter counterValueMax elem

def accumulateHttpRequest (config : Config) (bans : IpContainer) (now : ℕ) (ip : Bytes) :
    Accumulated × IpContainer :=
  accumulateAndCheckBan config bans now ip .httpRequest config.clientHttpMaxRequestsPerMinuteByIp

def accumulateWebsocketRequest (config : Config) (bans : IpContainer) (now : ℕ) (ip : Bytes) :
    Accumulated × IpContainer :=
  accumulateAndCheckBan config bans now ip .websocketRequest
    config.clientWebsocketMaxRequestsPerMinuteByIp

def accumulateAuthFailure (config : Config) (bans : IpContainer) (now : ℕ) (ip : Bytes) :
    Accumulated × IpContainer :=
  accumulateAndCheckBan config bans now ip .authFailure
    config.clientGenericMaxAuthFailureCountPerMinuteByIp

/-- The accumulating call of a counter. -/
def accumulate (config : Config) (bans : IpContainer) (now : ℕ) (ip : Bytes) :
    Counter → Accumulated × IpContainer
  | .httpRequest => bans.accumulateHttpRequest config now ip
  | .websocketRequest => bans.accumulateWebsocketRequest config now ip
  | .authFailure => bans.accumulateAuthFailure config now ip

/-! ## How long an address is banned -/

variable {config : Config} {bans : IpContainer} {now counterValueMax : ℕ} {ip other : Bytes}
  {counter : Counter} {elem : IpElement}

/-- A ban does not outlast the element it is kept in. -/
def WellKept (bans : IpContainer) : Prop :=
  ∀ ip elem, bans.find? ip = some elem → elem.banExpiryTime ≤ elem.expiryTime

theorem getBanTimeRemaining_of_find? (h : bans.find? ip = some elem) :
    bans.getBanTimeRemaining now ip = elem.banExpiryTime - now := by
  rw [getBanTimeRemaining, h]

/-- What is known of an address is all that counts. -/
theorem getBanTimeRemaining_congr {bans' : IpContainer} (h : bans.find? ip = bans'.find? ip) :
    bans.getBanTimeRemaining now ip = bans'.getBanTimeRemaining now ip := by
  rw [getBanTimeRemaining, h, getBanTimeRemaining]

theorem find?_setBanTimeRemaining (timeRemaining : ℕ) :
    (bans.setBanTimeRemaining now ip timeRemaining).find? other =
      if other = ip then some { (bans.find? ip).getD (.new 0) with
        expiryTime := saturatedAdd now timeRemaining
        banExpiryTime := saturatedAdd now timeRemaining }
      else bans.find? other := by
  rw [setBanTimeRemaining, FlatMap.find?_modify, FlatMap.find?_insertNew]
  split <;> rfl

/-- **A ban that is set lasts as long as it was set for.** -/
theorem getBanTimeRemaining_setBanTimeRemaining (timeRemaining : ℕ) :
    (bans.setBanTimeRemaining now ip timeRemaining).getBanTimeRemaining now ip
      = saturatedAdd now timeRemaining - now :=
  getBanTimeRemaining_of_find? ((find?_setBanTimeRemaining timeRemaining).trans (if_pos rfl))

theorem getBanTimeRemaining_setBanTimeRemaining_of_ne (timeRemaining : ℕ) (h : other ≠ ip) :
    (bans.setBanTimeRemaining now ip timeRemaining).getBanTimeRemaining now other
      = bans.getBanTimeRemaining now other :=
  getBanTimeRemaining_congr ((find?_setBanTimeRemaining timeRemaining).trans (if_neg h))

theorem find?_removeBan : (bans.removeBan ip).2.find? other
    = if other = ip then none else bans.find? other := by
  rw [removeBan]
  split
  case h_1 h =>
    split
    case isTrue heq => rw [heq, h]
    case isFalse => rfl
  case h_2 =>
    refine (FlatMap.find?_erase bans ip other).trans ?_
    split <;> rfl

/-- **A ban that is removed is over**, and no other is. -/
theorem getBanTimeRemaining_removeBan :
    (bans.removeBan ip).2.getBanTimeRemaining now other
      = if other = ip then 0 else bans.getBanTimeRemaining now other := by
  rw [getBanTimeRemaining, find?_removeBan]
  by_cases h : other = ip
  · rw [if_pos h, if_pos h]
  · rw [if_neg h, if_neg h, getBanTimeRemaining]

theorem find?_increment_of_ne (h : other ≠ ip) :
    (increment config bans now ip counter counterValueMax elem).2.find? other
    = bans.find? other := by
  rw [increment]
  split
  case h_1 => rfl
  case h_2 =>
    split
    · exact (FlatMap.find?_modify ..).trans (if_neg h)
    · exact (FlatMap.find?_modify ..).trans (if_neg h)

/-- An accumulating call keeps of the other addresses what has not expired. -/
theorem find?_accumulateAndCheckBan_of_ne (h : other ≠ ip) :
    (accumulateAndCheckBan config bans now ip counter counterValueMax).2.find? other
      = (bans.find? other).filter fun elem => !decide (elem.expiryTime ≤ now) := by
  rw [accumulateAndCheckBan, find?_increment_of_ne h, FlatMap.find?_insertNew, if_neg h,
    FlatMap.find?_eraseIf]

/-- **An accumulating call lifts no other ban.** -/
theorem getBanTimeRemaining_accumulateAndCheckBan_of_ne (hkept : bans.WellKept) (h : other ≠ ip) :
    (accumulateAndCheckBan config bans now ip counter counterValueMax).2.getBanTimeRemaining
    now other
      = bans.getBanTimeRemaining now other := by
  rw [getBanTimeRemaining, find?_accumulateAndCheckBan_of_ne h, getBanTimeRemaining]
  cases hfind : bans.find? other with
  | none => rfl
  | some elem =>
    have hle := hkept other elem hfind
    by_cases hexpired : elem.expiryTime ≤ now
    · -- The element goes, but its ban was over.
      rw [Option.filter_some, if_neg (by simp [hexpired])]
      show 0 = elem.banExpiryTime - now
      omega
    · rw [Option.filter_some, if_pos (by simp [hexpired])]

/-- The element an accumulating call works on. -/
def elementAt (bans : IpContainer) (now : ℕ) (ip : Bytes) : IpElement :=
  ((bans.find? ip).filter fun elem => !decide (elem.expiryTime ≤ now)).getD
    (.new (saturatedAdd now 60000))

theorem elementAt_of_find? (h : bans.find? ip = some elem) (hnow : now < elem.expiryTime) :
    bans.elementAt now ip = elem := by
  rw [elementAt, h, Option.filter_some, if_pos (by simpa using hnow)]
  rfl

theorem elementAt_of_expired (h : bans.find? ip = some elem) (hnow : elem.expiryTime ≤ now) :
    bans.elementAt now ip = .new (saturatedAdd now 60000) := by
  rw [elementAt, h, Option.filter_some, if_neg (by simpa using hnow)]
  rfl

theorem elementAt_of_none (h : bans.find? ip = none) :
    bans.elementAt now ip = .new (saturatedAdd now 60000) := by
  rw [elementAt, h]
  rfl

/-- **What an accumulating call makes of its element.** -/
inductive Counted (config : Config) (now : ℕ) (counter : Counter) (counterValueMax : ℕ)
    (elem : IpElement) : Accumulated → IpElement → Prop
  | overflow (h : uint64Max < elem.counters counter + 1) :
      Counted config now counter counterValueMax elem .overflow elem
  | excessFlood (hfits : elem.counters counter + 1 ≤ uint64Max)
      (h : counterValueMax ≤ elem.counters counter + 1) :
      Counted config now counter counterValueMax elem .excessFlood
        { elem.count counter with
          expiryTime := saturatedAdd now config.clientGenericAutoIpBanExpiryDuration
          banExpiryTime := saturatedAdd now config.clientGenericAutoIpBanExpiryDuration }
  | returned (hfits : elem.counters counter + 1 ≤ uint64Max)
      (h : elem.counters counter + 1 < counterValueMax) :
      Counted config now counter counterValueMax elem .returned (elem.count counter)

/-- **An accumulating call counts once**, and bans where the maximum is reached. -/
theorem counted_accumulateAndCheckBan (config : Config) (bans : IpContainer) (now : ℕ) (ip : Bytes)
    (counter : Counter) (counterValueMax : ℕ) :
    ∃ elem, Counted config now counter counterValueMax (bans.elementAt now ip)
        (accumulateAndCheckBan config bans now ip counter counterValueMax).1 elem ∧
      (accumulateAndCheckBan config bans now ip counter counterValueMax).2.find? ip
        = some elem := by
  set left := bans.eraseIf fun elem => elem.expiryTime ≤ now with hleft
  have helem : bans.elementAt now ip = (left.find? ip).getD (.new (saturatedAdd now 60000)) := by
    rw [elementAt, hleft, FlatMap.find?_eraseIf]
  have hfind : (left.insertNew ip (bans.elementAt now ip)).find? ip
      = some (bans.elementAt now ip) := by
    rw [helem]
    exact left.find?_insertNew_getD ip _
  have hcall : accumulateAndCheckBan config bans now ip counter counterValueMax
      = increment config (left.insertNew ip (bans.elementAt now ip)) now ip counter counterValueMax
        (bans.elementAt now ip) := by
    rw [helem]
    rfl
  have hmodify (f : IpElement → IpElement) :
      ((left.insertNew ip (bans.elementAt now ip)).modify ip f).find? ip
        = some (f (bans.elementAt now ip)) := by
    rw [FlatMap.find?_modify, if_pos rfl, hfind, Option.map_some]
  rw [hcall, increment, checkedAdd]
  split
  case h_1 hadd =>
    exact ⟨_, .overflow (by simpa using hadd), hfind⟩
  case h_2 counterValueNew hadd =>
    obtain ⟨hfits, rfl⟩ : (bans.elementAt now ip).counters counter + 1 ≤ uint64Max ∧
        (bans.elementAt now ip).counters counter + 1 = counterValueNew := by
      simpa [Option.ite_none_right_eq_some] using hadd
    split
    case isTrue h => exact ⟨_, .excessFlood hfits h, hmodify _⟩
    case isFalse h => exact ⟨_, .returned hfits (not_le.mp h), hmodify _⟩

theorem WellKept.setBanTimeRemaining (h : bans.WellKept) (timeRemaining : ℕ) :
    (bans.setBanTimeRemaining now ip timeRemaining).WellKept := by
  intro other elem hfind
  rw [find?_setBanTimeRemaining] at hfind
  split at hfind
  case isTrue =>
    cases hfind
    exact le_rfl
  case isFalse => exact h other elem hfind

theorem WellKept.removeBan (h : bans.WellKept) : (bans.removeBan ip).2.WellKept := by
  intro other elem hfind
  rw [find?_removeBan] at hfind
  split at hfind
  case isTrue => cases hfind
  case isFalse => exact h other elem hfind

theorem WellKept.elementAt (h : bans.WellKept) (now : ℕ) (ip : Bytes) :
    (bans.elementAt now ip).banExpiryTime ≤ (bans.elementAt now ip).expiryTime := by
  cases hfind : bans.find? ip with
  | none => exact elementAt_of_none hfind ▸ Nat.zero_le _
  | some elem =>
    rcases lt_or_ge now elem.expiryTime with hlive | hexpired
    · exact elementAt_of_find? hfind hlive ▸ h ip elem hfind
    · exact elementAt_of_expired hfind hexpired ▸ Nat.zero_le _

theorem WellKept.accumulateAndCheckBan (h : bans.WellKept) :
    (accumulateAndCheckBan config bans now ip counter counterValueMax).2.WellKept := by
  intro other elem hfind
  by_cases heq : other = ip
  · subst heq
    obtain ⟨elem', hcounted, hfind'⟩ :=
      counted_accumulateAndCheckBan config bans now other counter counterValueMax
    obtain rfl : elem = elem' := Option.some_inj.mp (hfind.symm.trans hfind')
    have hkept := h.elementAt now other
    generalize (IpContainer.accumulateAndCheckBan config bans now other counter
      counterValueMax).1 = r
      at hcounted
    cases hcounted with
    | overflow | returned => exact hkept
    | excessFlood => exact le_rfl
  · rw [find?_accumulateAndCheckBan_of_ne heq] at hfind
    exact h other elem (Option.filter_eq_some_iff.mp hfind).1

end IpContainer

end Gate

end Circe
