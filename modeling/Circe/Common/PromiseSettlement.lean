import Circe.Common.Dispatch

/-!
# Common/PromiseSettlement — every promise is settled once

The promises of a connection at the granularity of the critical sections of `m_mutex`, with any
number of threads in `send_request` and in the response branch of `inflate_and_dispatch`, and one
in `layer4_on_close`.  A promise is in one place at a time (`Settlement.places`): in the table, with
a response that is about to satisfy it, with the close that is about to give it up, or settled.
-/

namespace Circe.Common

/-- Where the `send_request` that holds `m_mutex` is: it has entered, it has seen that the
connection was not shut down, it has put a promise into the table and is launching the request. -/
inductive SendPhase
  | entered
  | checked
  | emplaced (serial : UInt64) (promise : PromiseId)
deriving DecidableEq

/-- Where `layer4_on_close` is; once it has swapped the table out, the promise it holds and those it
still has to go through. -/
inductive ClosePhase
  | notCalled
  | called
  | settling (held : Option PromiseId) (rest : List PromiseId)
deriving DecidableEq

/-- The promises that the close still has. -/
def ClosePhase.promises : ClosePhase → List PromiseId
  | .settling held rest => held.toList ++ rest
  | _ => []

/-- The promise table, the shutdown flag, the `send_request` in its critical section, the responses
before theirs, those that hold the promise they are going to satisfy, and the close. -/
structure Settlement where
  promises : PromiseTable
  hasBeenShutdown : Bool
  sending : Option SendPhase
  dispatching : List (UInt64 × InterserverResponse)
  taken : List (PromiseId × InterserverResponse)
  closing : ClosePhase
deriving DecidableEq

/-- A step of one thread. -/
inductive Move
  | enterSend
  | refuseSend
  | checkSend
  | failSend
  | emplaceSend
  | throwSend (serial : UInt64) (promise : PromiseId)
  | returnSend (serial : UInt64) (promise : PromiseId)
  | drop (promise : PromiseId)
  | shutdown
  | receive (serial : UInt64) (resp : InterserverResponse)
  | take (serial : UInt64) (resp : InterserverResponse)
  | satisfy (promise : PromiseId) (resp : InterserverResponse)
  | close
  | swap
  | lockNext
  | giveUp (promise : PromiseId)
deriving DecidableEq

namespace Settlement

def start : Settlement := ⟨.empty, false, none, [], [], .notCalled⟩

/-- One move, if it can be made. -/
def step (x : Settlement) : Move → Option Settlement
  | .enterSend => if x.sending = none then some { x with sending := some .entered } else none
  | .refuseSend =>
    if x.sending = some .entered ∧ x.hasBeenShutdown = true then some { x with sending := none }
    else none
  | .checkSend =>
    if x.sending = some .entered ∧ x.hasBeenShutdown = false then
      some { x with sending := some .checked }
    else none
  | .failSend => -- `make_shared` or `emplace` throws, after `++m_next_serial`
    if x.sending = some .checked then
      some { x with
        promises := { x.promises with nextSerial := x.promises.serial }
        sending := none }
    else none
  | .emplaceSend =>
    if x.sending = some .checked then
      some { x with
        promises := x.promises.emplace
        sending := some (.emplaced x.promises.serial x.promises.made) }
    else none
  | .throwSend serial promise =>
    if x.sending = some (.emplaced serial promise) then
      some { x with promises := x.promises.cancel serial promise, sending := none }
    else none
  | .returnSend serial promise =>
    if x.sending = some (.emplaced serial promise) then some { x with sending := none } else none
  | .drop promise => some { x with promises := x.promises.drop promise }
  | .shutdown => some { x with hasBeenShutdown := true }
  | .receive serial resp =>
    if x.hasBeenShutdown = false then
      some { x with dispatching := x.dispatching ++ [(serial, resp)] }
    else none
  | .take serial resp =>
    if x.sending = none ∧ (serial, resp) ∈ x.dispatching then
      some { x with
        promises := (x.promises.take serial).2
        dispatching := x.dispatching.erase (serial, resp)
        taken := x.taken ++ (x.promises.take serial).1.toList.map fun promise => (promise, resp) }
    else none
  | .satisfy promise resp =>
    if (promise, resp) ∈ x.taken then some { x with taken := x.taken.erase (promise, resp) }
    else none
  | .close =>
    if x.hasBeenShutdown = true ∧ x.closing = .notCalled then some { x with closing := .called }
    else none
  | .swap =>
    if x.sending = none ∧ x.closing = .called then
      some { x with
        promises := { x.promises with weakPromises := .empty }
        closing := .settling none (x.promises.weakPromises.entries.map Prod.snd) }
    else none
  | .lockNext =>
    match x.closing with
    | .settling none (promise :: rest) =>
      some { x with closing := .settling (x.promises.lock promise) rest }
    | _ => none
  | .giveUp promise =>
    match x.closing with
    | .settling (some held) rest =>
      if promise = held then some { x with closing := .settling none rest } else none
    | _ => none

def Step (x : Settlement) (m : Move) (y : Settlement) : Prop := x.step m = some y

/-- `layer4_on_close` and every response dispatch have run to their ends. -/
def Finished (x : Settlement) : Prop :=
  x.closing = .settling none [] ∧ x.dispatching = [] ∧ x.taken = []

end Settlement

/-- The promises settled in a history. -/
def settlements (ms : List Move) : List (PromiseId × Except Exception InterserverResponse) :=
  ms.filterMap fun
    | .satisfy promise resp => some (promise, .ok resp)
    | .giveUp promise => some (promise, .error InterserverConnection.connectionLost)
    | _ => none

namespace Settlement

/-- The moves, read off `step`. -/
inductive Stepped (x : Settlement) : Move → Settlement → Prop
  | enterSend (h : x.sending = none) : Stepped x .enterSend { x with sending := some .entered }
  | refuseSend (h : x.sending = some .entered) (hdown : x.hasBeenShutdown = true) :
      Stepped x .refuseSend { x with sending := none }
  | checkSend (h : x.sending = some .entered) (hup : x.hasBeenShutdown = false) :
      Stepped x .checkSend { x with sending := some .checked }
  | failSend (h : x.sending = some .checked) :
      Stepped x .failSend { x with
        promises := { x.promises with nextSerial := x.promises.serial }
        sending := none }
  | emplaceSend (h : x.sending = some .checked) :
      Stepped x .emplaceSend { x with
        promises := x.promises.emplace
        sending := some (.emplaced x.promises.serial x.promises.made) }
  | throwSend {serial : UInt64} {promise : PromiseId}
      (h : x.sending = some (.emplaced serial promise)) :
      Stepped x (.throwSend serial promise)
        { x with promises := x.promises.cancel serial promise, sending := none }
  | returnSend {serial : UInt64} {promise : PromiseId}
      (h : x.sending = some (.emplaced serial promise)) :
      Stepped x (.returnSend serial promise) { x with sending := none }
  | drop (promise : PromiseId) :
      Stepped x (.drop promise) { x with promises := x.promises.drop promise }
  | shutdown : Stepped x .shutdown { x with hasBeenShutdown := true }
  | receive (serial : UInt64) (resp : InterserverResponse) (hup : x.hasBeenShutdown = false) :
      Stepped x (.receive serial resp)
        { x with dispatching := x.dispatching ++ [(serial, resp)] }
  | take {serial : UInt64} {resp : InterserverResponse} (h : x.sending = none)
      (hmem : (serial, resp) ∈ x.dispatching) :
      Stepped x (.take serial resp) { x with
        promises := (x.promises.take serial).2
        dispatching := x.dispatching.erase (serial, resp)
        taken := x.taken ++ (x.promises.take serial).1.toList.map fun promise => (promise, resp) }
  | satisfy {promise : PromiseId} {resp : InterserverResponse} (hmem : (promise, resp) ∈ x.taken) :
      Stepped x (.satisfy promise resp) { x with taken := x.taken.erase (promise, resp) }
  | close (hdown : x.hasBeenShutdown = true) (h : x.closing = .notCalled) :
      Stepped x .close { x with closing := .called }
  | swap (h : x.sending = none) (hclosing : x.closing = .called) :
      Stepped x .swap { x with
        promises := { x.promises with weakPromises := .empty }
        closing := .settling none (x.promises.weakPromises.entries.map Prod.snd) }
  | lockNext {promise : PromiseId} {rest : List PromiseId}
      (h : x.closing = .settling none (promise :: rest)) :
      Stepped x .lockNext { x with closing := .settling (x.promises.lock promise) rest }
  | giveUp {promise : PromiseId} {rest : List PromiseId}
      (h : x.closing = .settling (some promise) rest) :
      Stepped x (.giveUp promise) { x with closing := .settling none rest }

theorem Step.stepped {x y : Settlement} {m : Move} (h : Step x m y) : Stepped x m y := by
  cases m <;> simp only [Step, step] at h
  case drop => cases h; exact .drop _
  case shutdown => cases h; exact .shutdown
  case lockNext =>
    split at h
    case h_1 hclosing => cases h; exact .lockNext hclosing
    case h_2 => cases h
  case giveUp =>
    split at h
    case h_1 hclosing =>
      split at h
      case isTrue hheld => cases h; exact .giveUp (hheld ▸ hclosing)
      case isFalse => cases h
    case h_2 => cases h
  all_goals
    split at h
    case isFalse => cases h
    case isTrue hcond =>
      cases h
      constructor <;> first | exact hcond | exact hcond.1 | exact hcond.2

theorem Stepped.step {x y : Settlement} {m : Move} (h : Stepped x m y) : Step x m y := by
  cases h with
  | drop | shutdown => rfl
  | enterSend h | failSend h | emplaceSend h | throwSend h | returnSend h => exact if_pos h
  | receive serial resp hup => exact if_pos hup
  | satisfy hmem => exact if_pos hmem
  | refuseSend h h' | checkSend h h' | take h h' | close h h' | swap h h' => exact if_pos ⟨h, h'⟩
  | lockNext h => simp only [Step, Settlement.step, h]
  | giveUp h => simp only [Step, Settlement.step, h, if_true]

/-! ## The place of a promise -/

/-- The promises, once for each place where they are. -/
def places (ms : List Move) (x : Settlement) : List PromiseId :=
  x.promises.weakPromises.entries.map Prod.snd ++ x.taken.map Prod.fst ++ x.closing.promises ++
    (settlements ms).map Prod.fst

/-- **What a move does to the places**: nothing, or a new promise is put into the table, or a
promise is lost that its requester has let go of or never got. -/
inductive Placed (x : Settlement) (m : Move) (y : Settlement) : Prop
  | same (hmade : y.promises.made = x.promises.made)
      (h : ∀ ms, (places (ms ++ [m]) y).Perm (places ms x))
  | emplaced (hm : m = .emplaceSend) (hmade : y.promises.made = x.promises.made + 1)
      (h : ∀ ms, (places (ms ++ [m]) y).Perm (x.promises.made :: places ms x))
  | lost (promise : PromiseId) (hmade : y.promises.made = x.promises.made)
      (hlost : promise ∈ x.promises.dropped ∨
        ∃ serial, x.sending = some (.emplaced serial promise))
      (h : ∀ ms, (promise :: places (ms ++ [m]) y).Perm (places ms x))

/-- Counting the places of a promise, list by list. -/
theorem count_places (ms : List Move) (x : Settlement) (promise : PromiseId) :
    (places ms x).count promise
      = (x.promises.weakPromises.entries.map Prod.snd).count promise +
        (x.taken.map Prod.fst).count promise + x.closing.promises.count promise +
        ((settlements ms).map Prod.fst).count promise := by
  rw [places, List.count_append, List.count_append, List.count_append]

theorem settlements_concat (ms : List Move) (m : Move) :
    settlements (ms ++ [m]) = settlements ms ++ settlements [m] := by
  rw [settlements, List.filterMap_append]
  rfl

theorem count_places_concat (ms : List Move) (m : Move) (x : Settlement) (promise : PromiseId) :
    (places (ms ++ [m]) x).count promise
      = (x.promises.weakPromises.entries.map Prod.snd).count promise +
        (x.taken.map Prod.fst).count promise + x.closing.promises.count promise +
        (((settlements ms).map Prod.fst).count promise +
          ((settlements [m]).map Prod.fst).count promise) := by
  rw [count_places, settlements_concat, List.map_append, List.count_append]

/-- Counting the promises of a table with one entry more. -/
theorem count_snd_of_perm {es es' : List (UInt64 × PromiseId)} {e : UInt64 × PromiseId}
    (h : es.Perm (e :: es')) (promise : PromiseId) :
    (es.map Prod.snd).count promise
      = (es'.map Prod.snd).count promise + if e.2 == promise then 1 else 0 := by
  rw [(h.map Prod.snd).count_eq promise, List.map_cons, List.count_cons]

theorem Step.placed {x y : Settlement} {m : Move} (h : Step x m y) : Placed x m y := by
  cases h.stepped with
  | enterSend | refuseSend | checkSend | failSend | returnSend | drop | shutdown | receive =>
    refine .same rfl fun ms => List.perm_iff_count.mpr fun q => ?_
    rw [count_places_concat, count_places]
    simp [settlements, PromiseTable.drop]
  | close hdown hclosing =>
    refine .same rfl fun ms => List.perm_iff_count.mpr fun q => ?_
    rw [count_places_concat, count_places, hclosing]
    simp [settlements, ClosePhase.promises]
  | emplaceSend hsending =>
    refine .emplaced rfl rfl fun ms => List.perm_iff_count.mpr fun q => ?_
    have hentries := count_snd_of_perm
      (x.promises.weakPromises.entries_emplace_perm x.promises.serial x.promises.made) q
    rw [List.count_cons, count_places_concat, count_places]
    simp only [PromiseTable.emplace, hentries, settlements, List.filterMap_cons,
      List.filterMap_nil, List.map_nil, List.count_nil]
    omega
  | @throwSend serial promise hsending =>
    by_cases hmem : (serial, promise) ∈ x.promises.weakPromises.entries
    · refine .lost promise rfl (.inr ⟨serial, hsending⟩) fun ms => List.perm_iff_count.mpr
        fun q => ?_
      have hentries := count_snd_of_perm (FlatMultimap.perm_eraseEntry hmem) q
      rw [List.count_cons, count_places_concat, count_places, hentries]
      simp only [PromiseTable.cancel, settlements, List.filterMap_cons, List.filterMap_nil,
        List.map_nil, List.count_nil]
      omega
    · refine .same rfl fun ms => List.perm_iff_count.mpr fun q => ?_
      rw [count_places_concat, count_places]
      simp [settlements, PromiseTable.cancel, FlatMultimap.eraseEntry_of_notMem hmem]
  | @take serial resp hsending hmem =>
    cases hfind : x.promises.weakPromises.find? serial with
    | none =>
      have htake : x.promises.take serial = (none, x.promises) := by rw [PromiseTable.take, hfind]
      refine .same (by rw [htake]) fun ms => List.perm_iff_count.mpr fun q => ?_
      rw [count_places_concat, count_places, htake]
      simp [settlements]
    | some e =>
      have htake : x.promises.take serial = (x.promises.lock e.2, { x.promises with
          weakPromises := x.promises.weakPromises.eraseFirst serial }) := by
        rw [PromiseTable.take, hfind]
      have hentries := count_snd_of_perm (FlatMultimap.perm_eraseFirst hfind)
      by_cases hdropped : e.2 ∈ x.promises.dropped
      · have hlock : x.promises.lock e.2 = none := if_pos hdropped
        refine .lost e.2 (by rw [htake]) (.inl hdropped) fun ms =>
          List.perm_iff_count.mpr fun q => ?_
        rw [List.count_cons, count_places_concat, count_places, htake, hlock, hentries]
        simp only [settlements, Option.toList_none, List.map_nil, List.append_nil,
          List.filterMap_cons, List.filterMap_nil, List.count_nil]
        omega
      · have hlock : x.promises.lock e.2 = some e.2 := if_neg hdropped
        refine .same (by rw [htake]) fun ms => List.perm_iff_count.mpr fun q => ?_
        rw [count_places_concat, count_places, htake, hlock, List.map_append, List.count_append,
          hentries]
        simp only [settlements, Option.toList_some, List.map_cons, List.map_nil, List.count_cons,
          List.filterMap_cons, List.filterMap_nil, List.count_nil]
        omega
  | @satisfy promise resp hmem =>
    refine .same rfl fun ms => List.perm_iff_count.mpr fun q => ?_
    have htaken := ((List.perm_cons_erase hmem).map Prod.fst).count_eq q
    rw [List.map_cons, List.count_cons] at htaken
    rw [count_places_concat, count_places, htaken]
    simp only [settlements, List.filterMap_cons, List.filterMap_nil, List.map_cons, List.map_nil,
      List.count_cons, List.count_nil]
    omega
  | swap hsending hclosing =>
    refine .same rfl fun ms => List.perm_iff_count.mpr fun q => ?_
    rw [count_places_concat, count_places, hclosing]
    simp [settlements, ClosePhase.promises]
    omega
  | @lockNext promise rest hclosing =>
    by_cases hdropped : promise ∈ x.promises.dropped
    · have hlock : x.promises.lock promise = none := if_pos hdropped
      refine .lost promise rfl (.inl hdropped) fun ms => List.perm_iff_count.mpr fun q => ?_
      rw [List.count_cons, count_places_concat, count_places, hclosing, hlock]
      simp only [settlements, ClosePhase.promises, Option.toList_none, List.nil_append,
        List.filterMap_cons, List.filterMap_nil, List.map_nil, List.count_nil, List.count_cons]
      omega
    · have hlock : x.promises.lock promise = some promise := if_neg hdropped
      refine .same rfl fun ms => List.perm_iff_count.mpr fun q => ?_
      rw [count_places_concat, count_places, hclosing, hlock]
      simp [settlements, ClosePhase.promises]
  | @giveUp promise rest hclosing =>
    refine .same rfl fun ms => List.perm_iff_count.mpr fun q => ?_
    rw [count_places_concat, count_places, hclosing]
    simp only [settlements, ClosePhase.promises, Option.toList_none, Option.toList_some,
      List.nil_append, List.cons_append, List.filterMap_cons, List.filterMap_nil, List.map_cons,
      List.map_nil, List.count_cons, List.count_nil]
    omega

/-! ## What a history accounts for -/

/-- **The promises of a history.** -/
structure Settling (ms : List Move) (x : Settlement) : Prop where
  nodup : (places ms x).Nodup
  made : ∀ promise ∈ places ms x, promise < x.promises.made
  /-- A promise that was returned is somewhere, unless its requester let go of it. -/
  returned : ∀ serial promise, .returnSend serial promise ∈ ms →
    promise < x.promises.made ∧ (promise ∉ x.promises.dropped → promise ∈ places ms x)
  emplaced : ∀ serial promise, x.sending = some (.emplaced serial promise) →
    (serial, promise) ∈ x.promises.weakPromises.entries ∧ ∀ other, .returnSend other promise ∉ ms
  single : ∀ serial other promise, .returnSend serial promise ∈ ms →
    .returnSend other promise ∈ ms → serial = other
  /-- An entry is that of a call that returned, or of the one in its critical section. -/
  entries : ∀ e ∈ x.promises.weakPromises.entries,
    .returnSend e.1 e.2 ∈ ms ∨ x.sending = some (.emplaced e.1 e.2)
  dispatching : ∀ d ∈ x.dispatching, .receive d.1 d.2 ∈ ms
  taken : ∀ t ∈ x.taken, ∃ serial, .returnSend serial t.1 ∈ ms ∧ .receive serial t.2 ∈ ms
  settled : ∀ t ∈ settlements ms, t.2 = .error InterserverConnection.connectionLost ∨
    ∃ serial resp, t.2 = .ok resp ∧ .returnSend serial t.1 ∈ ms ∧ .receive serial resp ∈ ms
  swapped : .swap ∈ ms → ∃ held rest, x.closing = .settling held rest
  down : x.closing ≠ .notCalled → x.hasBeenShutdown = true
  /-- Once the table is swapped out nothing comes into it. -/
  closed : ∀ held rest, x.closing = .settling held rest →
    x.promises.weakPromises.entries = [] ∧ (x.sending = none ∨ x.sending = some .entered)

namespace Settling

variable {x y : Settlement} {ms : List Move} {m : Move}

theorem start : Settling [] start := by
  constructor <;> intros <;> simp_all [places, settlements, Settlement.start, PromiseTable.empty,
    FlatMultimap.empty, ClosePhase.promises]

theorem mem_places_of_entry {e : UInt64 × PromiseId}
    (he : e ∈ x.promises.weakPromises.entries) : e.2 ∈ places ms x := by
  rw [places, List.append_assoc, List.append_assoc]
  exact List.mem_append_left _ (List.mem_map.mpr ⟨e, he, rfl⟩)

/-- A promise is in one place, after a move as before. -/
theorem step_nodup (h : Settling ms x) (hstep : Step x m y) :
    (places (ms ++ [m]) y).Nodup ∧
      (∀ promise ∈ places (ms ++ [m]) y, promise < y.promises.made) ∧
      ∀ serial promise, .returnSend serial promise ∈ ms → promise < y.promises.made ∧
        (promise ∉ x.promises.dropped → promise ∈ places (ms ++ [m]) y) := by
  cases hstep.placed with
  | same hmade hperm =>
    refine ⟨(hperm ms).nodup_iff.mpr h.nodup, fun promise hmem => ?_, fun serial promise hmem => ?_⟩
    · rw [hmade]
      exact h.made promise ((hperm ms).subset hmem)
    · obtain ⟨hlt, hplace⟩ := h.returned serial promise hmem
      exact ⟨hmade ▸ hlt, fun hheld => (hperm ms).mem_iff.mpr (hplace hheld)⟩
  | emplaced hm hmade hperm =>
    have hnew : x.promises.made ∉ places ms x := fun hmem => lt_irrefl _ (h.made _ hmem)
    refine ⟨(hperm ms).nodup_iff.mpr (List.nodup_cons.mpr ⟨hnew, h.nodup⟩), fun promise hmem => ?_,
      fun serial promise hmem => ?_⟩
    · rw [hmade]
      rcases List.mem_cons.mp ((hperm ms).subset hmem) with rfl | hold
      · exact Nat.lt_succ_self _
      · exact Nat.lt_succ_of_lt (h.made promise hold)
    · obtain ⟨hlt, hplace⟩ := h.returned serial promise hmem
      exact ⟨hmade ▸ Nat.lt_succ_of_lt hlt,
        fun hheld => (hperm ms).mem_iff.mpr (List.mem_cons_of_mem _ (hplace hheld))⟩
  | lost q hmade hlost hperm =>
    have hnodup := List.nodup_cons.mp ((hperm ms).nodup_iff.mpr h.nodup)
    refine ⟨hnodup.2, fun promise hmem => ?_, fun serial promise hmem => ?_⟩
    · rw [hmade]
      exact h.made promise ((hperm ms).subset (List.mem_cons_of_mem _ hmem))
    · obtain ⟨hlt, hplace⟩ := h.returned serial promise hmem
      refine ⟨hmade ▸ hlt, fun hheld => ?_⟩
      rcases List.mem_cons.mp ((hperm ms).mem_iff.mpr (hplace hheld)) with rfl | hplaced
      · rcases hlost with hdropped | ⟨serial', hsending⟩
        · exact absurd hdropped hheld
        · exact absurd hmem ((h.emplaced serial' promise hsending).2 serial)
      · exact hplaced

theorem step_emplaced (h : Settling ms x) (hstep : Step x m y) {serial : UInt64}
    {promise : PromiseId} (hsending : y.sending = some (.emplaced serial promise)) :
    (serial, promise) ∈ y.promises.weakPromises.entries ∧
      ∀ other, .returnSend other promise ∉ ms ++ [m] := by
  have hold (hm : ∀ other, m ≠ .returnSend other promise)
      (hsending : x.sending = some (.emplaced serial promise)) :
      (serial, promise) ∈ x.promises.weakPromises.entries ∧
        ∀ other, .returnSend other promise ∉ ms ++ [m] := by
    obtain ⟨hentry, hnot⟩ := h.emplaced serial promise hsending
    refine ⟨hentry, fun other hmem => ?_⟩
    rcases List.mem_append.mp hmem with hmem | hmem
    · exact hnot other hmem
    · exact hm other (List.mem_singleton.mp hmem).symm
  cases hstep.stepped with
  | enterSend | refuseSend | checkSend | failSend | throwSend | returnSend => cases hsending
  | take hfree | swap hfree => rw [hfree] at hsending; cases hsending
  | emplaceSend =>
    cases hsending
    refine ⟨FlatMultimap.mem_entries_emplace.mpr (.inl rfl), fun other hmem => ?_⟩
    rcases List.mem_append.mp hmem with hmem | hmem
    · exact lt_irrefl _ (h.returned other _ hmem).1
    · cases List.mem_singleton.mp hmem
  | drop | shutdown | receive | satisfy | close | lockNext | giveUp => exact hold nofun hsending

theorem step_single (h : Settling ms x) (hstep : Step x m y) {serial other : UInt64}
    {promise : PromiseId} (hserial : .returnSend serial promise ∈ ms ++ [m])
    (hother : .returnSend other promise ∈ ms ++ [m]) : serial = other := by
  have hnew {serial : UInt64} (hm : m = .returnSend serial promise) (other : UInt64) :
      .returnSend other promise ∉ ms := by
    subst hm
    cases hstep.stepped with
    | returnSend hsending => exact (h.emplaced serial promise hsending).2 other
  rcases List.mem_append.mp hserial with hserial | hserial
  · rcases List.mem_append.mp hother with hother | hother
    · exact h.single serial other promise hserial hother
    · exact absurd hserial (hnew (List.mem_singleton.mp hother).symm serial)
  · rcases List.mem_append.mp hother with hother | hother
    · exact absurd hother (hnew (List.mem_singleton.mp hserial).symm other)
    · exact (Move.returnSend.inj
        ((List.mem_singleton.mp hserial).trans (List.mem_singleton.mp hother).symm)).1

theorem step_entries (h : Settling ms x) (hstep : Step x m y) :
    ∀ e ∈ y.promises.weakPromises.entries,
      .returnSend e.1 e.2 ∈ ms ++ [m] ∨ y.sending = some (.emplaced e.1 e.2) := by
  have hold {e : UInt64 × PromiseId} (he : e ∈ x.promises.weakPromises.entries)
      (hsending : x.sending ≠ some (.emplaced e.1 e.2)) : .returnSend e.1 e.2 ∈ ms ++ [m] :=
    List.mem_append_left _ ((h.entries e he).resolve_right hsending)
  have hsame {e : UInt64 × PromiseId} (he : e ∈ x.promises.weakPromises.entries) :
      .returnSend e.1 e.2 ∈ ms ++ [m] ∨ x.sending = some (.emplaced e.1 e.2) :=
    (h.entries e he).imp_left (List.mem_append_left _)
  intro e he
  cases hstep.stepped with
  | drop | shutdown | receive | satisfy | close | lockNext | giveUp => exact hsame he
  | enterSend hfree => exact .inl (hold he (by rw [hfree]; nofun))
  | refuseSend hsending | checkSend hsending | failSend hsending =>
    exact .inl (hold he (by rw [hsending]; nofun))
  | emplaceSend hsending =>
    rcases FlatMultimap.mem_entries_emplace.mp he with rfl | he
    · exact .inr rfl
    · exact .inl (hold he (by rw [hsending]; nofun))
  | @throwSend serial promise hsending =>
    have he' := FlatMultimap.mem_of_mem_eraseEntry he
    refine .inl (hold he' fun hsame => ?_)
    -- The entry of the call that throws is the only one of its promise.
    rw [hsending] at hsame
    cases hsame
    have hnodup : (x.promises.weakPromises.entries.map Prod.snd).Nodup :=
      h.nodup.sublist (by rw [places, List.append_assoc, List.append_assoc]; exact
        List.sublist_append_left _ _)
    have hperm := (FlatMultimap.perm_eraseEntry he').map Prod.snd
    refine (List.nodup_cons.mp (hperm.nodup_iff.mp hnodup)).1 ?_
    exact List.mem_map.mpr ⟨e, he, rfl⟩
  | @returnSend serial promise hsending =>
    rcases h.entries e he with hreturned | hsame
    · exact .inl (List.mem_append_left _ hreturned)
    · rw [hsending] at hsame
      cases hsame
      exact .inl (List.mem_append_right _ (List.mem_singleton_self _))
  | take hfree => exact .inl (hold (PromiseTable.mem_of_mem_take he) (by rw [hfree]; nofun))
  | swap => cases he

theorem step_dispatching (h : Settling ms x) (hstep : Step x m y) :
    ∀ d ∈ y.dispatching, .receive d.1 d.2 ∈ ms ++ [m] := by
  intro d hd
  cases hstep.stepped with
  | receive serial resp =>
    rcases List.mem_append.mp hd with hd | hd
    · exact List.mem_append_left _ (h.dispatching d hd)
    · rw [List.mem_singleton.mp hd]
      exact List.mem_append_right _ (List.mem_singleton_self _)
  | take => exact List.mem_append_left _ (h.dispatching d (List.mem_of_mem_erase hd))
  | _ => exact List.mem_append_left _ (h.dispatching d hd)

theorem step_taken (h : Settling ms x) (hstep : Step x m y) :
    ∀ t ∈ y.taken, ∃ serial, .returnSend serial t.1 ∈ ms ++ [m] ∧
      .receive serial t.2 ∈ ms ++ [m] := by
  have hold {t : PromiseId × InterserverResponse} (ht : t ∈ x.taken) :
      ∃ serial, .returnSend serial t.1 ∈ ms ++ [m] ∧ .receive serial t.2 ∈ ms ++ [m] := by
    obtain ⟨serial, hreturned, hreceived⟩ := h.taken t ht
    exact ⟨serial, List.mem_append_left _ hreturned, List.mem_append_left _ hreceived⟩
  intro t ht
  cases hstep.stepped with
  | @take serial resp hfree hmem =>
    rcases List.mem_append.mp ht with ht | ht
    · exact hold ht
    · -- A promise under the serial of the response, of a call that has returned.
      obtain ⟨promise, hpromise, rfl⟩ := List.mem_map.mp ht
      have hentry := PromiseTable.mem_of_take (Option.mem_toList.mp hpromise)
      have hreturned := (h.entries _ hentry).resolve_right (by rw [hfree]; nofun)
      exact ⟨serial, List.mem_append_left _ hreturned,
        List.mem_append_left _ (h.dispatching _ hmem)⟩
  | satisfy => exact hold (List.mem_of_mem_erase ht)
  | _ => exact hold ht

theorem step_settled (h : Settling ms x) (hstep : Step x m y) :
    ∀ t ∈ settlements (ms ++ [m]), t.2 = .error InterserverConnection.connectionLost ∨
      ∃ serial resp, t.2 = .ok resp ∧ .returnSend serial t.1 ∈ ms ++ [m] ∧
        .receive serial resp ∈ ms ++ [m] := by
  intro t ht
  rw [settlements_concat] at ht
  rcases List.mem_append.mp ht with ht | ht
  · refine (h.settled t ht).imp_right ?_
    rintro ⟨serial, resp, hresult, hreturned, hreceived⟩
    exact ⟨serial, resp, hresult, List.mem_append_left _ hreturned,
      List.mem_append_left _ hreceived⟩
  · cases hstep.stepped with
    | @satisfy promise resp hmem =>
      obtain rfl := List.mem_singleton.mp ht
      obtain ⟨serial, hreturned, hreceived⟩ := h.taken _ hmem
      exact .inr ⟨serial, resp, rfl, List.mem_append_left _ hreturned,
        List.mem_append_left _ hreceived⟩
    | giveUp =>
      obtain rfl := List.mem_singleton.mp ht
      exact .inl rfl
    | _ => cases ht

theorem step_swapped (h : Settling ms x) (hstep : Step x m y) (hmem : .swap ∈ ms ++ [m]) :
    ∃ held rest, y.closing = .settling held rest := by
  have hold (hm : m ≠ .swap) : ∃ held rest, x.closing = .settling held rest := by
    rcases List.mem_append.mp hmem with hmem | hmem
    · exact h.swapped hmem
    · exact absurd (List.mem_singleton.mp hmem).symm hm
  cases hstep.stepped with
  | swap => exact ⟨none, _, rfl⟩
  | close hdown hclosing =>
    obtain ⟨held, rest, hsettling⟩ := hold nofun
    cases hclosing.symm.trans hsettling
  | lockNext | giveUp => exact ⟨_, _, rfl⟩
  | _ => exact hold nofun

theorem step_down (h : Settling ms x) (hstep : Step x m y) (hclosing : y.closing ≠ .notCalled) :
    y.hasBeenShutdown = true := by
  cases hstep.stepped with
  | shutdown => rfl
  | close hdown => exact hdown
  | swap _ hcalled => exact h.down (by rw [hcalled]; nofun)
  | lockNext hsettling | giveUp hsettling => exact h.down (by rw [hsettling]; nofun)
  | _ => exact h.down hclosing

theorem step_closed (h : Settling ms x) (hstep : Step x m y) {held : Option PromiseId}
    {rest : List PromiseId} (hclosing : y.closing = .settling held rest) :
    y.promises.weakPromises.entries = [] ∧ (y.sending = none ∨ y.sending = some .entered) := by
  -- The shutdown flag is up: a call that enters now is refused.
  cases hstep.stepped with
  | enterSend => exact ⟨(h.closed held rest hclosing).1, .inr rfl⟩
  | refuseSend => exact ⟨(h.closed held rest hclosing).1, .inl rfl⟩
  | checkSend hsending hup =>
    have hdown := h.down (show x.closing ≠ .notCalled by rw [hclosing]; nofun)
    exact absurd (hup.symm.trans hdown) (by decide)
  | failSend hsending | emplaceSend hsending | throwSend hsending | returnSend hsending =>
    rcases (h.closed held rest hclosing).2 with hfree | hentered
    · cases hsending.symm.trans hfree
    · cases hsending.symm.trans hentered
  | take =>
    obtain ⟨hnone, hsending⟩ := h.closed held rest hclosing
    refine ⟨List.eq_nil_iff_forall_not_mem.mpr fun e he => ?_, hsending⟩
    have hmem := PromiseTable.mem_of_mem_take he
    rw [hnone] at hmem
    cases hmem
  | close => cases hclosing
  | swap hfree => exact ⟨rfl, .inl hfree⟩
  | lockNext hsettling | giveUp hsettling => exact h.closed _ _ hsettling
  | drop | shutdown | receive | satisfy => exact h.closed held rest hclosing

theorem step_dropped (hstep : Step x m y) {promise : PromiseId}
    (hdropped : promise ∈ x.promises.dropped) : promise ∈ y.promises.dropped := by
  cases hstep.stepped with
  | drop => exact List.mem_cons_of_mem _ hdropped
  | take =>
    dsimp only
    rw [PromiseTable.take]
    split <;> exact hdropped
  | _ => exact hdropped

/-- **One move is accounted for.** -/
theorem step (h : Settling ms x) (hstep : Step x m y) : Settling (ms ++ [m]) y := by
  obtain ⟨hnodup, hmade, hreturned⟩ := h.step_nodup hstep
  refine
    { nodup := hnodup
      made := hmade
      returned := fun serial promise hmem => ?_
      emplaced := fun _ _ => h.step_emplaced hstep
      single := fun _ _ _ => h.step_single hstep
      entries := h.step_entries hstep
      dispatching := h.step_dispatching hstep
      taken := h.step_taken hstep
      settled := h.step_settled hstep
      swapped := h.step_swapped hstep
      down := h.step_down hstep
      closed := fun _ _ => h.step_closed hstep }
  rcases List.mem_append.mp hmem with hmem | hmem
  · obtain ⟨hlt, hplace⟩ := hreturned serial promise hmem
    exact ⟨hlt, fun hheld => hplace fun hdropped => hheld (step_dropped hstep hdropped)⟩
  · obtain rfl := List.mem_singleton.mp hmem
    cases hstep.stepped with
    | returnSend hsending =>
      have hplace (ms : List Move) : promise ∈ places ms { x with sending := none } :=
        mem_places_of_entry (h.emplaced serial promise hsending).1
      exact ⟨hmade promise (hplace _), fun _ => hplace _⟩

end Settling

/-! ## The theorem -/

/-- **Every promise is settled once.**  In every run of the moves, from a connection just made: no
promise is settled twice; nothing is in the table once `layer4_on_close` has swapped it out; every
entry of the table is of a call that returned its promise, or of the one that is launching its
request, so a call that throws leaves none; and when `layer4_on_close` and the responses in progress
have finished, each promise that was returned and that its requester still holds is settled, by the
connection-lost exception or by a response with its serial. -/
theorem promises_settled_once {ms : List Move} {y : Settlement} (hrun : Lts.Run Step start ms y) :
    ((settlements ms).map Prod.fst).Nodup ∧
      (.swap ∈ ms → y.promises.weakPromises.entries = []) ∧
      (∀ e ∈ y.promises.weakPromises.entries,
        .returnSend e.1 e.2 ∈ ms ∨ y.sending = some (.emplaced e.1 e.2)) ∧
      (y.Finished → ∀ serial promise, .returnSend serial promise ∈ ms →
        promise ∉ y.promises.dropped →
          (promise, .error InterserverConnection.connectionLost) ∈ settlements ms ∨
            ∃ resp, (promise, .ok resp) ∈ settlements ms ∧ .receive serial resp ∈ ms) := by
  have h : Settling ms y := hrun.historyInvariant (J := Settling) Settling.step .start
  refine ⟨?_, fun hswap => ?_, h.entries, ?_⟩
  · refine h.nodup.sublist ?_
    rw [places]
    exact List.sublist_append_right _ _
  · obtain ⟨held, rest, hclosing⟩ := h.swapped hswap
    exact (h.closed held rest hclosing).1
  · rintro ⟨hclosing, -, htaken⟩ serial promise hreturned hheld
    have hplace := (h.returned serial promise hreturned).2 hheld
    rw [places, (h.closed _ _ hclosing).1, htaken, hclosing] at hplace
    obtain ⟨⟨promise, result⟩, hsettled, rfl⟩ := List.mem_map.mp hplace
    rcases h.settled _ hsettled with hlost | ⟨serial', resp, hresult, hreturned', hreceived⟩
    · rw [show result = _ from hlost] at hsettled
      exact .inl hsettled
    · rw [show result = _ from hresult] at hsettled
      obtain rfl := h.single serial' serial promise hreturned' hreturned
      exact .inr ⟨resp, hsettled, hreceived⟩

/-- What a move leads to, if it can be made. -/
def next (x : Settlement) (m : Move) : Move × Settlement := (m, (x.step m).getD x)

theorem step_next {x : Settlement} {m : Move} (h : (x.step m).isSome = true) :
    Step x (x.next m).1 (x.next m).2 :=
  (Option.some_get h).symm.trans (congrArg some (Option.get_eq_getD _))

/-- Two requests, one that throws between them, a response to the first that is taken as the
connection is closed. -/
def trialMoves : List Move :=
  [.enterSend, .checkSend, .emplaceSend, .returnSend 1 0,
    .enterSend, .checkSend, .emplaceSend, .throwSend 2 1,
    .enterSend, .checkSend, .emplaceSend, .returnSend 3 2,
    .receive 1 ⟨0, "", 0, []⟩, .shutdown, .close, .take 1 ⟨0, "", 0, []⟩, .swap,
    .enterSend, .refuseSend, .lockNext, .giveUp 2, .satisfy 0 ⟨0, "", 0, []⟩]

theorem promises_settled_once_trial :
    (Lts.final next start trialMoves).Finished ∧
      ((settlements (Lts.trace next start trialMoves)).map Prod.fst).Nodup ∧
      (settlements (Lts.trace next start trialMoves)).map Prod.fst = [2, 0] := by
  have hrun := Lts.Run.of_admits next (fun x m => (x.step m).isSome = true) step_next
    start trialMoves (by decide +kernel)
  exact ⟨⟨by decide +kernel, by decide +kernel, by decide +kernel⟩,
    (promises_settled_once hrun).1, by decide +kernel⟩

end Settlement

/-! ## A connection, move by move -/

/-- The promises that effects settle. -/
def settles (effects : List Effect) : List (PromiseId × Except Exception InterserverResponse) :=
  effects.filterMap fun
    | .settled promise result => some (promise, result)
    | _ => none

namespace InterserverConnection

variable {Φ σ : Type} {P : Platform Φ} {post : Uuid → σ → Except Exception Unit × σ}
  {c c' : InterserverConnection Φ} {effects : List Effect} {closing closing' : ClosePhase}

/-- A connection between two events, no thread being in the middle of anything. -/
def settlement (c : InterserverConnection Φ) (closing : ClosePhase) : Settlement :=
  ⟨c.promises, c.hasBeenShutdown, none, [], [], closing⟩

/-- Some moves do what an event did. -/
def Moved (c : InterserverConnection Φ) (closing : ClosePhase) (effects : List Effect)
    (c' : InterserverConnection Φ) (closing' : ClosePhase) : Prop :=
  ∃ ms, Lts.Run Settlement.Step (c.settlement closing) ms (c'.settlement closing') ∧
    settlements ms = settles effects

/-- An event that leaves the promises alone is a shutdown at most. -/
theorem Moved.of_promises (hsettles : settles effects = []) (hpromises : c'.promises = c.promises)
    (hmono : c.hasBeenShutdown = true → c'.hasBeenShutdown = true) :
    Moved c closing effects c' closing := by
  cases hdown : c'.hasBeenShutdown with
  | true =>
    refine ⟨[.shutdown], .single ?_, hsettles.symm⟩
    simp [Settlement.Step, Settlement.step, settlement, hpromises, hdown]
  | false =>
    have hup : c.hasBeenShutdown = false := by
      by_contra h
      exact absurd (hdown.symm.trans (hmono (by simpa using h))) (by decide)
    refine ⟨[], ?_, hsettles.symm⟩
    rw [settlement, settlement, hpromises, hdown, hup]
    exact .nil _

theorem moved_sendRequest (msg : Message) (thrown : Option Exception)
    (c : InterserverConnection Φ) :
    Moved c closing (c.sendRequest P msg thrown).2.2 (c.sendRequest P msg thrown).2.1 closing := by
  simp only [sendRequest]
  split
  case isTrue => exact .of_promises rfl rfl id
  case isFalse =>
    split
    case isTrue => exact .of_promises rfl rfl id
    case isFalse hup =>
      have hup : c.hasBeenShutdown = false := by simpa using hup
      have hlaunching : Lts.Run Settlement.Step (c.settlement closing)
          [.enterSend, .checkSend, .emplaceSend]
          { c.settlement closing with
            promises := c.promises.emplace
            sending := some (.emplaced c.promises.serial c.promises.made) } :=
        .cons (Settlement.Stepped.enterSend rfl).step
          (.cons (Settlement.Stepped.checkSend rfl hup).step
            (.single (Settlement.Stepped.emplaceSend rfl).step))
      cases thrown with
      | some e =>
        refine ⟨_, hlaunching.snoc (Settlement.Stepped.throwSend rfl).step, rfl⟩
      | none =>
        refine ⟨_, hlaunching.snoc (Settlement.Stepped.returnSend rfl).step, rfl⟩

theorem moved_dispatch (hup : c.hasBeenShutdown = false) (magicNumber : UInt16)
    (magicPayload : Bytes) :
    Moved c closing (c.dispatch P magicNumber magicPayload).2.2
      (c.dispatch P magicNumber magicPayload).2.1 closing := by
  rw [dispatch]
  split
  case isTrue hresponse =>
    split
    case h_1 => exact .of_promises rfl rfl id
    case h_2 hdr payload hread =>
      dsimp only
      generalize hresp : (⟨hdr.errCode, hdr.errMsg,
        (magicNumber &&& messageIdMax.toUInt16).toUInt64,
        payload⟩ : InterserverResponse) = resp
      have htaking : Lts.Run Settlement.Step (c.settlement closing)
          [.receive hdr.serial resp, .take hdr.serial resp]
          { c.settlement closing with
            promises := (c.promises.take hdr.serial).2
            dispatching := [(hdr.serial, resp)].erase (hdr.serial, resp)
            taken := (c.promises.take hdr.serial).1.toList.map fun promise => (promise, resp) } :=
        .cons (Settlement.Stepped.receive _ _ hup).step
          (.single (Settlement.Stepped.take rfl (List.mem_singleton_self _)).step)
      rw [List.erase_cons_head] at htaking
      cases htaken : (c.promises.take hdr.serial).1 with
      | none =>
        rw [htaken] at htaking
        exact ⟨_, htaking, rfl⟩
      | some promise =>
        rw [htaken] at htaking
        refine ⟨_, htaking.snoc (l := .satisfy promise resp) (Settlement.Stepped.step ?_), rfl⟩
        have hsatisfy := Settlement.Stepped.satisfy (x := { c.settlement closing with
          promises := (c.promises.take hdr.serial).2
          dispatching := []
          taken := (some promise).toList.map fun promise => (promise, resp) })
          (List.mem_singleton_self (promise, resp))
        have herase : ((some promise).toList.map fun promise => (promise, resp)).erase
            (promise, resp) = [] := List.erase_cons_head ..
        rw [herase] at hsatisfy
        exact hsatisfy
  case isFalse =>
    repeat' split
    all_goals exact .of_promises rfl rfl id

/-- A shutdown after an event that did not change what it is about. -/
theorem Moved.shutdownIfThrown (h : Moved c closing effects c' closing')
    (result : Except Exception Unit) :
    Moved c closing effects (InterserverConnection.shutdownIfThrown result c') closing' := by
  cases result with
  | ok => exact h
  | error e =>
    obtain ⟨ms, hrun, hsettlements⟩ := h
    have hdown : (InterserverConnection.shutdownIfThrown (.error e) c').settlement closing'
        = { c'.settlement closing' with hasBeenShutdown := true } := by
      rw [settlement, hasBeenShutdown_of_error]
      rfl
    refine ⟨ms ++ [.shutdown], hrun.snoc ?_, ?_⟩
    · rw [hdown]
      exact Settlement.Stepped.shutdown.step
    · rw [Settlement.settlements_concat, hsettlements]
      exact List.append_nil _

theorem moved_tryInflateAndDispatch (hup : c.hasBeenShutdown = false) (magicNumber : UInt16)
    (encodedPayload : Bytes) (rest : List Task) (s : σ) {o : Outcome σ Φ}
    (ho : o =
      tryInflateAndDispatch P post magicNumber encodedPayload { c with workhorse := rest } s) :
    Moved c closing o.effects (InterserverConnection.shutdownIfThrown o.result o.connection)
      closing := by
  have hspec := ho ▸ tryInflateAndDispatch_spec P post magicNumber encodedPayload
    { c with workhorse := rest } s
  clear ho
  have hhello {magicNumber : UInt16} {effects : List Effect}
      (heffects : effects.Sublist [.received magicNumber encodedPayload encodedPayload]) :
      settles effects = [] := by
    rcases List.sublist_singleton.mp heffects with rfl | rfl <;> rfl
  refine Moved.shutdownIfThrown ?_ _
  cases hspec with
  | clientHello hmagic h =>
    cases h with
    | refused e effects heffects => exact .of_promises (hhello heffects) rfl id
    | halted | accepted => exact .of_promises rfl rfl id
  | serverHello hmagic h =>
    cases h with
    | refused e effects heffects => exact .of_promises (hhello heffects) rfl id
    | halted | accepted => exact .of_promises rfl rfl id
  | unread => exact .of_promises rfl rfl id
  | read magicPayload filter =>
    exact moved_dispatch (c := { c with workhorse := rest, messageFilter := some filter }) hup
      magicNumber magicPayload

/-- `layer4_on_close` goes through the promises one by one. -/
theorem run_giveUp (x : Settlement) (rest : List PromiseId) :
    ∃ ms, Lts.Run Settlement.Step { x with closing := .settling none rest } ms
        { x with closing := .settling none [] } ∧
      settlements ms = (rest.filterMap x.promises.lock).map fun promise =>
        (promise, .error connectionLost) := by
  induction rest with
  | nil => exact ⟨[], .nil _, rfl⟩
  | cons promise rest ih =>
    obtain ⟨ms, hrun, hsettlements⟩ := ih
    have hlock := Settlement.Stepped.lockNext
      (x := { x with closing := .settling none (promise :: rest) }) rfl
    cases hheld : x.promises.lock promise with
    | none =>
      rw [show x.promises.lock promise = none from hheld] at hlock
      refine ⟨.lockNext :: ms, hrun.cons hlock.step, ?_⟩
      rw [List.filterMap_cons, hheld]
      exact hsettlements
    | some held =>
      rw [show x.promises.lock promise = some held from hheld] at hlock
      have hgiveUp := Settlement.Stepped.giveUp
        (x := { x with closing := .settling (some held) rest }) rfl
      refine ⟨.lockNext :: .giveUp held :: ms, (hrun.cons hgiveUp.step).cons hlock.step, ?_⟩
      rw [List.filterMap_cons, hheld]
      exact congrArg (_ :: ·) hsettlements

theorem moved_close (c : InterserverConnection Φ) :
    ∃ closing', Moved c .notCalled c.layer4OnClose.1 c.layer4OnClose.2 closing' ∧
      (closing' = .notCalled ∨ closing' = .settling none []) := by
  rw [layer4OnClose]
  split
  case isFalse => exact ⟨.notCalled, .of_promises rfl rfl id, .inl rfl⟩
  case isTrue hdown =>
    obtain ⟨ms, hrun, hsettlements⟩ := run_giveUp
      { c.settlement .called with promises := { c.promises with weakPromises := .empty } }
      (c.promises.weakPromises.entries.map Prod.snd)
    refine ⟨.settling none [], ⟨.close :: .swap :: ms,
      (hrun.cons (Settlement.Stepped.swap rfl rfl).step).cons
        (Settlement.Stepped.close hdown rfl).step, ?_⟩, .inr rfl⟩
    have hlock : (c.promises.weakPromises.entries.map Prod.snd).filterMap c.promises.lock
        = c.promises.weakPromises.entries.filterMap fun e => c.promises.lock e.2 :=
      List.filterMap_map ..
    have hsettles (ps : List PromiseId) :
        settles (ps.map fun promise => .settled promise (.error connectionLost))
          = ps.map fun promise => (promise, .error connectionLost) := by
      rw [settles, List.filterMap_map, ← List.filterMap_eq_map]
      rfl
    refine Eq.trans hsettlements ?_
    rw [hsettles]
    exact congrArg (List.map _) hlock

variable (post) in
/-- **Any event is a run of moves.** -/
theorem moved_handle (event : Event) (s : σ)
    (hclosing : closing = .notCalled ∨
      closing = .settling none [] ∧ c.promises.weakPromises.entries = []) :
    ∃ closing', Moved c closing (c.handle P post event s).1 (c.handle P post event s).2.1 closing' ∧
      (closing' = .notCalled ∨ closing' = .settling none []) := by
  have hmono := fun hdown => hasBeenShutdown_handle P post (c := c) hdown event s
  suffices hmoved : event ≠ .close →
      Moved c closing (c.handle P post event s).1 (c.handle P post event s).2.1 closing by
    by_cases hevent : event = .close
    · subst hevent
      rcases hclosing with rfl | ⟨rfl, hnone⟩
      · exact moved_close c
      · -- The table was swapped out before.
        refine ⟨.settling none [], .of_promises ?_ ?_ hmono, .inr rfl⟩
        · simp only [handle, layer4OnClose, hnone]
          split <;> rfl
        · simp only [handle, layer4OnClose]
          split
          · have hempty : c.promises.weakPromises = .empty := FlatMultimap.ext hnone
            rw [← hempty]
          · rfl
    · exact ⟨closing, hmoved hevent, hclosing.imp_right And.left⟩
  intro hevent
  cases event with
  | close => exact absurd rfl hevent
  | receiveData | shutdown => exact .of_promises rfl rfl hmono
  | drop promise =>
    exact ⟨[.drop promise], .single (Settlement.Stepped.drop promise).step, rfl⟩
  | receiveControl statusCode param =>
    refine .of_promises ?_ ?_ hmono
    all_goals
      simp only [handle, layer5OnReceiveControl]
      repeat' split
      all_goals rfl
  | sendRequest msg thrown => exact moved_sendRequest msg thrown c
  | sendNotification msg thrown =>
    refine .of_promises ?_ ?_ hmono
    all_goals
      simp only [handle, sendNotification]
      repeat' split
      all_goals rfl
  | perform job handled => exact .of_promises rfl (performJob_frame job handled _).2 hmono
  | work =>
    simp only [handle, work]
    split
    case h_1 => exact .of_promises rfl rfl id
    case h_3 magicNumber magicPayload rest hhead =>
      refine .of_promises ?_ (deflateAndSend_frame magicNumber magicPayload _).2 ?_
      · obtain ⟨-, ⟨heffects, -⟩ | ⟨encodedPayload, heffects⟩⟩ :=
          deflateAndSend_cases (P := P) magicNumber magicPayload { c with workhorse := rest }
        · rw [heffects]
          rfl
        · rw [heffects]
          rfl
      · intro hdown
        have h := hmono hdown
        simpa only [handle, work, hhead] using h
    case h_2 magicNumber encodedPayload rest hhead =>
      rw [inflateAndDispatch]
      split
      case isTrue => exact .of_promises rfl rfl id
      case isFalse hup =>
        have hup : c.hasBeenShutdown = false := by simpa [hasBeenShutdown] using hup
        exact moved_tryInflateAndDispatch hup magicNumber encodedPayload rest s rfl

end InterserverConnection

/-- **A connection settles no promise twice**, whatever happens to it. -/
theorem nodup_settles_of_run {Φ σ : Type} {P : Platform Φ}
    {post : Uuid → σ → Except Exception Unit × σ} {x y : InterserverConnection Φ × σ}
    {ls : List Label} (hpromises : x.1.promises = .empty) (hup : x.1.hasBeenShutdown = false)
    (hrun : Lts.Run (Step P post) x ls y) :
    ((settles (ls.flatMap Label.effects)).map Prod.fst).Nodup := by
  have hstart : x.1.settlement .notCalled = .start := by
    rw [InterserverConnection.settlement, hpromises, hup]
    rfl
  suffices hmoves : ∃ ms closing, Lts.Run Settlement.Step .start ms (y.1.settlement closing) ∧
      settlements ms = settles (ls.flatMap Label.effects) ∧
      (closing = .notCalled ∨ closing = .settling none []) by
    obtain ⟨ms, closing, hmoves, hsettlements, -⟩ := hmoves
    have h := hmoves.historyInvariant (J := Settlement.Settling) Settlement.Settling.step .start
    rw [← hsettlements]
    exact h.nodup.sublist (by rw [Settlement.places]; exact List.sublist_append_right _ _)
  refine hrun.historyInvariant (J := fun ls y => ∃ ms closing,
    Lts.Run Settlement.Step .start ms (y.1.settlement closing) ∧
      settlements ms = settles (ls.flatMap Label.effects) ∧
      (closing = .notCalled ∨ closing = .settling none []))
    ?_ ⟨[], .notCalled, hstart ▸ .nil _, rfl, .inl rfl⟩
  rintro ls u l v ⟨ms, closing, hmoves, hsettlements, hclosing⟩ ⟨henabled, hhandle⟩
  have h := hmoves.historyInvariant (J := Settlement.Settling) Settlement.Settling.step .start
  obtain ⟨closing', ⟨ms', hmoves', hsettlements'⟩, hclosing'⟩ :=
    InterserverConnection.moved_handle (P := P) post l.event u.2
      (hclosing.imp_right fun hsettling => ⟨hsettling, (h.closed none [] hsettling).1⟩)
  rw [hhandle] at hmoves' hsettlements'
  refine ⟨ms ++ ms', closing', hmoves.append hmoves', ?_, hclosing'⟩
  rw [settlements, List.filterMap_append, List.flatMap_append, settles, List.filterMap_append]
  refine congrArg₂ _ hsettlements ?_
  rw [List.flatMap_singleton]
  exact hsettlements'

end Circe.Common
