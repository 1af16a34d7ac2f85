import Circe.Common.InterserverConnector

/-!
# Common/TimerProc — a tick of a connector, and the hosts it gets to

`timer_proc` from its beginning to its end, where nothing comes between (`run_timerProc`: that is a
run of the connector).  It looks the hosts up one after the other, and an exception from a lookup
leaves the loop: a host gets a client exactly if no lookup fails before its turn
(`starvesNoHost_iff`).  Nothing but a lookup throws here: a client whose address is known is made,
its socket added, and a ping sent.
-/

namespace Circe.Common

namespace InterserverConnector

variable {Φ α : Type} (P : Platform Φ) (lookup : Bytes → UInt16 → Except Exception α)
  (draw : ClientId → Uuid × UInt64) (localTime : Bytes)

/-- A client for a host that has none, once its address is known. -/
def connect (x : InterserverConnector Φ α) (host : Bytes) (sockAddr : α) :
    Except Exception (ClientId × InterserverConnector Φ α) :=
  let x := (x.touch host).kill host
  let n := x.clients.length
  (x.makeClient P host sockAddr (draw n).1 (draw n).2).map fun client =>
    (n, { x with clients := x.clients ++ [client] }.store host n)

/-- The loop of `timer_proc`, with the pings it sends. -/
def timerLoop : List Bytes → InterserverConnector Φ α →
    Except Exception Unit × List (ClientId × Effect) × InterserverConnector Φ α
  | [], x => (.ok (), [], x)
  | host :: hosts, x =>
    match x.lockEntry host with
    | some n =>
      let (result, effects, y) := timerLoop hosts (x.touch host)
      (result, x.ping P n localTime ++ effects, y)
    | none =>
      match (lookup host x.port).bind fun sockAddr => x.connect P draw host sockAddr with
      | .error e => (.error e, [], x.touch host)
      | .ok (n, y) =>
        let (result, effects, z) := timerLoop hosts y
        (result, y.ping P n localTime ++ effects, z)

/-- `timer_proc`. -/
def timerProc (x : InterserverConnector Φ α) :
    Except Exception Unit × List (ClientId × Effect) × InterserverConnector Φ α :=
  timerLoop P lookup draw localTime x.hosts x

variable {P lookup draw localTime} {x y : InterserverConnector Φ α} {host other : Bytes}
  {hosts : List Bytes} {n : ClientId} {sockAddr : α}

/-! ## What a turn of the loop does -/

/-- A weak pointer is to a client that was made. -/
def Allocated (x : InterserverConnector Φ α) : Prop :=
  ∀ host n, x.entry host = some n → n < x.clients.length

/-- The client that a host gets. -/
def greetingClient (P : Platform Φ) (draw : ClientId → Uuid × UInt64)
    (x : InterserverConnector Φ α) (host : Bytes) (sockAddr : α) : InterserverClient Φ α :=
  ⟨host, sockAddr, ((InterserverConnection.new x.applicationKey).layer7ClientSayHello P
    (draw x.clients.length).1 (draw x.clients.length).2 []).2, false⟩

theorem lockEntry_touch : (x.touch other).lockEntry host = x.lockEntry host := by
  rw [lockEntry, entry_touch]
  rfl

variable (P draw) in
/-- A host that has no client gets one. -/
theorem connect_eq (h : x.lockEntry host = none) (sockAddr : α) :
    x.connect P draw host sockAddr = .ok (x.clients.length,
      { (x.touch host).touch host with
        clients := x.clients ++ [x.greetingClient P draw host sockAddr] }.store host
          x.clients.length) := by
  have hkill : (x.touch host).kill host = (x.touch host).touch host := by
    rw [kill, lockEntry_touch, h]
  simp only [connect, hkill]
  rfl

theorem lock_of_lt {client : InterserverClient Φ α}
    (hclients : y.clients = x.clients ++ [client]) (hlt : n < x.clients.length) :
    y.lock n = x.lock n := by
  rw [lock, hclients, List.getElem?_append_left hlt, lock]

/-- A live client of the host, which has said hello. -/
def Greets (P : Platform Φ) (x : InterserverConnector Φ α) (host : Bytes) : Prop :=
  ∃ n client, x.lockEntry host = some n ∧ x.lock n = some client ∧ client.host = host ∧
    ∃ connectionUuid timestamp, (InterserverConnection.new x.applicationKey).layer7ClientSayHello P
      connectionUuid timestamp [] = (.ok (), client.connection)

/-- **What a turn of the loop leaves as it was.** -/
structure Keeps (x y : InterserverConnector Φ α) : Prop where
  allocated : x.Allocated → y.Allocated
  port : y.port = x.port
  applicationKey : y.applicationKey = x.applicationKey
  lockEntry : ∀ {host n}, x.Allocated → x.lockEntry host = some n →
    y.lockEntry host = some n ∧ y.lock n = x.lock n

theorem Keeps.trans {z : InterserverConnector Φ α} (h : Keeps x y) (h' : Keeps y z) :
    Keeps x z where
  allocated hx := h'.allocated (h.allocated hx)
  port := h'.port.trans h.port
  applicationKey := h'.applicationKey.trans h.applicationKey
  lockEntry hx hlock :=
    have hy := h.lockEntry hx hlock
    have hz := h'.lockEntry (h.allocated hx) hy.1
    ⟨hz.1, hz.2.trans hy.2⟩

theorem Keeps.greets (h : Keeps x y) (hallocated : x.Allocated) (hgreets : x.Greets P host) :
    y.Greets P host := by
  obtain ⟨n, client, hentry, hlock, hhost, hello⟩ := hgreets
  obtain ⟨hentry', hlock'⟩ := h.lockEntry hallocated hentry
  exact ⟨n, client, hentry', hlock'.trans hlock, hhost, h.applicationKey ▸ hello⟩

theorem keeps_touch (host : Bytes) : Keeps x (x.touch host) where
  allocated hx other n h := hx other n ((entry_touch host).symm.trans h)
  port := rfl
  applicationKey := rfl
  lockEntry _ h := ⟨lockEntry_touch.trans h, rfl⟩

theorem lockEntry_eq_some :
    x.lockEntry host = some n ↔ x.entry host = some n ∧ (x.lock n).isSome = true := by
  rw [lockEntry, Option.filter_eq_some_iff]

section Connect

variable (hnone : x.lockEntry host = none)
  (hconnect : x.connect P draw host sockAddr = .ok (n, y))

include hnone hconnect

/-- The table has the new client, and otherwise what it had. -/
theorem entry_connect : y.entry other = if other = host then some n else x.entry other := by
  rw [connect_eq P draw hnone] at hconnect
  cases hconnect
  rw [entry_store]
  split
  · rfl
  · exact (entry_touch host).trans (entry_touch host)

theorem clients_connect : n = x.clients.length ∧
    y.clients = x.clients ++ [x.greetingClient P draw host sockAddr] ∧ y.port = x.port ∧
      y.applicationKey = x.applicationKey := by
  rw [connect_eq P draw hnone] at hconnect
  cases hconnect
  exact ⟨rfl, rfl, rfl, rfl⟩

theorem lock_connect : y.lock n = some (x.greetingClient P draw host sockAddr) := by
  obtain ⟨rfl, hclients, -⟩ := clients_connect hnone hconnect
  exact lock_eq_some.mpr ⟨hclients ▸ List.getElem?_concat_length, rfl⟩

/-- **The other hosts keep what they have**, a client or none. -/
theorem lockEntry_connect_of_ne (hallocated : x.Allocated) (hne : other ≠ host) :
    y.lockEntry other = x.lockEntry other := by
  obtain ⟨-, hclients, -⟩ := clients_connect hnone hconnect
  rw [lockEntry, entry_connect hnone hconnect, if_neg hne, lockEntry]
  cases hentry : x.entry other with
  | none => rfl
  | some m =>
    rw [Option.filter_some, Option.filter_some, lock_of_lt hclients (hallocated other m hentry)]

theorem keeps_connect : Keeps x y := by
  obtain ⟨hn, hclients, hport, hkey⟩ := clients_connect hnone hconnect
  refine ⟨fun hallocated other m hentry => ?_, hport, hkey, fun {other m} hallocated hlock => ?_⟩
  · rw [hclients, List.length_append, List.length_singleton]
    rw [entry_connect hnone hconnect] at hentry
    split at hentry
    · rw [← Option.some_inj.mp hentry, hn]
      exact Nat.lt_succ_self _
    · exact (hallocated other m hentry).trans (Nat.lt_succ_self _)
  · have hne : other ≠ host := by
      rintro rfl
      rw [hnone] at hlock
      cases hlock
    exact ⟨(lockEntry_connect_of_ne hnone hconnect hallocated hne).trans hlock,
      lock_of_lt hclients (hallocated other m (lockEntry_eq_some.mp hlock).1)⟩

theorem greets_connect : y.Greets P host := by
  have hlock := lock_connect hnone hconnect
  obtain ⟨-, -, -, hkey⟩ := clients_connect hnone hconnect
  refine ⟨n, _, lockEntry_eq_some.mpr ⟨?_, by rw [hlock]; rfl⟩, hlock, rfl,
    (draw x.clients.length).1, (draw x.clients.length).2, ?_⟩
  · rw [entry_connect hnone hconnect, if_pos rfl]
  · rw [hkey]
    rfl

end Connect

/-! ## The hosts a tick gets to -/

/-- The hosts before the first that has no client and whose lookup fails. -/
def reached (lookup : Bytes → UInt16 → Except Exception α) (x : InterserverConnector Φ α)
    (hosts : List Bytes) : List Bytes :=
  hosts.takeWhile fun host => (x.lockEntry host).isSome || (lookup host x.port).isOk

/-- **What becomes of a host.** -/
structure Served (P : Platform Φ) (lookup : Bytes → UInt16 → Except Exception α)
    (x y : InterserverConnector Φ α) (hosts : List Bytes) : Prop where
  keeps : Keeps x y
  greets : ∀ host ∈ reached lookup x hosts, x.lockEntry host = none → y.Greets P host
  starved : ∀ host, host ∉ reached lookup x hosts → x.lockEntry host = none →
    y.lockEntry host = none

/-- A turn that leaves every host with what counts leaves the rest of the loop as it was. -/
theorem reached_congr (hport : y.port = x.port)
    (h : ∀ host, (y.lockEntry host).isSome = (x.lockEntry host).isSome ∨
      (lookup host x.port).isOk = true) : reached lookup y hosts = reached lookup x hosts := by
  have hpred : (fun host => (y.lockEntry host).isSome || (lookup host y.port).isOk)
      = fun host => (x.lockEntry host).isSome || (lookup host x.port).isOk := by
    funext host
    rw [hport]
    rcases h host with hsame | hok
    · rw [hsame]
    · rw [hok, Bool.or_true, Bool.or_true]
  rw [reached, hpred, reached]

theorem Served.cons_of_some (hlock : x.lockEntry host = some n)
    (h : Served P lookup (x.touch host) y hosts) : Served P lookup x y (host :: hosts) := by
  have hreached : reached lookup x (host :: hosts)
    = host :: reached lookup (x.touch host) hosts := by
    rw [reached_congr (x := x) (y := x.touch host) rfl fun other => .inl (by rw [lockEntry_touch]),
      reached, List.takeWhile_cons, hlock, Option.isSome_some, Bool.true_or, if_pos rfl, reached]
  refine ⟨(keeps_touch host).trans h.keeps, fun other hmem hnone => ?_, fun other hmem hnone => ?_⟩
  · rw [hreached, List.mem_cons] at hmem
    refine h.greets other (hmem.resolve_left ?_) (lockEntry_touch.trans hnone)
    rintro rfl
    rw [hlock] at hnone
    cases hnone
  · rw [hreached, List.mem_cons, not_or] at hmem
    exact h.starved other hmem.2 (lockEntry_touch.trans hnone)

theorem Served.cons_of_connect {z : InterserverConnector Φ α} (hallocated : x.Allocated)
    (hnone : x.lockEntry host = none) (hlookup : lookup host x.port = .ok sockAddr)
    (hconnect : x.connect P draw host sockAddr = .ok (n, y)) (h : Served P lookup y z hosts) :
    Served P lookup x z (host :: hosts) := by
  have hkeeps := keeps_connect hnone hconnect
  have hreached : reached lookup x (host :: hosts) = host :: reached lookup y hosts := by
    rw [reached_congr (x := x) hkeeps.port, reached, List.takeWhile_cons, hlookup]
    · exact if_pos (Bool.or_true _)
    · intro other
      rcases eq_or_ne other host with rfl | hne
      · exact .inr (by rw [hlookup]; rfl)
      · exact .inl (by rw [lockEntry_connect_of_ne hnone hconnect hallocated hne])
  refine ⟨hkeeps.trans h.keeps, fun other hmem hother => ?_, fun other hmem hother => ?_⟩
  · rcases eq_or_ne other host with rfl | hne
    · exact h.keeps.greets (hkeeps.allocated hallocated) (greets_connect hnone hconnect)
    · rw [hreached, List.mem_cons] at hmem
      exact h.greets other (hmem.resolve_left hne)
        ((lockEntry_connect_of_ne hnone hconnect hallocated hne).trans hother)
  · rw [hreached, List.mem_cons, not_or] at hmem
    exact h.starved other hmem.2
      ((lockEntry_connect_of_ne hnone hconnect hallocated hmem.1).trans hother)

theorem served_timerLoop (hallocated : x.Allocated) :
    Served P lookup x (timerLoop P lookup draw localTime hosts x).2.2 hosts := by
  induction hosts generalizing x with
  | nil =>
    refine ⟨⟨id, rfl, rfl, fun _ h => ⟨h, rfl⟩⟩, fun host h => ?_, fun host _ h => h⟩
    cases h
  | cons host hosts ih =>
    cases hlock : x.lockEntry host with
    | some n =>
      simp only [timerLoop, hlock]
      exact .cons_of_some hlock (ih ((keeps_touch host).allocated hallocated))
    | none =>
      cases hlookup : lookup host x.port with
      | error e =>
        -- The exception leaves the loop.
        have hreached : reached lookup x (host :: hosts) = [] := by
          rw [reached, List.takeWhile_cons, hlock, hlookup]
          rfl
        simp only [timerLoop, hlock, hlookup]
        refine ⟨keeps_touch host, fun other h => ?_, fun other _ h => lockEntry_touch.trans h⟩
        rw [hreached] at h
        cases h
      | ok sockAddr =>
        have hconnect := connect_eq P draw hlock sockAddr
        have hkeeps := keeps_connect hlock hconnect
        simp only [timerLoop, hlock, hlookup, Except.bind, hconnect]
        exact .cons_of_connect hallocated hlock hlookup hconnect (ih (hkeeps.allocated hallocated))

/-! ## No host starves -/

/-- **A tick starves no host**: a host that has a live client still has it, and another whose lookup
would succeed has a live client that has said hello. -/
structure StarvesNoHost (P : Platform Φ) (lookup : Bytes → UInt16 → Except Exception α)
    (x y : InterserverConnector Φ α) : Prop where
  keeps : ∀ host ∈ x.hosts, ∀ n, x.lockEntry host = some n →
    y.lockEntry host = some n ∧ y.lock n = x.lock n
  greets : ∀ host ∈ x.hosts, x.lockEntry host = none → (lookup host x.port).isOk = true →
    y.Greets P host

/-- **No host starves exactly if no host without a client whose lookup fails stands before one that
could get a client.** -/
theorem starvesNoHost_iff (P : Platform Φ) (lookup : Bytes → UInt16 → Except Exception α)
    (draw : ClientId → Uuid × UInt64) (localTime : Bytes) {x : InterserverConnector Φ α}
    (hallocated : x.Allocated) :
    StarvesNoHost P lookup x (x.timerProc P lookup draw localTime).2.2 ↔
      ∀ host ∈ x.hosts, x.lockEntry host = none → (lookup host x.port).isOk = true →
        host ∈ reached lookup x x.hosts := by
  have hserved : Served P lookup x (x.timerProc P lookup draw localTime).2.2 x.hosts :=
    served_timerLoop hallocated
  constructor
  · intro h host hmem hnone hok
    by_contra hnot
    obtain ⟨n, -, hlock, -⟩ := h.greets host hmem hnone hok
    rw [hserved.starved host hnot hnone] at hlock
    cases hlock
  · intro h
    exact ⟨fun host _ n hlock => hserved.keeps.lockEntry hallocated hlock,
      fun host hmem hnone hok => hserved.greets host (h host hmem hnone hok) hnone⟩

/-! ## A tick that nothing interrupts -/

section Alone

variable {i : ℕ} {p q : Procedure α}

theorem getElem?_setProcedure (hi : i < x.procedures.length) :
    (x.setProcedure i p).procedures[i]? = some p := List.getElem?_set_self hi

theorem setProcedure_setProcedure :
    (x.setProcedure i p).setProcedure i q = x.setProcedure i q := by
  simp only [setProcedure, List.set_set]

theorem kill_setProcedure : (x.setProcedure i p).kill host = (x.kill host).setProcedure i p := by
  have hlock : (x.setProcedure i p).lockEntry host = x.lockEntry host := rfl
  rw [kill, hlock, kill]
  cases x.lockEntry host <;> rfl

/-- The procedure `i` is the only one that could hold the mutex. -/
structure Alone (x : InterserverConnector Φ α) (i : ℕ) : Prop where
  lt : i < x.procedures.length
  others : ∀ j p, j ≠ i → x.procedures[j]? = some p → p.holds = false

theorem Alone.of_procedures (h : x.Alone i) (hy : y.procedures = x.procedures) : y.Alone i :=
  ⟨hy ▸ h.lt, hy ▸ h.others⟩

theorem Alone.free (h : x.Alone i) (hp : p.holds = false) : (x.setProcedure i p).Free := by
  intro q hq
  obtain ⟨j, hj⟩ := List.mem_iff_getElem?.mp hq
  rcases eq_or_ne j i with rfl | hne
  · rw [getElem?_setProcedure h.lt] at hj
    exact Option.some_inj.mp hj ▸ hp
  · exact h.others j q hne ((List.getElem?_set_ne hne.symm).symm.trans hj)

variable (P localTime)

/-- The procedure goes on, with the mutex or without. -/
theorem Alone.step_advance (h : x.Alone i) (hp : p.waits = true → p.holds = false)
    {effects : List (ClientId × Effect)}
    (hadvance : (x.setProcedure i p).advance P i localTime = (effects, y)) :
    Step P (x.setProcedure i p) ⟨.advance i localTime, effects⟩ y :=
  ⟨⟨p, getElem?_setProcedure h.lt, fun hwaits => h.free (hp hwaits)⟩, by rw [next, hadvance],
    by rw [next, hadvance]⟩

theorem Alone.step_nil (h : x.Alone i) : Step P (x.setProcedure i (.looking []))
    ⟨.advance i localTime, []⟩ (x.setProcedure i .done) := by
  refine h.step_advance P localTime (fun h => by cases h) ?_
  simp only [advance, getElem?_setProcedure h.lt, setProcedure_setProcedure]

theorem Alone.step_found (h : x.Alone i) (hlock : x.lockEntry host = some n) :
    Step P (x.setProcedure i (.looking (host :: hosts)))
      ⟨.advance i localTime, x.ping P n localTime⟩
      ((x.touch host).setProcedure i (.looking hosts)) := by
  refine h.step_advance P localTime (fun h => by cases h) ?_
  have hlock : (x.setProcedure i (.looking (host :: hosts))).lockEntry host = some n := hlock
  simp only [advance, getElem?_setProcedure h.lt, hlock]
  exact congrArg (Prod.mk _) (setProcedure_setProcedure (x := x.touch host))

theorem Alone.step_missing (h : x.Alone i) (hosts : List Bytes) (hlock : x.lockEntry host = none) :
    Step P (x.setProcedure i (.looking (host :: hosts))) ⟨.advance i localTime, []⟩
      ((x.touch host).setProcedure i (.lookingUp host hosts)) := by
  refine h.step_advance P localTime (fun h => by cases h) ?_
  have hlock : (x.setProcedure i (.looking (host :: hosts))).lockEntry host = none := hlock
  simp only [advance, getElem?_setProcedure h.lt, hlock]
  exact congrArg (Prod.mk _) (setProcedure_setProcedure (x := x.touch host))

theorem Alone.step_resolve (h : x.Alone i) (host : Bytes) (hosts : List Bytes)
    (result : Except Exception α) :
    Step P (x.setProcedure i (.lookingUp host hosts)) ⟨.resolve i result, []⟩
      (x.setProcedure i (match result with
        | .error _ => .done
        | .ok sockAddr => .lookedUp host sockAddr hosts)) := by
  refine ⟨trivial, rfl, ?_⟩
  cases result <;>
    simp only [next, resolve, getElem?_setProcedure h.lt, setProcedure_setProcedure]

theorem Alone.step_lookedUp (h : x.Alone i) (host : Bytes) (sockAddr : α) (hosts : List Bytes) :
    Step P (x.setProcedure i (.lookedUp host sockAddr hosts)) ⟨.advance i localTime, []⟩
      (x.setProcedure i (.relocked host sockAddr hosts)) := by
  refine h.step_advance P localTime (fun _ => rfl) ?_
  simp only [advance, getElem?_setProcedure h.lt, setProcedure_setProcedure]

theorem Alone.step_relocked (h : x.Alone i) (host : Bytes) (sockAddr : α) (hosts : List Bytes) :
    Step P (x.setProcedure i (.relocked host sockAddr hosts)) ⟨.advance i localTime, []⟩
      ((x.kill host).setProcedure i (.killed host sockAddr hosts)) := by
  refine h.step_advance P localTime (fun h => by cases h) ?_
  simp only [advance, getElem?_setProcedure h.lt, kill_setProcedure, setProcedure_setProcedure]

theorem Alone.step_made (h : x.Alone i) (host : Bytes) (n : ClientId) (hosts : List Bytes) :
    Step P (x.setProcedure i (.made host n hosts))
      ⟨.advance i localTime, x.ping P n localTime⟩
      ((x.store host n).setProcedure i (.looking hosts)) := by
  refine h.step_advance P localTime (fun h => by cases h) ?_
  simp only [advance, getElem?_setProcedure h.lt]
  exact congrArg (Prod.mk _) (setProcedure_setProcedure (x := x.store host n))

theorem Alone.step_killed (h : x.Alone i) (hosts : List Bytes) {connectionUuid : Uuid}
    {timestamp : UInt64}
    {client : InterserverClient Φ α}
    (hclient : x.makeClient P host sockAddr connectionUuid timestamp = .ok client) :
    Step P (x.setProcedure i (.killed host sockAddr hosts))
      ⟨.make i (.ok (connectionUuid, timestamp)), []⟩
      ({ x with clients := x.clients ++ [client] }.setProcedure i
        (.made host x.clients.length hosts)) := by
  refine ⟨trivial, rfl, ?_⟩
  have hclient : ((.ok (connectionUuid, timestamp) : Except Exception (Uuid × UInt64)).bind
      fun drawn => (x.setProcedure i (.killed host sockAddr hosts)).makeClient P host sockAddr
        drawn.1 drawn.2) = .ok client := hclient
  simp only [next, make, getElem?_setProcedure h.lt, hclient]
  exact (setProcedure_setProcedure (x := { x with clients := x.clients ++ [client] })).symm

/-- From the lookup of a host to its client in the table. -/
theorem Alone.run_connect (h : x.Alone i) (hosts : List Bytes)
    (hconnect : x.connect P draw host sockAddr = .ok (n, y)) :
    y.Alone i ∧ ∃ ls, Lts.Run (Step P) ((x.touch host).setProcedure i (.lookingUp host hosts)) ls
        (y.setProcedure i (.looking hosts)) ∧
      ls.flatMap (·.effects) = y.ping P n localTime := by
  have htouch : (x.touch host).Alone i := h.of_procedures rfl
  have hkill : ((x.touch host).kill host).Alone i := h.of_procedures (procedures_kill host)
  have hresolve := htouch.step_resolve P host hosts (.ok sockAddr)
  have hrelock := htouch.step_lookedUp P localTime host sockAddr hosts
  have hkilled := htouch.step_relocked P localTime host sockAddr hosts
  simp only [connect] at hconnect
  generalize (x.touch host).kill host = x' at *
  cases hclient : x'.makeClient P host sockAddr (draw x'.clients.length).1
      (draw x'.clients.length).2 with
  | error e =>
    rw [hclient] at hconnect
    cases hconnect
  | ok client =>
    rw [hclient] at hconnect
    cases hconnect
    have hmake := hkill.step_killed P hosts hclient
    have hmade : Alone { x' with clients := x'.clients ++ [client] } i := hkill.of_procedures rfl
    have hstore := hmade.step_made P localTime host x'.clients.length hosts
    exact ⟨hkill.of_procedures rfl, _, .cons hresolve (.cons hrelock (.cons hkilled
      (.cons hmake (.single hstore)))), List.append_nil _⟩

/-- **The loop of `timer_proc` is a run of the connector.** -/
theorem Alone.run_timerLoop (h : x.Alone i) (hosts : List Bytes) : ∃ ls,
    Lts.Run (Step P) (x.setProcedure i (.looking hosts)) ls
        ((timerLoop P lookup draw localTime hosts x).2.2.setProcedure i .done) ∧
      ls.flatMap (·.effects) = (timerLoop P lookup draw localTime hosts x).2.1 := by
  induction hosts generalizing x with
  | nil => exact ⟨_, .single (h.step_nil P localTime), rfl⟩
  | cons host hosts ih =>
    have htouch : (x.touch host).Alone i := h.of_procedures rfl
    cases hlock : x.lockEntry host with
    | some n =>
      obtain ⟨ls, hrun, heffects⟩ := ih htouch
      simp only [timerLoop, hlock]
      exact ⟨_, .cons (h.step_found P localTime hlock) hrun, by rw [List.flatMap_cons, heffects]⟩
    | none =>
      have hmissing := h.step_missing P localTime hosts hlock
      cases hlookup : lookup host x.port with
      | error e =>
        simp only [timerLoop, hlock, hlookup]
        exact ⟨_, .cons hmissing (.single (htouch.step_resolve P host hosts (.error e))), rfl⟩
      | ok sockAddr =>
        have hconnect := connect_eq P draw hlock sockAddr
        obtain ⟨halone, ls, hrun, heffects⟩ := h.run_connect P localTime hosts hconnect
        obtain ⟨ls', hrun', heffects'⟩ := ih halone
        simp only [timerLoop, hlock, hlookup, Except.bind, hconnect]
        refine ⟨_, .cons hmissing (hrun.append hrun'), ?_⟩
        rw [List.flatMap_cons, List.flatMap_append, heffects, heffects']
        rfl

/-- **A tick that nothing interrupts is a run of the connector**: the timer fires, and the procedure
goes on until it is done. -/
theorem run_timerProc (hfree : x.Free) : ∃ ls,
    Lts.Run (Step P) x ls
        ((timerProc P lookup draw localTime (x.next P .timer).2).2.2.setProcedure
          x.procedures.length .done) ∧
      ls.flatMap (·.effects) = (timerProc P lookup draw localTime (x.next P .timer).2).2.1 := by
  have htimer : Step P x ⟨.timer, []⟩ (x.next P .timer).2 := ⟨trivial, rfl, rfl⟩
  generalize hy : (x.next P .timer).2 = y at *
  have hprocedures : y.procedures = x.procedures ++ [.timerProc] := hy ▸ rfl
  have hget : y.procedures[x.procedures.length]? = some .timerProc :=
    hprocedures ▸ List.getElem?_concat_length
  have hyfree : y.Free := by
    intro p hp
    rw [hprocedures, List.mem_append, List.mem_singleton] at hp
    exact hp.elim (hfree p) fun h => h ▸ rfl
  have halone : y.Alone x.procedures.length :=
    ⟨(List.getElem?_eq_some_iff.mp hget).1, fun j p _ hp => hyfree p (List.mem_of_getElem? hp)⟩
  have hadvance : y.advance P x.procedures.length localTime
      = ([], y.setProcedure x.procedures.length (.looking y.hosts)) := by
    simp only [advance, hget]
  have hlook : Step P y ⟨.advance x.procedures.length localTime, []⟩
      (y.setProcedure x.procedures.length (.looking y.hosts)) :=
    ⟨⟨.timerProc, hget, fun _ => hyfree⟩, by rw [next, hadvance], by rw [next, hadvance]⟩
  obtain ⟨ls, hrun, heffects⟩ := halone.run_timerLoop P localTime y.hosts
  exact ⟨_, .cons htimer (.cons hlook hrun), heffects⟩

end Alone

end InterserverConnector

/-! ## Two hosts, of which one is not found -/

def lostHost : Bytes := asciiBytes "foyer.local"

/-- The promise of the lost host rethrows. -/
def trialLookup (host : Bytes) (_ : UInt16) : Except Exception ℕ :=
  if host = lostHost then .error (.exception "Host not found") else .ok 0x7f000001

def trialDraw (n : ClientId) : Uuid × UInt64 := (trialUuid + .ofNat _ n, trialTimestamp)

def trialTick (hosts : List Bytes) : InterserverConnector MessageFilter ℕ :=
  (InterserverConnector.timerProc trialPlatform trialLookup trialDraw []
    (.new hosts 10816 trialKey)).2.2

/-- The lost host comes last. -/
theorem InterserverConnector.starvesNoHost_iff_trial :
    StarvesNoHost trialPlatform trialLookup (.new [trialHost, lostHost] 10816 trialKey)
      (trialTick [trialHost, lostHost]) :=
  (starvesNoHost_iff trialPlatform trialLookup trialDraw [] (fun _ _ h => by cases h)).mpr
    (by decide +kernel)

/-- The lost host comes first, and the other never gets its turn. -/
theorem InterserverConnector.not_starvesNoHost :
    ¬ StarvesNoHost trialPlatform trialLookup (.new [lostHost, trialHost] 10816 trialKey)
      (trialTick [lostHost, trialHost]) := by
  intro h
  obtain ⟨n, -, hlock, -⟩ := h.greets trialHost (by decide +kernel) rfl (by decide +kernel)
  have hnone : (trialTick [lostHost, trialHost]).lockEntry trialHost = none := by decide +kernel
  rw [hnone] at hlock
  cases hlock

end Circe.Common
