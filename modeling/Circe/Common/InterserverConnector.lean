import Circe.Common.Standing
import Circe.Common.WireFormat
import Mathlib.Data.List.Lex

/-!
# Common/InterserverConnector — the clients of a connector

A timer calls `timer_proc`, which looks for the hosts that have no client, gives up the mutex while
it waits for an address, and then makes one: calls of it overlap.  `InterserverConnector.next` cuts
`timer_proc` and `clear` into steps, in between of which everything else can happen that the mutex
admits; clients handle events and expire at any time.

Whatever the order, the section that makes a client kills the one it finds in the table, and puts
its own there last.  Where `Epoll_daemon::add_socket` throws it does not come to that, and the
client that was made, which its queued hello keeps, works without anybody knowing of it
(`not_oneClientPerHost`).  As long as that spares the clients, a host has no more than one that
works (`oneClientPerHost_of_spares`).
-/

namespace Circe.Common

/-- A client, by the order in which they were made. -/
abbrev ClientId := ℕ

/-- An `Interserver_client`: the host and the address it was made for, and whether the last
`shared_ptr` to it is gone. -/
structure InterserverClient (Φ α : Type) where
  host : Bytes
  sockAddr : α
  connection : InterserverConnection Φ
  expired : Bool

/-- A call of `timer_proc` or of `clear`, by what it does next. -/
inductive Procedure (α : Type)
  /-- `timer_proc` is about to lock the mutex. -/
  | timerProc
  /-- It looks at the first of the hosts that are left. -/
  | looking (hosts : List Bytes)
  /-- It waits for the address of the host, without the mutex. -/
  | lookingUp (host : Bytes) (hosts : List Bytes)
  /-- It has the address, and is about to lock the mutex again. -/
  | lookedUp (host : Bytes) (sockAddr : α) (hosts : List Bytes)
  /-- It looks again. -/
  | relocked (host : Bytes) (sockAddr : α) (hosts : List Bytes)
  /-- It makes a client. -/
  | killed (host : Bytes) (sockAddr : α) (hosts : List Bytes)
  /-- It adds the socket, keeps the client, and pings it. -/
  | made (host : Bytes) (n : ClientId) (hosts : List Bytes)
  /-- `clear` is about to lock the mutex. -/
  | clear (errCode : Int64) (errMsg : String)
  | clearing (errCode : Int64) (errMsg : String)
  | done
deriving DecidableEq

namespace Procedure

variable {α : Type}

/-- The procedure holds `m_mutex`. -/
def holds : Procedure α → Bool
  | .looking _ | .relocked .. | .killed .. | .made .. | .clearing .. => true
  | .timerProc | .lookingUp .. | .lookedUp .. | .clear .. | .done => false

/-- The procedure is a tick that holds `m_mutex`. -/
def isHoldingTick : Procedure α → Bool
  | .clearing .. => false
  | p => p.holds

/-- The procedure waits for `m_mutex`. -/
def waits : Procedure α → Bool
  | .timerProc | .lookedUp .. | .clear .. => true
  | .looking _ | .lookingUp .. | .relocked .. | .killed .. | .made .. | .clearing ..
    | .done => false

/-- The client that is made, and not kept yet. -/
def madeClient : Procedure α → Option ClientId
  | .made _ n _ => some n
  | _ => none

end Procedure

/-- A connector; the mutex is held by the procedure that says so. -/
structure InterserverConnector (Φ α : Type) where
  hosts : List Bytes
  port : UInt16
  applicationKey : Bytes
  weakClients : FlatMap Bytes (Option ClientId)
  clients : List (InterserverClient Φ α)
  procedures : List (Procedure α)

/-- `force_shutdown`: nothing is sent. -/
def InterserverConnection.forceShutdown {Φ : Type} (c : InterserverConnection Φ) :
    InterserverConnection Φ := c.shutdown 0 ""

namespace InterserverConnector

variable {Φ α : Type} (P : Platform Φ)

/-- The constructor, of some hosts and a port. -/
def new (hosts : List Bytes) (port : UInt16) (applicationKey : Bytes) : InterserverConnector Φ α :=
  ⟨hosts, port, applicationKey, .empty, [], []⟩

/-- `weak_ptr::lock`. -/
def lock (x : InterserverConnector Φ α) (n : ClientId) : Option (InterserverClient Φ α) :=
  x.clients[n]?.filter fun client => !client.expired

/-- What `m_weak_clients` has for a host. -/
def entry (x : InterserverConnector Φ α) (host : Bytes) : Option ClientId :=
  (x.weakClients.find? host).join

/-- `m_weak_clients[host].lock()`. -/
def lockEntry (x : InterserverConnector Φ α) (host : Bytes) : Option ClientId :=
  (x.entry host).filter fun n => (x.lock n).isSome

/-- `m_weak_clients[host]` makes an entry where there is none. -/
def touch (x : InterserverConnector Φ α) (host : Bytes) : InterserverConnector Φ α :=
  { x with weakClients := x.weakClients.insertNew host none }

/-- A client that has authenticated is sent a ping, with the time. -/
def ping (x : InterserverConnector Φ α) (n : ClientId) (localTime : Bytes) :
    List (ClientId × Effect) :=
  match x.lock n with
  | none => []
  | some client =>
    if client.connection.authenticated then [(n, .sentControl P.statusPing localTime)] else []

/-- The old client of a host is killed. -/
def kill (x : InterserverConnector Φ α) (host : Bytes) : InterserverConnector Φ α :=
  match x.lockEntry host with
  | none => x.touch host
  | some n =>
    { x.touch host with
      clients := x.clients.modify n fun client =>
        { client with connection := client.connection.forceShutdown } }

/-- A client of the host, which says hello with the UUID and at the time it draws. -/
def makeClient (x : InterserverConnector Φ α) (host : Bytes) (sockAddr : α) (connectionUuid : Uuid)
    (timestamp : UInt64) : Except Exception (InterserverClient Φ α) :=
  match (InterserverConnection.new x.applicationKey).layer7ClientSayHello P connectionUuid timestamp
      [] with
  | (.error e, _) => .error e
  | (.ok (), c) => .ok ⟨host, sockAddr, c, false⟩

/-- `m_weak_clients[host] = client`. -/
def store (x : InterserverConnector Φ α) (host : Bytes) (n : ClientId) : InterserverConnector Φ α :=
  { x with weakClients := (x.weakClients.insertNew host none).modify host fun _ => some n }

/-- `client->has_authenticated()`. -/
def hasAuthenticated (x : InterserverConnector Φ α) (n : ClientId) : Bool :=
  (x.lock n).any fun client => client.connection.authenticated

/-- A tick that is left by an exception lets go of a client that is not in the epoll yet: only its
tasks keep it. -/
def letGo (x : InterserverConnector Φ α) (n : ClientId) : InterserverConnector Φ α :=
  { x with
    clients := x.clients.modify n fun client =>
      { client with expired := client.expired || client.connection.workhorse.isEmpty } }

/-- One turn of the loop of `clear`, on the first entry. -/
def clearFirst (x : InterserverConnector Φ α) (errCode : Int64) (errMsg : String) (host : Bytes) :
    InterserverConnector Φ α :=
  { x with
    weakClients := x.weakClients.erase host
    clients :=
      match x.lockEntry host with
      | none => x.clients
      | some n => x.clients.modify n fun client =>
          { client with connection := client.connection.shutdown errCode errMsg } }

/-- What a procedure does next. -/
def setProcedure (x : InterserverConnector Φ α) (i : ℕ) (p : Procedure α) :
    InterserverConnector Φ α :=
  { x with procedures := x.procedures.set i p }

end InterserverConnector

/-! ## The connector as a machine -/

/-- What a tick calls with the mutex in its hands, and what can throw there: `add_socket` of the
`Epoll_daemon`, and `send_control` of a ping. -/
inductive TickCall
  | addSocket
  | sendControl
deriving DecidableEq

/-- What can happen to a connector: the timer fires or `clear` is called; a procedure goes on, its
lookup comes to an end, it makes a client, unless that throws, or what it calls throws; a client
handles an event or expires. -/
inductive ConnectorEvent (α : Type)
  | timer
  | clear (errCode : Int64) (errMsg : String)
  | advance (i : ℕ) (localTime : Bytes)
  | resolve (i : ℕ) (result : Except Exception α)
  | make (i : ℕ) (drawn : Except Exception (Uuid × UInt64))
  | thrown (i : ℕ) (call : TickCall)
  | client (n : ClientId) (event : Event)
  | expire (n : ClientId)

structure ConnectorLabel (α : Type) where
  event : ConnectorEvent α
  effects : List (ClientId × Effect)

namespace InterserverConnector

variable {Φ α : Type} (P : Platform Φ)

/-- No procedure holds the mutex. -/
def Free (x : InterserverConnector Φ α) : Prop := ∀ p ∈ x.procedures, p.holds = false

instance (x : InterserverConnector Φ α) : Decidable x.Free :=
  inferInstanceAs (Decidable (∀ p ∈ x.procedures, _))

/-- What a procedure does next, in the section it is in. -/
def advance (x : InterserverConnector Φ α) (i : ℕ) (localTime : Bytes) :
    List (ClientId × Effect) × InterserverConnector Φ α :=
  match x.procedures[i]? with
  | some .timerProc => ([], x.setProcedure i (.looking x.hosts))
  | some (.looking []) => ([], x.setProcedure i .done)
  | some (.looking (host :: hosts)) =>
    match x.lockEntry host with
    | some n => (x.ping P n localTime, (x.touch host).setProcedure i (.looking hosts))
    | none => ([], (x.touch host).setProcedure i (.lookingUp host hosts))
  | some (.lookedUp host sockAddr hosts) => ([], x.setProcedure i (.relocked host sockAddr hosts))
  | some (.relocked host sockAddr hosts) =>
    ([], (x.kill host).setProcedure i (.killed host sockAddr hosts))
  | some (.made host n hosts) =>
    (x.ping P n localTime, (x.store host n).setProcedure i (.looking hosts))
  | some (.clear errCode errMsg) => ([], x.setProcedure i (.clearing errCode errMsg))
  | some (.clearing errCode errMsg) =>
    match x.weakClients.entries with
    | [] => ([], x.setProcedure i .done)
    | (host, _) :: _ => ([], x.clearFirst errCode errMsg host)
  | some (.lookingUp ..) | some (.killed ..) | some .done | none => ([], x)

/-- The wait for the promise of an address is over; where the lookup failed the exception leaves
`timer_proc`. -/
def resolve (x : InterserverConnector Φ α) (i : ℕ) (result : Except Exception α) :
    InterserverConnector Φ α :=
  match x.procedures[i]?, result with
  | some (.lookingUp _ _), .error _ => x.setProcedure i .done
  | some (.lookingUp host hosts), .ok sockAddr =>
    x.setProcedure i (.lookedUp host sockAddr hosts)
  | _, _ => x

/-- A client is made and says hello; where that throws the exception leaves `timer_proc`, and the
client is gone. -/
def make (x : InterserverConnector Φ α) (i : ℕ) (drawn : Except Exception (Uuid × UInt64)) :
    InterserverConnector Φ α :=
  match x.procedures[i]? with
  | some (.killed host sockAddr hosts) =>
    match drawn.bind fun (connectionUuid, timestamp) =>
        x.makeClient P host sockAddr connectionUuid timestamp with
    | .error _ => x.setProcedure i .done
    | .ok client =>
      { x with clients := x.clients ++ [client] }.setProcedure i (.made host x.clients.length hosts)
  | _ => x

/-- What a tick is about to call. -/
def calls (x : InterserverConnector Φ α) : Procedure α → TickCall → Bool
  | .made .., .addSocket => true
  | .made _ n _, .sendControl => x.hasAuthenticated n
  | .looking (host :: _), .sendControl => (x.lockEntry host).any x.hasAuthenticated
  | _, _ => false

/-- The exception leaves `timer_proc`, and what would have come after the call is not done. -/
def thrown (x : InterserverConnector Φ α) (i : ℕ) (call : TickCall) : InterserverConnector Φ α :=
  match x.procedures[i]?, call with
  | some (.made _ n _), .addSocket => (x.letGo n).setProcedure i .done
  | some (.made host n _), .sendControl => (x.store host n).setProcedure i .done
  | some (.looking (host :: _)), .sendControl => (x.touch host).setProcedure i .done
  | _, _ => x

/-- `layer7_post_set_connection_uuid` of a client: there is nothing to do. -/
def layer7PostSetConnectionUuid (_ : Uuid) (s : Unit) : Except Exception Unit × Unit := (.ok (), s)

/-- A client handles an event. -/
def handle (x : InterserverConnector Φ α) (n : ClientId) (event : Event) :
    List (ClientId × Effect) × InterserverConnector Φ α :=
  match x.lock n with
  | none => ([], x)
  | some client =>
    let (effects, c, _) :=
      client.connection.handle P layer7PostSetConnectionUuid event ()
    (effects.map fun effect => (n, effect),
      { x with clients := x.clients.set n { client with connection := c } })

def next (x : InterserverConnector Φ α) (event : ConnectorEvent α) :
    ConnectorLabel α × InterserverConnector Φ α :=
  match event with
  | .timer => (⟨event, []⟩, { x with procedures := x.procedures ++ [.timerProc] })
  | .clear errCode errMsg =>
    (⟨event, []⟩, { x with procedures := x.procedures ++ [.clear errCode errMsg] })
  | .advance i localTime =>
    let (effects, y) := x.advance P i localTime
    (⟨event, effects⟩, y)
  | .resolve i result => (⟨event, []⟩, x.resolve i result)
  | .make i drawn => (⟨event, []⟩, x.make P i drawn)
  | .thrown i call => (⟨event, []⟩, x.thrown i call)
  | .client n e =>
    let (effects, y) := x.handle P n e
    (⟨event, effects⟩, y)
  | .expire n =>
    (⟨event, []⟩,
      { x with clients := x.clients.modify n fun client => { client with expired := true } })

/-- A procedure that waits for the mutex goes on when nobody holds it. -/
def Enabled (x : InterserverConnector Φ α) : ConnectorEvent α → Prop
  | .advance i _ => ∃ p ∈ x.procedures[i]?, p.waits = true → x.Free
  | .thrown i call => ∃ p ∈ x.procedures[i]?, x.calls p call = true
  | .client n event => ∃ client ∈ x.lock n, client.connection.Enabled event
  | .timer | .clear .. | .resolve .. | .make .. | .expire _ => True

instance (x : InterserverConnector Φ α) : DecidablePred x.Enabled
  | .advance i _ => inferInstanceAs (Decidable (∃ p ∈ x.procedures[i]?, _ → _))
  | .thrown i _ => inferInstanceAs (Decidable (∃ p ∈ x.procedures[i]?, _))
  | .client n _ => inferInstanceAs (Decidable (∃ client ∈ x.lock n, _))
  | .timer | .clear .. | .resolve .. | .make .. | .expire _ => inferInstanceAs (Decidable True)

def Step (x : InterserverConnector Φ α) (l : ConnectorLabel α) (y : InterserverConnector Φ α) :
    Prop :=
  x.Enabled l.event ∧ l = (x.next P l.event).1 ∧ y = (x.next P l.event).2

theorem event_next (x : InterserverConnector Φ α) (event : ConnectorEvent α) :
    (x.next P event).1.event = event := by
  cases event <;> rfl

theorem step_next {x : InterserverConnector Φ α} {event : ConnectorEvent α} (h : x.Enabled event) :
    Step P x (x.next P event).1 (x.next P event).2 :=
  ⟨(event_next P x event).symm ▸ h, by rw [event_next], by rw [event_next]⟩

/-! ## Clients that work -/

variable {P} {x y : InterserverConnector Φ α} {n m : ClientId} {host : Bytes} {i j : ℕ}
  {p q : Procedure α}

/-- A live client of the host that has not been shut down. -/
def Working (x : InterserverConnector Φ α) (n : ClientId) (host : Bytes) : Prop :=
  ∃ client, x.lock n = some client ∧ client.host = host ∧
    client.connection.hasBeenShutdown = false

/-- **The condition**: `add_socket` throws only for a client that has been shut down, or that no
task keeps. -/
def SparesClients (x : InterserverConnector Φ α) : ConnectorEvent α → Prop
  | .thrown i .addSocket => ∀ p ∈ x.procedures[i]?, ∀ n ∈ p.madeClient, ∀ client ∈ x.lock n,
      client.connection.hasBeenShutdown = true ∨ client.connection.workhorse = []
  | _ => True

instance (x : InterserverConnector Φ α) : DecidablePred x.SparesClients
  | .thrown _ .addSocket => inferInstanceAs (Decidable (∀ p ∈ _, ∀ n ∈ _, ∀ client ∈ _, _ ∨ _))
  | .thrown _ .sendControl | .timer | .clear .. | .advance .. | .resolve .. | .make ..
    | .client .. | .expire _ => inferInstanceAs (Decidable True)

/-- **One client per host**: no two live clients of one host have not been shut down; and where no
tick holds the mutex, the one that has not is the one in the table. -/
structure OneClientPerHost (x : InterserverConnector Φ α) : Prop where
  unique : ∀ host n m, x.Working n host → x.Working m host → n = m
  kept : (∀ p ∈ x.procedures, p.isHoldingTick = false) →
    ∀ host n, x.Working n host → x.entry host = some n

/-- What the section of a procedure has seen to. -/
def SeesTo (x : InterserverConnector Φ α) : Procedure α → Prop
  | .killed host _ _ => ∀ n, ¬ x.Working n host
  | .made host n _ => ∀ m, x.Working m host → m = n
  | _ => True

/-- **At most one client of a host works**, and it is the one in the table or the one that is about
to be kept there. -/
structure Exclusive (x : InterserverConnector Φ α) : Prop where
  holds : ∀ (i j : ℕ) (p q : Procedure α), x.procedures[i]? = some p → x.procedures[j]? = some q →
    p.holds = true → q.holds = true → i = j
  seesTo : ∀ p ∈ x.procedures, x.SeesTo p
  kept : ∀ {n host}, x.Working n host →
    x.entry host = some n ∨ ∃ hosts, .made host n hosts ∈ x.procedures

theorem lock_eq_some {client : InterserverClient Φ α} :
    x.lock n = some client ↔ x.clients[n]? = some client ∧ client.expired = false := by
  simp [lock, Option.filter_eq_some_iff]

theorem Exclusive.unique (h : x.Exclusive) (hn : x.Working n host) (hm : x.Working m host) :
    n = m := by
  rcases h.kept hn with hentry | ⟨hosts, hmade⟩
  · rcases h.kept hm with hentry' | ⟨hosts, hmade⟩
    · exact Option.some_inj.mp (hentry.symm.trans hentry')
    · exact h.seesTo _ hmade n hn
  · exact (h.seesTo _ hmade m hm).symm

/-! ### What becomes of a client -/

/-- A client that is live stays what it was, or is shut down. -/
def Ages (x y : InterserverConnector Φ α) : Prop :=
  ∀ n client', y.lock n = some client' → ∃ client, x.lock n = some client ∧
    client'.host = client.host ∧ (client.connection.hasBeenShutdown = true →
      client'.connection.hasBeenShutdown = true)

theorem Ages.working (h : Ages x y) (hworking : y.Working n host) : x.Working n host := by
  obtain ⟨client', hlock', rfl, hup⟩ := hworking
  obtain ⟨client, hlock, hhost, hdown⟩ := h n client' hlock'
  refine ⟨client, hlock, hhost.symm, ?_⟩
  by_contra hnot
  exact absurd ((hdown (by simpa using hnot)).symm.trans hup) (by decide)

theorem ages_of_clients (h : y.clients = x.clients) : Ages x y := by
  intro n client hlock
  rw [lock, h] at hlock
  exact ⟨client, hlock, rfl, id⟩

theorem ages_modify {f : InterserverClient Φ α → InterserverClient Φ α}
    (hclients : y.clients = x.clients.modify m f)
    (hf : ∀ client, (f client).host = client.host ∧
      (client.expired = true → (f client).expired = true) ∧
      (client.connection.hasBeenShutdown = true → (f client).connection.hasBeenShutdown = true)) :
    Ages x y := by
  intro n client' hlock
  obtain ⟨hget, hlive⟩ := lock_eq_some.mp hlock
  rw [hclients, List.getElem?_modify] at hget
  obtain ⟨client, hclient, rfl⟩ := Option.map_eq_some_iff.mp hget
  by_cases hmn : m = n
  · rw [if_pos hmn] at hlive ⊢
    obtain ⟨hhost, hexpired, hdown⟩ := hf client
    refine ⟨client, lock_eq_some.mpr ⟨hclient, ?_⟩, hhost, hdown⟩
    by_contra hnot
    exact absurd ((hexpired (by simpa using hnot)).symm.trans hlive) (by decide)
  · rw [if_neg hmn] at hlive ⊢
    exact ⟨client, lock_eq_some.mpr ⟨hclient, hlive⟩, rfl, id⟩

theorem ages_handle (n : ClientId) (event : Event) : Ages x (x.handle P n event).2 := by
  rw [handle]
  split
  case h_1 => exact ages_of_clients rfl
  case h_2 client hclient =>
    intro m client' hlock
    obtain ⟨hget, hlive⟩ := lock_eq_some.mp hlock
    dsimp only at hget
    rcases eq_or_ne n m with rfl | hne
    · rw [List.getElem?_set_self', (lock_eq_some.mp hclient).1] at hget
      cases hget
      exact ⟨client, hclient, rfl, fun hdown =>
        InterserverConnection.hasBeenShutdown_handle P layer7PostSetConnectionUuid hdown event ()⟩
    · rw [List.getElem?_set_ne hne] at hget
      exact ⟨client', lock_eq_some.mpr ⟨hget, hlive⟩, rfl, id⟩

/-! ### What becomes of the table -/

theorem entry_touch (host' : Bytes) : (x.touch host').entry host = x.entry host := by
  rw [entry, touch, FlatMap.find?_insertNew]
  split
  case isTrue h =>
    subst h
    rw [entry]
    cases x.weakClients.find? host <;> rfl
  case isFalse => rfl

theorem entry_store (host' : Bytes) (n : ClientId) :
    (x.store host' n).entry host = if host = host' then some n else x.entry host := by
  rw [entry, store, FlatMap.find?_modify, FlatMap.find?_insertNew]
  split
  · rfl
  · rfl

theorem entry_clearFirst (errCode : Int64) (errMsg : String) (host' : Bytes) :
    (x.clearFirst errCode errMsg host').entry host
      = if host = host' then none else x.entry host := by
  rw [entry, clearFirst, FlatMap.find?_erase]
  split
  · rfl
  · rfl

/-! ### What becomes of a procedure -/

theorem seesTo_of_not_holds (h : p.holds = false) : x.SeesTo p := by
  cases p with
  | killed | made => cases h
  | _ => trivial

theorem SeesTo.mono (hworking : ∀ {n host}, y.Working n host → x.Working n host)
    (h : x.SeesTo p) : y.SeesTo p := by
  cases p with
  | killed host => exact fun n hn => h n (hworking hn)
  | made host n => exact fun m hm => h m (hworking hm)
  | _ => trivial

/-- The clients age, no entry of one that works is lost, and no procedure goes on. -/
theorem Exclusive.age (h : x.Exclusive) (procedures : List (Procedure α))
    (hprocedures : y.procedures = x.procedures ++ procedures)
    (hnew : ∀ p ∈ procedures, p.holds = false) (hages : Ages x y)
    (hentry : ∀ {n host}, y.Working n host → x.entry host = some n → y.entry host = some n) :
    y.Exclusive where
  holds := by
    intro i j p q hi hj hp hq
    rw [hprocedures] at hi hj
    have hold {i : ℕ} {p : Procedure α} (hi : (x.procedures ++ procedures)[i]? = some p)
        (hp : p.holds = true) : x.procedures[i]? = some p := by
      rw [List.getElem?_append] at hi
      split at hi
      · exact hi
      · exact absurd (hp.symm.trans (hnew p (List.mem_of_getElem? hi))) (by decide)
    exact h.holds i j p q (hold hi hp) (hold hj hq) hp hq
  seesTo := by
    intro p hp
    rw [hprocedures] at hp
    rcases List.mem_append.mp hp with hp | hp
    · exact (h.seesTo p hp).mono hages.working
    · exact seesTo_of_not_holds (hnew p hp)
  kept := by
    intro n host hworking
    rcases h.kept (hages.working hworking) with hkept | ⟨hosts, hmade⟩
    · exact .inl (hentry hworking hkept)
    · exact .inr ⟨hosts, hprocedures ▸ List.mem_append_left _ hmade⟩

/-- A procedure goes on: what it takes to see that the clients stay exclusive. -/
theorem Exclusive.goesOn (h : x.Exclusive) (hi : x.procedures[i]? = some p)
    (hprocedures : y.procedures = x.procedures.set i q)
    (hholds : q.holds = true → p.holds = true ∨ x.Free)
    (hworking : p.holds = true ∨ ∀ {n host}, y.Working n host → x.Working n host)
    (hseesTo : y.SeesTo q)
    (hkept : ∀ {n host}, y.Working n host →
      y.entry host = some n ∨ ∃ hosts, .made host n hosts ∈ y.procedures) : y.Exclusive := by
  have hother {j : ℕ} {r : Procedure α} (hne : i ≠ j) (hj : y.procedures[j]? = some r) :
      x.procedures[j]? = some r := by
    rwa [hprocedures, List.getElem?_set_ne hne] at hj
  have hself {r : Procedure α} (hj : y.procedures[i]? = some r) : r = q := by
    rw [hprocedures, List.getElem?_set_self', hi] at hj
    exact (Option.some_inj.mp hj).symm
  have halone {j : ℕ} {r : Procedure α} (hj : x.procedures[j]? = some r) (hq : q.holds = true)
      (hr : r.holds = true) : i = j := by
    rcases hholds hq with hp | hfree
    · exact h.holds i j p r hi hj hp hr
    · exact absurd (hr.symm.trans (hfree r (List.mem_of_getElem? hj))) (by decide)
  refine ⟨fun j k r s hj hk hr hs => ?_, fun r hr => ?_, hkept⟩
  · rcases eq_or_ne i j with rfl | hij
    · rcases eq_or_ne i k with rfl | hik
      · rfl
      · exact halone (hother hik hk) (hself hj ▸ hr) hs
    · rcases eq_or_ne i k with rfl | hik
      · exact (halone (hother hij hj) (hself hk ▸ hs) hr).symm
      · exact h.holds j k r s (hother hij hj) (hother hik hk) hr hs
  · obtain ⟨j, hj⟩ := List.mem_iff_getElem?.mp hr
    rcases eq_or_ne i j with rfl | hij
    · exact hself hj ▸ hseesTo
    · have hold := hother hij hj
      cases hr : r.holds with
      | false => exact seesTo_of_not_holds hr
      | true =>
        refine (h.seesTo r (List.mem_of_getElem? hold)).mono ?_
        refine hworking.resolve_left fun hp => hij ?_
        exact h.holds i j p r hi hold hp hr

/-- A procedure goes on that has nothing to keep and has made nothing. -/
theorem Exclusive.quiet (h : x.Exclusive) (hi : x.procedures[i]? = some p)
    (hprocedures : y.procedures = x.procedures.set i q)
    (hmade : ∀ host n hosts, p ≠ .made host n hosts)
    (hholds : q.holds = true → p.holds = true ∨ x.Free) (hages : Ages x y)
    (hentry : ∀ {n host}, y.Working n host → x.entry host = some n → y.entry host = some n)
    (hseesTo : y.SeesTo q) : y.Exclusive := by
  refine h.goesOn hi hprocedures hholds (.inr hages.working) hseesTo fun {n host} hworking => ?_
  refine (h.kept (hages.working hworking)).imp (hentry hworking) fun ⟨hosts, hmem⟩ => ⟨hosts, ?_⟩
  obtain ⟨j, hj⟩ := List.mem_iff_getElem?.mp hmem
  have hne : i ≠ j := by
    rintro rfl
    exact hmade host n hosts (Option.some_inj.mp (hi.symm.trans hj))
  rw [hprocedures]
  exact List.mem_of_getElem? ((List.getElem?_set_ne hne).trans hj)

/-- The same where it touches neither the table nor a client. -/
theorem Exclusive.proceed (h : x.Exclusive) (hi : x.procedures[i]? = some p)
    (hmade : ∀ host n hosts, p ≠ .made host n hosts)
    (hholds : q.holds = true → p.holds = true ∨ x.Free) (hseesTo : x.SeesTo q) :
    (x.setProcedure i q).Exclusive :=
  h.quiet hi rfl hmade hholds (ages_of_clients rfl) (fun _ hentry => hentry)
    (hseesTo.mono id)

/-! ### The sections -/

/-- What works for a host is found by `m_weak_clients[host].lock()`. -/
theorem lockEntry_of_working (hentry : x.entry host = some n) (hworking : x.Working n host) :
    x.lockEntry host = some n := by
  obtain ⟨client, hlock, -⟩ := hworking
  rw [lockEntry, hentry, Option.filter_some, if_pos (by rw [hlock]; rfl)]

theorem not_working_modify {f : InterserverClient Φ α → InterserverClient Φ α}
    (hclients : y.clients = x.clients.modify n f)
    (hf : ∀ client, (f client).connection.hasBeenShutdown = true) : ¬ y.Working n host := by
  rintro ⟨client', hlock, -, hup⟩
  obtain ⟨hget, -⟩ := lock_eq_some.mp hlock
  rw [hclients, List.getElem?_modify] at hget
  obtain ⟨client, -, rfl⟩ := Option.map_eq_some_iff.mp hget
  rw [if_pos rfl] at hup
  exact absurd ((hf client).symm.trans hup) (by decide)

theorem ages_kill (host : Bytes) : Ages x (x.kill host) := by
  rw [kill]
  split
  case h_1 => exact ages_of_clients rfl
  case h_2 => exact ages_modify rfl fun client =>
    ⟨rfl, id, fun _ => InterserverConnection.hasBeenShutdown_shutdown ..⟩

theorem entry_kill (host' : Bytes) : (x.kill host').entry host = x.entry host := by
  rw [kill]
  split <;> exact entry_touch host'

theorem procedures_kill (host : Bytes) : (x.kill host).procedures = x.procedures := by
  rw [kill]
  split <;> rfl

/-- A client in the table does not survive. -/
theorem not_working_kill (h : x.entry host = some n) : ¬ (x.kill host).Working n host := by
  intro hworking
  have hlock := lockEntry_of_working h ((ages_kill host).working hworking)
  rw [kill, hlock] at hworking
  exact not_working_modify rfl (fun _ => InterserverConnection.hasBeenShutdown_shutdown ..) hworking

theorem ages_clearFirst (errCode : Int64) (errMsg : String) (host : Bytes) :
    Ages x (x.clearFirst errCode errMsg host) := by
  cases hlock : x.lockEntry host with
  | none => exact ages_of_clients (by simp only [clearFirst, hlock])
  | some n =>
    refine ages_modify (m := n) (f := fun client =>
      { client with connection := client.connection.shutdown errCode errMsg })
      (by simp only [clearFirst, hlock]) fun client =>
        ⟨rfl, id, fun _ => InterserverConnection.hasBeenShutdown_shutdown ..⟩

theorem not_working_clearFirst (h : x.entry host = some n) (errCode : Int64) (errMsg : String) :
    ¬ (x.clearFirst errCode errMsg host).Working n host := by
  intro hworking
  have hlock := lockEntry_of_working h ((ages_clearFirst errCode errMsg host).working hworking)
  refine not_working_modify (x := x) (n := n) (f := fun client =>
      { client with connection := client.connection.shutdown errCode errMsg })
    (by simp only [clearFirst, hlock])
    (fun _ => InterserverConnection.hasBeenShutdown_shutdown ..) hworking

/-- Nothing else is about to be kept. -/
theorem Exclusive.not_made (h : x.Exclusive) (hi : x.procedures[i]? = some p)
    (hp : p.holds = true) (hosts : List Bytes) (hmade : .made host n hosts ∈ x.procedures) :
    p = .made host n hosts := by
  obtain ⟨j, hj⟩ := List.mem_iff_getElem?.mp hmade
  obtain rfl := h.holds i j _ _ hi hj hp rfl
  exact Option.some_inj.mp (hi.symm.trans hj)

/-- The client that was made is kept: no other client of the host works. -/
theorem Exclusive.store {hosts : List Bytes} (h : x.Exclusive)
    (hi : x.procedures[i]? = some (.made host n hosts)) (hseesTo : x.SeesTo q) :
    ((x.store host n).setProcedure i q).Exclusive := by
  have hmade := h.seesTo _ (List.mem_of_getElem? hi)
  refine h.goesOn hi rfl (fun _ => .inl rfl) (.inl rfl) (hseesTo.mono id)
    fun {m host'} hworking => .inl ?_
  refine (entry_store host n).trans ?_
  rcases eq_or_ne host' host with rfl | hne
  · rw [if_pos rfl, hmade m hworking]
  · rw [if_neg hne]
    refine (h.kept hworking).resolve_right ?_
    rintro ⟨hosts', hother⟩
    cases h.not_made hi rfl hosts' hother
    exact hne rfl

variable (P) in
theorem Exclusive.advance (h : x.Exclusive) (i : ℕ) (localTime : Bytes)
    (hfree : ∀ p, x.procedures[i]? = some p → p.waits = true → x.Free) :
    (x.advance P i localTime).2.Exclusive := by
  rw [InterserverConnector.advance]
  split
  case h_1 hi =>
    exact h.proceed hi (by simp) (fun _ => .inr (hfree _ hi rfl)) trivial
  case h_2 hi =>
    exact h.proceed hi (by simp) (fun h => by cases h) trivial
  case h_3 host hosts hi =>
    split
    case h_1 =>
      exact h.quiet hi rfl (by simp) (fun _ => .inl rfl) (ages_of_clients rfl)
        (fun _ hentry => (entry_touch host).trans hentry) trivial
    case h_2 =>
      exact h.quiet hi rfl (by simp) (fun h => by cases h) (ages_of_clients rfl)
        (fun _ hentry => (entry_touch host).trans hentry) trivial
  case h_4 host sockAddr hosts hi =>
    exact h.proceed hi (by simp) (fun _ => .inr (hfree _ hi rfl)) trivial
  case h_5 host sockAddr hosts hi =>
    refine h.quiet (q := .killed host sockAddr hosts) hi
      (by simp only [setProcedure, procedures_kill]) (by simp) (fun _ => .inl rfl) (ages_kill host)
      (fun _ hentry => (entry_kill host).trans hentry) ?_
    intro n hworking
    -- The client of the host is in the table: no other procedure is about to keep one.
    rcases h.kept ((ages_kill host).working hworking) with hentry | ⟨hosts', hmade⟩
    · exact not_working_kill hentry hworking
    · cases h.not_made hi rfl hosts' hmade
  case h_6 host n hosts hi => exact h.store hi trivial
  case h_7 errCode errMsg hi =>
    exact h.proceed hi (by simp) (fun _ => .inr (hfree _ hi rfl)) trivial
  case h_8 errCode errMsg hi =>
    split
    case h_1 =>
      exact h.proceed hi (by simp) (fun h => by cases h) trivial
    case h_2 host entry entries hentries =>
      refine h.age [] (List.append_nil _).symm (by simp) (ages_clearFirst errCode errMsg host)
        fun {n host'} hworking hentry => ?_
      rw [entry_clearFirst]
      rcases eq_or_ne host' host with rfl | hne
      · exact absurd hworking (not_working_clearFirst hentry errCode errMsg)
      · rwa [if_neg hne]
  all_goals exact h

theorem Exclusive.resolve (h : x.Exclusive) (i : ℕ) (result : Except Exception α) :
    (x.resolve i result).Exclusive := by
  unfold InterserverConnector.resolve
  split
  case h_1 hi | h_2 hi =>
    exact h.proceed hi (by simp) (fun h => by cases h) trivial
  case h_3 => exact h

/-- A client that was made has said hello. -/
theorem makeClient_ok {sockAddr : α} {connectionUuid : Uuid} {timestamp : UInt64}
    {client : InterserverClient Φ α}
    (h : x.makeClient P host sockAddr connectionUuid timestamp = .ok client) :
    client = ⟨host, sockAddr, ((InterserverConnection.new x.applicationKey).layer7ClientSayHello P
      connectionUuid timestamp []).2, false⟩ := by
  rw [makeClient] at h
  split at h
  case h_1 => cases h
  case h_2 c hc =>
    cases h
    rw [hc]

/-- The client that was made comes last. -/
theorem lock_concat {client client' : InterserverClient Φ α}
    (hclients : y.clients = x.clients ++ [client]) (h : y.lock m = some client') :
    x.lock m = some client' ∨ m = x.clients.length ∧ client' = client := by
  obtain ⟨hget, hlive⟩ := lock_eq_some.mp h
  rw [hclients, List.getElem?_append] at hget
  split at hget
  case isTrue => exact .inl (lock_eq_some.mpr ⟨hget, hlive⟩)
  case isFalse hlt =>
    rw [List.getElem?_singleton] at hget
    split at hget
    case isTrue hzero =>
      cases hget
      exact .inr ⟨le_antisymm (Nat.sub_eq_zero_iff_le.mp hzero) (not_lt.mp hlt), rfl⟩
    case isFalse => cases hget

variable (P) in
theorem Exclusive.make (h : x.Exclusive) (i : ℕ) (drawn : Except Exception (Uuid × UInt64)) :
    (x.make P i drawn).Exclusive := by
  unfold InterserverConnector.make
  split
  case h_2 => exact h
  case h_1 host sockAddr hosts hi =>
    split
    case h_1 =>
      exact h.proceed hi (by simp) (fun h => by cases h) trivial
    case h_2 client hclient =>
      cases drawn with
      | error e => cases hclient
      | ok drawn =>
        have hhost : client.host = host := by rw [makeClient_ok hclient]
        have hnone := h.seesTo _ (List.mem_of_getElem? hi)
        generalize hy : ({ x with clients := x.clients ++ [client] }.setProcedure i
          (.made host x.clients.length hosts) : InterserverConnector Φ α) = y
        have hnew {m : ClientId} {host' : Bytes} (hworking : y.Working m host') :
            x.Working m host' ∨ m = x.clients.length ∧ host' = host := by
          obtain ⟨client', hlock, rfl, hup⟩ := hworking
          rcases lock_concat (x := x) (y := y) (by rw [← hy]; rfl) hlock with hold | ⟨rfl, rfl⟩
          · exact .inl ⟨client', hold, rfl, hup⟩
          · exact .inr ⟨rfl, hhost⟩
        refine h.goesOn (q := .made host x.clients.length hosts) hi (by rw [← hy]; rfl)
          (fun _ => .inl rfl) (.inl rfl) (fun m hm => ?_) fun {m host'} hworking => ?_
        · exact (hnew hm).elim (fun hold => absurd hold (hnone m)) And.left
        · rcases hnew hworking with hold | ⟨rfl, rfl⟩
          · refine .inl ?_
            rw [← hy]
            refine (h.kept hold).resolve_right ?_
            rintro ⟨hosts', hmade⟩
            cases h.not_made hi rfl hosts' hmade
          · refine .inr ⟨hosts, ?_⟩
            obtain ⟨hlt, -⟩ := List.getElem?_eq_some_iff.mp hi
            rw [← hy]
            exact List.mem_set hlt _

theorem ages_letGo (n : ClientId) : Ages x (x.letGo n) :=
  ages_modify rfl fun client => ⟨rfl, fun h => by simp [h], id⟩

/-- A client that nothing keeps does not survive the tick. -/
theorem not_working_letGo
    (hspares : ∀ client ∈ x.lock n, client.connection.hasBeenShutdown = true ∨
      client.connection.workhorse = []) : ¬ (x.letGo n).Working n host := by
  rintro ⟨client', hlock', -, hup⟩
  obtain ⟨hget, hlive⟩ := lock_eq_some.mp hlock'
  rw [letGo, List.getElem?_modify] at hget
  obtain ⟨client, hclient, rfl⟩ := Option.map_eq_some_iff.mp hget
  rw [if_pos rfl] at hlive hup
  obtain ⟨hexpired, hkept⟩ := Bool.or_eq_false_iff.mp hlive
  rcases hspares client (lock_eq_some.mpr ⟨hclient, hexpired⟩) with hdown | hempty
  · exact absurd (hdown.symm.trans hup) (by decide)
  · rw [hempty] at hkept
    cases hkept

theorem Exclusive.thrown (h : x.Exclusive) (i : ℕ) (call : TickCall)
    (hspares : x.SparesClients (.thrown i call)) : (x.thrown i call).Exclusive := by
  unfold InterserverConnector.thrown
  split
  case h_1 host n hosts hi =>
    refine h.goesOn (q := .done) hi rfl (fun h => by cases h) (.inl rfl) trivial
      fun {m host'} hworking => .inl ?_
    refine (h.kept ((ages_letGo n).working hworking)).resolve_right ?_
    -- What is about to be kept is the client that the tick lets go of.
    rintro ⟨hosts', hmade⟩
    cases h.not_made hi rfl hosts' hmade
    exact not_working_letGo (hspares _ hi n rfl) hworking
  case h_2 hi => exact h.store hi trivial
  case h_3 host hosts hi =>
    exact h.quiet hi rfl (by simp) (fun h => by cases h) (ages_of_clients rfl)
      (fun _ hentry => (entry_touch host).trans hentry) trivial
  case h_4 => exact h

theorem Exclusive.step {l : ConnectorLabel α} (h : x.Exclusive)
    (hstep : Lts.Guarded (Step P) (fun x l => x.SparesClients l.event) x l y) :
    y.Exclusive := by
  obtain ⟨hspares, henabled, -, rfl⟩ := hstep
  obtain ⟨event, effects⟩ := l
  cases event with
  | timer =>
    exact h.age [.timerProc] rfl (by simp [Procedure.holds]) (ages_of_clients rfl)
      fun _ h => h
  | clear errCode errMsg =>
    exact h.age [.clear errCode errMsg] rfl (by simp [Procedure.holds])
      (ages_of_clients rfl) fun _ h => h
  | advance i localTime =>
    refine h.advance P i localTime fun p hp hwaits => ?_
    obtain ⟨p', hp', hfree⟩ := henabled
    obtain rfl : p = p' := Option.some_inj.mp (hp.symm.trans hp')
    exact hfree hwaits
  | resolve i result => exact h.resolve i result
  | make i drawn => exact h.make P i drawn
  | thrown i call => exact h.thrown i call hspares
  | client n event =>
    refine h.age [] ?_ (by simp) (ages_handle n event) fun _ hentry => ?_
    · simp only [next, handle]
      split <;> exact (List.append_nil _).symm
    · simp only [next, handle]
      split <;> exact hentry
  | expire n =>
    exact h.age [] (List.append_nil _).symm (by simp)
      (ages_modify rfl fun _ => ⟨rfl, fun _ => rfl, id⟩) fun _ h => h

theorem exclusive_new (hosts : List Bytes) (port : UInt16) (applicationKey : Bytes) :
    (new hosts port applicationKey : InterserverConnector Φ α).Exclusive where
  holds i j p q h := by simp [new] at h
  seesTo p hp := by cases hp
  kept h := by
    obtain ⟨client, hlock, -⟩ := h
    simp [lock, new] at hlock

theorem Exclusive.oneClientPerHost (h : x.Exclusive) : x.OneClientPerHost := by
  refine ⟨fun host n m hn hm => h.unique hn hm, fun hfree host n hn => ?_⟩
  refine (h.kept hn).resolve_right ?_
  rintro ⟨hosts, hmade⟩
  cases hfree _ hmade

/-- **At most one client of a host works**, in every state of a run in which `add_socket` spares the
clients. -/
theorem oneClientPerHost_of_spares {hosts : List Bytes} {port : UInt16} {applicationKey : Bytes}
    {ls : List (ConnectorLabel α)}
    (hrun : Lts.Run (Lts.Guarded (Step P) fun x l => x.SparesClients l.event)
      (new hosts port applicationKey) ls y) : y.OneClientPerHost :=
  (hrun.invariant (I := Exclusive) (fun h hstep => h.step hstep)
    (exclusive_new hosts port applicationKey)).oneClientPerHost

end InterserverConnector

/-! ## Two ticks at once

Both see that the host has no client, and both look it up; the second to get its address kills the
client that the first has made. -/

def trialHost : Bytes := asciiBytes "auth.local"

def trialConnector : InterserverConnector MessageFilter ℕ := .new [trialHost] 10816 trialKey

/-- From the mutex to the client in the table. -/
def connectTrial (i : ℕ) (connectionUuid : Uuid) : List (ConnectorEvent ℕ) :=
  [.advance i [], .advance i [], .make i (.ok (connectionUuid, trialTimestamp)), .advance i [],
    .advance i []]

def trialTicks : List (ConnectorEvent ℕ) :=
  [.timer, .timer, .advance 0 [], .advance 0 [], .advance 1 [], .advance 1 [],
    .resolve 0 (.ok 0x7f000001), .resolve 1 (.ok 0x7f000001)] ++
    connectTrial 0 trialUuid ++ connectTrial 1 (trialUuid + 1)

theorem InterserverConnector.oneClientPerHost_of_spares_trial : ∃ y,
    Lts.Run (Lts.Guarded (Step trialPlatform) fun x l => x.SparesClients l.event) trialConnector
        (Lts.trace (next trialPlatform) trialConnector trialTicks) y ∧
      y.Working 1 trialHost ∧ ¬ y.Working 0 trialHost ∧ y.entry trialHost = some 1 := by
  have hrun : Lts.Run (Lts.Guarded (Step trialPlatform) fun x l => x.SparesClients l.event)
      trialConnector _ _ :=
    Lts.Run.of_admits (next trialPlatform) (fun x event => x.SparesClients event ∧ x.Enabled event)
      (fun h => ⟨by simpa only [event_next] using h.1, step_next trialPlatform h.2⟩) trialConnector
      trialTicks (by decide +kernel)
  have hworking : (Lts.final (next trialPlatform) trialConnector trialTicks).Working 1 trialHost :=
    ⟨_, rfl, by decide +kernel, by decide +kernel⟩
  obtain ⟨hunique, hentry⟩ := oneClientPerHost_of_spares hrun
  refine ⟨_, hrun, hworking, fun hold => ?_, hentry (by decide +kernel) trialHost 1 hworking⟩
  exact absurd (hunique trialHost 0 1 hold hworking) (by decide)

/-! ## A tick that is left

`add_socket` throws in the first tick; the second finds no client in the table. -/

def trialThrow : List (ConnectorEvent ℕ) :=
  [.timer, .advance 0 [], .advance 0 [], .resolve 0 (.ok 0x7f000001), .advance 0 [], .advance 0 [],
    .make 0 (.ok (trialUuid, trialTimestamp)), .thrown 0 .addSocket,
    .timer, .advance 1 [], .advance 1 [], .resolve 1 (.ok 0x7f000001)] ++
    connectTrial 1 (trialUuid + 1)

/-- The client of the first tick has its hello queued, is in no table, and has company. -/
theorem InterserverConnector.not_oneClientPerHost : ∃ y,
    Lts.Run (Step trialPlatform) trialConnector
        (Lts.trace (next trialPlatform) trialConnector trialThrow) y ∧
      y.Working 0 trialHost ∧ y.Working 1 trialHost ∧ y.entry trialHost = some 1 ∧
        ¬ y.OneClientPerHost := by
  have hrun : Lts.Run (Step trialPlatform) trialConnector _ _ :=
    Lts.Run.of_admits (next trialPlatform) (fun x event => x.Enabled event)
      (step_next trialPlatform) trialConnector trialThrow (by decide +kernel)
  have hfirst : (Lts.final (next trialPlatform) trialConnector trialThrow).Working 0 trialHost :=
    ⟨_, rfl, by decide +kernel, by decide +kernel⟩
  have hsecond : (Lts.final (next trialPlatform) trialConnector trialThrow).Working 1 trialHost :=
    ⟨_, rfl, by decide +kernel, by decide +kernel⟩
  refine ⟨_, hrun, hfirst, hsecond, by decide +kernel, fun h => ?_⟩
  exact absurd (h.unique trialHost 0 1 hfirst hsecond) (by decide)

end Circe.Common
