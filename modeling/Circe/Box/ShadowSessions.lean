import Circe.Foundations.FlatMap
import Circe.Foundations.Run
import Circe.Common.Platform
import Circe.Websocket.Delivery
import Mathlib.Data.List.Dedup
import Mathlib.Data.Prod.Lex

/-!
# Box/ShadowSessions — the shadow sessions of a box and everything that removes them

`Websocket_shadow_session_supervisor` keeps the sessions of the clients of every gate.  They are put
in by `Websocket_establishment_request` and taken out by `Websocket_closure_notification`, by
`ping_timer_proc` and by `clear`.  `g_mutex` is held for one operation on the container at a time,
so what happens is cut into steps there, at every wait, and at every call of a user-defined
function.
-/

namespace Circe

/-! ## Whether a gate is there -/

namespace Foyer

/-- The servlet of `Check_gate_request`; `gateConn` is whether the gate server is connected. -/
def checkGateRequest (gateConn : Bool) : Except Common.Exception Unit :=
  if gateConn then .ok ()
  else .error (.protocol Protocol.errorGateConnectionLost "The gate server specified was not found")

end Foyer

namespace Box

open Websocket

/-- What a tick of the ping timer meets when it checks a gate. -/
inductive GateCheck
  | foyerConnectionLost
  | answered (gateConn : Bool)
  /-- The request was not sent, or the connection was lost before its response. -/
  | thrown (e : Common.Exception)
deriving DecidableEq

def GateCheck.result : GateCheck → Except Common.Exception Unit
  | foyerConnectionLost => .error (.exception "Connection to foyer server was lost")
  | answered gateConn => Foyer.checkGateRequest gateConn
  | thrown e => .error e

def GateCheck.alive (check : GateCheck) : Bool := check.result.isOk

/-! ## Sessions and their container -/

/-- What is constant in a `Websocket_shadow_session`; `object` tells two of them apart. -/
structure ShadowSession where
  object : ℕ
  foyerUuid : Uuid
  gateUuid : Uuid
  clientUuid : Uuid
  clientIp : Bytes
  authToken : Bytes
deriving DecidableEq

/-- The foyer server and the gate server of a session, compared in this order. -/
abbrev FoyerGate := Uuid ×ₗ Uuid

def ShadowSession.foyerGateUuidPair (s : ShadowSession) : FoyerGate :=
  toLex (s.foyerUuid, s.gateUuid)

/-- `Session_container`: its unique index is by client, its other index by foyer and gate. -/
structure SessionContainer where
  byGate : FlatMultimap FoyerGate ShadowSession
  keyed : ∀ e ∈ byGate.entries, e.1 = e.2.foyerGateUuidPair
  unique : (byGate.entries.map fun e => e.2.clientUuid).Nodup
deriving DecidableEq

namespace SessionContainer

def empty : SessionContainer := ⟨.empty, List.forall_mem_nil _, List.nodup_nil⟩

def sessions (c : SessionContainer) : List ShadowSession := c.byGate.entries.map Prod.snd

def find (c : SessionContainer) (clientUuid : Uuid) : Option ShadowSession :=
  c.sessions.find? fun s => s.clientUuid = clientUuid

/-- The pairs there are, each once, in their order: the walk from one `upper_bound` to the next. -/
def foyerGateUuidPairs (c : SessionContainer) : List FoyerGate :=
  (c.byGate.entries.map Prod.fst).dedup

/-- `equal_range<1>`. -/
def equalRange (c : SessionContainer) (pair : FoyerGate) : List ShadowSession :=
  (c.byGate.entries.filter fun e => e.1 = pair).map Prod.snd

theorem sublist_unique {c : SessionContainer} {es : List (FoyerGate × ShadowSession)}
    (h : es.Sublist c.byGate.entries) : (es.map fun e => e.2.clientUuid).Nodup :=
  c.unique.sublist (h.map _)

/-- `insert`: nothing is put in where the client is there already. -/
def insert (c : SessionContainer) (s : ShadowSession) : Option SessionContainer :=
  if h : ∀ t ∈ c.sessions, t.clientUuid ≠ s.clientUuid then
    some {
      byGate := c.byGate.emplace s.foyerGateUuidPair s
      keyed := by
        intro e he
        rcases FlatMultimap.mem_entries_emplace.mp he with rfl | he
        · rfl
        · exact c.keyed e he
      unique := by
        rw [((c.byGate.entries_emplace_perm _ s).map _).nodup_iff, List.map_cons, List.nodup_cons]
        refine ⟨fun hmem => ?_, c.unique⟩
        obtain ⟨e, he, heq⟩ := List.mem_map.mp hmem
        exact h e.2 (List.mem_map_of_mem he) heq }
  else none

/-- Erase one element. -/
def erase (c : SessionContainer) (s : ShadowSession) : SessionContainer where
  byGate := c.byGate.eraseEntry (s.foyerGateUuidPair, s)
  keyed e he := c.keyed e (FlatMultimap.mem_of_mem_eraseEntry he)
  unique := c.sublist_unique (c.byGate.entries_eraseEntry_sublist _)

/-- Erase the range of a pair. -/
def erasePair (c : SessionContainer) (pair : FoyerGate) : SessionContainer where
  byGate := c.byGate.eraseIf fun s => s.foyerGateUuidPair = pair
  keyed e he := c.keyed e (FlatMultimap.mem_entries_eraseIf.mp he).1
  unique := c.sublist_unique (c.byGate.entries_eraseIf_sublist _)

variable {c c' : SessionContainer} {s : ShadowSession}

theorem mem_sessions_of_find {clientUuid : Uuid} (h : c.find clientUuid = some s) :
    s ∈ c.sessions :=
  List.mem_of_find?_eq_some h

theorem mem_entries_iff : (s.foyerGateUuidPair, s) ∈ c.byGate.entries ↔ s ∈ c.sessions := by
  rw [sessions, List.mem_map]
  constructor
  · exact fun h => ⟨_, h, rfl⟩
  · rintro ⟨e, he, rfl⟩
    rwa [← c.keyed e he]

theorem insert_perm (h : c.insert s = some c') : c'.sessions.Perm (s :: c.sessions) := by
  rw [insert] at h
  split at h
  case isTrue =>
    obtain rfl := Option.some.inj h
    exact (c.byGate.entries_emplace_perm s.foyerGateUuidPair s).map Prod.snd
  case isFalse => cases h

theorem erase_perm (h : s ∈ c.sessions) : c.sessions.Perm (s :: (c.erase s).sessions) :=
  (FlatMultimap.perm_eraseEntry (mem_entries_iff.mpr h)).map Prod.snd

theorem mem_equalRange {pair : FoyerGate} :
    s ∈ c.equalRange pair ↔ s ∈ c.sessions ∧ s.foyerGateUuidPair = pair := by
  rw [← mem_entries_iff, equalRange, List.mem_map]
  constructor
  · rintro ⟨e, he, rfl⟩
    obtain ⟨hmem, hkey⟩ := List.mem_filter.mp he
    rw [← c.keyed e hmem]
    exact ⟨hmem, of_decide_eq_true hkey⟩
  · rintro ⟨hmem, rfl⟩
    exact ⟨_, List.mem_filter.mpr ⟨hmem, decide_eq_true rfl⟩, rfl⟩

theorem erasePair_perm (c : SessionContainer) (pair : FoyerGate) :
    c.sessions.Perm (c.equalRange pair ++ (c.erasePair pair).sessions) := by
  have hrest : (c.erasePair pair).byGate.entries
      = c.byGate.entries.filter fun e => !decide (e.1 = pair) := by
    refine List.filter_congr fun e he => ?_
    rw [c.keyed e he]
  rw [sessions, sessions, equalRange, ← List.map_append, hrest]
  exact ((List.filter_append_perm (fun e => decide (e.1 = pair)) c.byGate.entries).map
    Prod.snd).symm

/-- The pairs the tick collects are those of the sessions there are. -/
theorem mem_foyerGateUuidPairs {pair : FoyerGate} :
    pair ∈ c.foyerGateUuidPairs ↔ ∃ s ∈ c.sessions, s.foyerGateUuidPair = pair := by
  rw [foyerGateUuidPairs, List.mem_dedup, List.mem_map]
  constructor
  · rintro ⟨e, he, rfl⟩
    exact ⟨e.2, List.mem_map_of_mem he, (c.keyed e he).symm⟩
  · rintro ⟨s, hs, rfl⟩
    exact ⟨_, mem_entries_iff.mpr hs, rfl⟩

end SessionContainer

/-! ## What is being done with the sessions -/

/-- A servlet or a tick that has begun, up to where it is. -/
inductive Job
  /-- `Websocket_establishment_request` is in `handle_websocket_establishment`. -/
  | establishing (session : ShadowSession)
  /-- `Websocket_closure_notification` has detached the session, and maybe marked it. -/
  | closing (session : ShadowSession) (marked : Bool) (statusCode : ℕ) (reason : Bytes)
  /-- `ping_timer_proc` has checked some of the pairs: `expired` failed. -/
  | checking (expired unchecked : List FoyerGate)
  /-- `ping_timer_proc` goes through the expired pairs; those from `it` on are `left`, and the
  sessions in `sessionsDetached` still have to be marked, the first of them maybe not. -/
  | sweeping (expired left : List FoyerGate) (sessionsDetached : List ShadowSession) (marked : Bool)
  | done
deriving DecidableEq

/-- Go on with the checks, or with the first expired pair. -/
def Job.check (expired unchecked : List FoyerGate) : Job :=
  if unchecked = [] then
    if expired = [] then done else sweeping expired expired [] false
  else checking expired unchecked

/-- Go on with the sessions detached, or with the next expired pair. -/
def Job.sweep (expired left : List FoyerGate) (sessionsDetached : List ShadowSession) : Job :=
  if left = [] ∧ sessionsDetached = [] then done else sweeping expired left sessionsDetached false

/-- The container, the sessions whose `m_shutdown` is set, the servlets and ticks that have begun,
and how many sessions were made. -/
structure Supervisor where
  container : SessionContainer
  shutdowns : List ShadowSession
  jobs : List Job
  objects : ℕ
deriving DecidableEq

inductive ShadowEvent
  | websocketEstablishmentRequest (foyerUuid gateUuid clientUuid : Uuid)
    (clientIp authToken : Bytes)
  /-- `handle_websocket_establishment` ends, and `attach_session` is called. -/
  | attachSession (job : ℕ) (thrown : Option SessionException)
  /-- `Websocket_closure_notification`, up to `detach_session`. -/
  | websocketClosureNotification (clientUuid : Uuid) (statusCode : ℕ) (reason : Bytes)
  /-- `ping_timer_proc`, up to its first check. -/
  | pingTimer
  | checkGate (job : ℕ) (check : GateCheck)
  /-- The range of a pair is erased. -/
  | eraseRange (job : ℕ)
  | markShutdown (job : ℕ)
  /-- `handle_websocket_closure`; the status code of a notification may not be one. -/
  | handleWebsocketClosure (job : ℕ) (badNumericCast : Bool)
  | clear (statusCode : ℕ) (reason : String)
  | getSession (clientUuid : Uuid)
  /-- `shutdown` on a session that someone has. -/
  | shutdown (session : ShadowSession) (statusCode : ℕ) (reason : String)
deriving DecidableEq

/-- The job an event goes on with. -/
def ShadowEvent.job? : ShadowEvent → Option ℕ
  | attachSession job _ | checkGate job _ | eraseRange job | markShutdown job
  | handleWebsocketClosure job _ => some job
  | _ => none

/-- What is read from a `const char *`: the bytes before the first zero. -/
def cString (text : Bytes) : Bytes := text.takeWhile (· ≠ 0)

/-- What a step did. -/
inductive ShadowEffect
  | attached (session : ShadowSession)
  | detached (session : ShadowSession)
  | checked (pair : FoyerGate) (alive : Bool)
  | marked (session : ShadowSession)
  | closed (session : ShadowSession) (statusCode : ℕ) (reason : Bytes)
  /-- `shutdown` found the flag not set: a `Shutdown_job` was enqueued. -/
  | shutdown (session : ShadowSession) (statusCode : ℕ) (reason : String)
  | found (session : Option ShadowSession)
deriving DecidableEq

namespace Supervisor

def start : Supervisor := ⟨.empty, [], [], 0⟩

def setJob (x : Supervisor) (i : ℕ) (job : Job) : Supervisor := { x with jobs := x.jobs.set i job }

def addJob (x : Supervisor) (job : Job) : Supervisor := { x with jobs := x.jobs ++ [job] }

def markShutdown (x : Supervisor) (s : ShadowSession) : Supervisor :=
  { x with shutdowns := s :: x.shutdowns }

/-- `Websocket_shadow_session::shutdown`. -/
def shutdown (x : Supervisor) (s : ShadowSession) (statusCode : ℕ) (reason : String) :
    List ShadowEffect × Supervisor :=
  if s ∈ x.shutdowns then ([], x) else ([.shutdown s statusCode reason], x.markShutdown s)

def duplicateUuid : SessionException := .std "Duplicate Websocket_shadow_session UUID"

/-- One event: what it did, and the state afterwards.  An event that does not fit where its job
stands does nothing. -/
def handle (x : Supervisor) : ShadowEvent → List ShadowEffect × Supervisor
  | .websocketEstablishmentRequest foyerUuid gateUuid clientUuid clientIp authToken =>
    let session := ⟨x.objects, foyerUuid, gateUuid, clientUuid, clientIp, authToken⟩
    ([], { x.addJob (.establishing session) with objects := x.objects + 1 })
  | .attachSession i thrown =>
    match x.jobs[i]? with
    | some (.establishing session) =>
      match thrown with
      | none =>
        match x.container.insert session with
        | some container =>
          ([.attached session], { x.setJob i .done with container := container })
        | none => (x.setJob i .done).shutdown session duplicateUuid.statusCode duplicateUuid.what
      | some e => (x.setJob i .done).shutdown session e.statusCode e.what
    | _ => ([], x)
  | .websocketClosureNotification clientUuid statusCode reason =>
    match x.container.find clientUuid with
    | some session =>
      ([.detached session], { x.addJob (.closing session false statusCode reason) with
        container := x.container.erase session })
    | none => ([], x.addJob .done)
  | .pingTimer => ([], x.addJob (.check [] x.container.foyerGateUuidPairs))
  | .checkGate i check =>
    match x.jobs[i]? with
    | some (.checking expired (pair :: unchecked)) =>
      let expired' := if check.alive then expired else expired ++ [pair]
      ([.checked pair check.alive], x.setJob i (.check expired' unchecked))
    | _ => ([], x)
  | .eraseRange i =>
    match x.jobs[i]? with
    | some (.sweeping expired (_ :: left) [] _) =>
      match expired.getLast? with
      -- The range is that of the last expired pair, not of the one the loop is at.
      | some pair =>
        ((x.container.equalRange pair).map .detached,
          { x.setJob i (.sweep expired left (x.container.equalRange pair)) with
            container := x.container.erasePair pair })
      | none => ([], x)
    | _ => ([], x)
  | .markShutdown i =>
    match x.jobs[i]? with
    | some (.closing session false statusCode reason) =>
      ([.marked session],
        (x.setJob i (.closing session true statusCode reason)).markShutdown session)
    | some (.sweeping expired left (session :: sessions) false) =>
      ([.marked session],
        (x.setJob i (.sweeping expired left (session :: sessions) true)).markShutdown session)
    | _ => ([], x)
  | .handleWebsocketClosure i badNumericCast =>
    match x.jobs[i]? with
    | some (.closing session true statusCode reason) =>
      -- The servlet passes `reason.c_str()`.
      (if badNumericCast then [] else [.closed session statusCode (cString reason)],
        x.setJob i .done)
    | some (.sweeping expired left (session :: sessions) true) =>
      ([.closed session statusGoingAway (asciiBytes "Connection to gate server was lost")],
        x.setJob i (.sweep expired left sessions))
    | _ => ([], x)
  | .clear statusCode reason =>
    let found := x.container.sessions
    (found.map .detached ++
        (found.filter (· ∉ x.shutdowns)).map fun s => .shutdown s statusCode reason,
      { x with container := .empty, shutdowns := found ++ x.shutdowns })
  | .getSession clientUuid => ([.found (x.container.find clientUuid)], x)
  | .shutdown session statusCode reason => x.shutdown session statusCode reason

end Supervisor

/-- An event and what it did. -/
structure ShadowLabel where
  event : ShadowEvent
  effects : List ShadowEffect
deriving DecidableEq

namespace Supervisor

def next (x : Supervisor) (event : ShadowEvent) : ShadowLabel × Supervisor :=
  let (effects, y) := x.handle event
  (⟨event, effects⟩, y)

def Step (x : Supervisor) (l : ShadowLabel) (y : Supervisor) : Prop :=
  x.handle l.event = (l.effects, y)

/-! ## What a step can do -/

/-- `shutdown` was called on a session, or on none: flags were set and jobs enqueued. -/
structure ShutsOnly (x : Supervisor) (effects : List ShadowEffect)
    (shutdowns : List ShadowSession) :
    Prop where
  subset : x.shutdowns ⊆ shutdowns
  effects : ∀ e ∈ effects, ∃ s statusCode reason, e = .shutdown s statusCode reason

theorem shutdown_eq (x : Supervisor) (s : ShadowSession) (statusCode : ℕ) (reason : String) :
    ∃ effects shutdowns, x.shutdown s statusCode reason
      = (effects, { x with shutdowns := shutdowns }) ∧
      ShutsOnly x effects shutdowns := by
  rw [shutdown]
  split
  · exact ⟨[], x.shutdowns, rfl, List.Subset.refl _, List.forall_mem_nil _⟩
  · refine ⟨_, s :: x.shutdowns, rfl, List.subset_cons_self _ _, ?_⟩
    simp

/-- **What a step can do**, one case for each place a job can be in. -/
inductive Did (x : Supervisor) : ShadowEvent → List ShadowEffect → Supervisor → Prop
  | made {foyerUuid gateUuid clientUuid : Uuid} {clientIp authToken : Bytes} :
      Did x (.websocketEstablishmentRequest foyerUuid gateUuid clientUuid clientIp authToken) []
        { x.addJob (.establishing
            ⟨x.objects, foyerUuid, gateUuid, clientUuid, clientIp, authToken⟩) with
          objects := x.objects + 1 }
  | attached {i : ℕ} {thrown : Option SessionException} {session : ShadowSession}
      {container : SessionContainer} (hjob : x.jobs[i]? = some (.establishing session))
      (hinsert : x.container.insert session = some container) :
      Did x (.attachSession i thrown) [.attached session]
        { x.setJob i .done with container := container }
  | refused {i : ℕ} {thrown : Option SessionException} {session : ShadowSession}
      {effects : List ShadowEffect} {shutdowns : List ShadowSession}
      (hjob : x.jobs[i]? = some (.establishing session)) (hshuts : ShutsOnly x effects shutdowns) :
      Did x (.attachSession i thrown) effects { x.setJob i .done with shutdowns := shutdowns }
  | detached {clientUuid : Uuid} {statusCode : ℕ} {reason : Bytes} {session : ShadowSession}
      (hfind : x.container.find clientUuid = some session) :
      Did x (.websocketClosureNotification clientUuid statusCode reason) [.detached session]
        { x.addJob (.closing session false statusCode reason) with
          container := x.container.erase session }
  | unknown {clientUuid : Uuid} {statusCode : ℕ} {reason : Bytes} :
      Did x (.websocketClosureNotification clientUuid statusCode reason) [] (x.addJob .done)
  | collected : Did x .pingTimer [] (x.addJob (.check [] x.container.foyerGateUuidPairs))
  | checked {i : ℕ} {check : GateCheck} {expired unchecked : List FoyerGate} {pair : FoyerGate}
      (hjob : x.jobs[i]? = some (.checking expired (pair :: unchecked))) :
      Did x (.checkGate i check) [.checked pair check.alive]
        (x.setJob i (.check (if check.alive then expired else expired ++ [pair]) unchecked))
  | erased {i : ℕ} {expired left : List FoyerGate} {it pair : FoyerGate} {marked : Bool}
      (hjob : x.jobs[i]? = some (.sweeping expired (it :: left) [] marked))
      (hlast : expired.getLast? = some pair) :
      Did x (.eraseRange i) ((x.container.equalRange pair).map .detached)
        { x.setJob i (.sweep expired left (x.container.equalRange pair)) with
          container := x.container.erasePair pair }
  | markedClosing {i statusCode : ℕ} {session : ShadowSession} {reason : Bytes}
      (hjob : x.jobs[i]? = some (.closing session false statusCode reason)) :
      Did x (.markShutdown i) [.marked session]
        ((x.setJob i (.closing session true statusCode reason)).markShutdown session)
  | markedSweeping {i : ℕ} {expired left : List FoyerGate} {session : ShadowSession}
      {sessions : List ShadowSession}
      (hjob : x.jobs[i]? = some (.sweeping expired left (session :: sessions) false)) :
      Did x (.markShutdown i) [.marked session]
        ((x.setJob i (.sweeping expired left (session :: sessions) true)).markShutdown session)
  | closed {i statusCode : ℕ} {badNumericCast : Bool} {session : ShadowSession} {reason : Bytes}
      (hjob : x.jobs[i]? = some (.closing session true statusCode reason)) :
      Did x (.handleWebsocketClosure i badNumericCast)
        (if badNumericCast then [] else [.closed session statusCode (cString reason)])
        (x.setJob i .done)
  | closedSweeping {i : ℕ} {badNumericCast : Bool} {expired left : List FoyerGate}
      {session : ShadowSession} {sessions : List ShadowSession}
      (hjob : x.jobs[i]? = some (.sweeping expired left (session :: sessions) true)) :
      Did x (.handleWebsocketClosure i badNumericCast)
        [.closed session statusGoingAway (asciiBytes "Connection to gate server was lost")]
        (x.setJob i (.sweep expired left sessions))
  | cleared {statusCode : ℕ} {reason : String} {effects : List ShadowEffect}
      {shutdowns : List ShadowSession} (hshuts : ShutsOnly x effects shutdowns) :
      Did x (.clear statusCode reason) (x.container.sessions.map .detached ++ effects)
        { x with container := .empty, shutdowns := shutdowns }
  | found {clientUuid : Uuid} :
      Did x (.getSession clientUuid) [.found (x.container.find clientUuid)] x
  | shut {session : ShadowSession} {statusCode : ℕ} {reason : String} {effects : List ShadowEffect}
      {shutdowns : List ShadowSession} (hshuts : ShutsOnly x effects shutdowns) :
      Did x (.shutdown session statusCode reason) effects { x with shutdowns := shutdowns }
  | misfit {event : ShadowEvent} (hevent : event.job?.isSome) : Did x event [] x

theorem did_handle (x : Supervisor) (event : ShadowEvent) :
    Did x event (x.handle event).1 (x.handle event).2 := by
  cases event with
  | websocketEstablishmentRequest foyerUuid gateUuid clientUuid clientIp authToken => exact .made
  | attachSession i thrown =>
    have hrefused (session : ShadowSession) (statusCode : ℕ) (reason : String)
        (hjob : x.jobs[i]? = some (.establishing session)) :
        Did x (.attachSession i thrown) ((x.setJob i .done).shutdown session statusCode reason).1
          ((x.setJob i .done).shutdown session statusCode reason).2 := by
      obtain ⟨effects, shutdowns, heq, hshuts⟩ :=
        (x.setJob i .done).shutdown_eq session statusCode reason
      rw [heq]
      exact .refused hjob ⟨hshuts.subset, hshuts.effects⟩
    simp only [handle]
    split
    case h_1 session hjob =>
      split
      · split
        case h_1 container hinsert => exact .attached hjob hinsert
        case h_2 => exact hrefused session _ _ hjob
      · exact hrefused session _ _ hjob
    case h_2 => exact .misfit rfl
  | websocketClosureNotification clientUuid statusCode reason =>
    simp only [handle]
    split
    case h_1 session hfind => exact .detached hfind
    case h_2 => exact .unknown
  | pingTimer => exact .collected
  | checkGate i check =>
    simp only [handle]
    split
    case h_1 hjob => exact .checked hjob
    case h_2 => exact .misfit rfl
  | eraseRange i =>
    simp only [handle]
    split
    case h_1 hjob =>
      split
      case h_1 pair hlast => exact .erased hjob hlast
      case h_2 => exact .misfit rfl
    case h_2 => exact .misfit rfl
  | markShutdown i =>
    simp only [handle]
    split
    case h_1 hjob => exact .markedClosing hjob
    case h_2 hjob => exact .markedSweeping hjob
    case h_3 => exact .misfit rfl
  | handleWebsocketClosure i badNumericCast =>
    simp only [handle]
    split
    case h_1 hjob => exact .closed hjob
    case h_2 hjob => exact .closedSweeping hjob
    case h_3 => exact .misfit rfl
  | clear statusCode reason =>
    refine .cleared ⟨List.subset_append_right _ _, fun e he => ?_⟩
    obtain ⟨s, _, rfl⟩ := List.mem_map.mp he
    exact ⟨s, statusCode, reason, rfl⟩
  | getSession clientUuid => exact .found
  | shutdown session statusCode reason =>
    obtain ⟨effects, shutdowns, heq, hshuts⟩ := x.shutdown_eq session statusCode reason
    simp only [handle, heq]
    exact .shut hshuts

theorem Step.did {x y : Supervisor} {l : ShadowLabel} (h : Step x l y) :
    Did x l.event l.effects y := by
  have hdid := x.did_handle l.event
  rwa [show x.handle l.event = (l.effects, y) from h] at hdid

end Supervisor

end Box

end Circe
