import Circe.Common.Standing
import Circe.Common.WireFormat

/-!
# Common/InterserverAcceptor — the sessions of an acceptor

An acceptor makes a session for every connection, and keeps those whose hello it accepted under
their connection UUID (`m_weak_sessions`).  The table holds weak pointers: an entry whose session
has expired is erased when the next hello comes up.

A registration identifies its session (`Registered`): the two have the same UUID, and a session that
took its UUID stays registered until it is shut down.
-/

namespace Circe.Common

/-- A session, by the order in which they were made. -/
abbrev SessionId := ℕ

/-- A session, and whether the last `shared_ptr` to it is gone. -/
structure InterserverSession (Φ : Type) where
  connection : InterserverConnection Φ
  expired : Bool
deriving DecidableEq

structure InterserverAcceptor (Φ : Type) where
  applicationKey : Bytes
  sessions : List (InterserverSession Φ)
  weakSessions : FlatMap Uuid SessionId

/-- `get_connection_uuid`. -/
def InterserverConnection.getConnectionUuid {Φ : Type} (c : InterserverConnection Φ) :
    Except Exception Uuid :=
  if c.isConnectionUuidSet then .ok c.connectionUuid
  else .error (.exception "Interserver_connection has not been fully established")

namespace InterserverAcceptor

variable {Φ : Type} (P : Platform Φ)

def new (applicationKey : Bytes) : InterserverAcceptor Φ := ⟨applicationKey, [], .empty⟩

/-- `weak_ptr::lock`. -/
def lock (x : InterserverAcceptor Φ) (n : SessionId) : Option (InterserverSession Φ) :=
  x.sessions[n]?.filter fun session => !session.expired

/-- `weak_ptr::expired`. -/
def expired (x : InterserverAcceptor Φ) (n : SessionId) : Bool := (x.lock n).isNone

/-- `Interserver_session::layer7_post_set_connection_uuid`, of the session `n` that has just taken
the UUID `connectionUuid`. -/
def layer7PostSetConnectionUuid (x : InterserverAcceptor Φ) (n : SessionId) (connectionUuid : Uuid)
    (weakSessions : FlatMap Uuid SessionId) : Except Exception Unit × FlatMap Uuid SessionId :=
  let weakSessions := weakSessions.eraseIf x.expired
  if connectionUuid = 0 then
    (.error (.exception "Interserver_connection has not been fully established"), weakSessions)
  else
    match weakSessions.emplace connectionUuid n with
    | none => (.error (.exception "Duplicate Interserver_session UUID"), weakSessions)
    | some weakSessions => (.ok (), weakSessions)

def getSession (x : InterserverAcceptor Φ) (connectionUuid : Uuid) :
    Except Exception (Option SessionId) :=
  match x.weakSessions.find? connectionUuid with
  | none => .ok none
  | some n =>
    match x.lock n with
    | none => .ok none
    | some session =>
      match session.connection.getConnectionUuid with
      | .error e => .error e
      | .ok uuid =>
        if uuid = connectionUuid then .ok (some n)
        else .error (.assertion "session->get_connection_uuid() == connection_uuid")

/-- A session that `clear` finds in the table. -/
def clearSession (x : InterserverAcceptor Φ) (errCode : Int64) (errMsg : String) (n : SessionId)
    (session : InterserverSession Φ) : InterserverSession Φ :=
  if !session.expired && x.weakSessions.entries.any (fun e => e.2 = n) then
    { session with connection := session.connection.shutdown errCode errMsg }
  else session

/-- `clear`, and how many sessions it shut down. -/
def clear (x : InterserverAcceptor Φ) (errCode : Int64) (errMsg : String) :
    ℕ × InterserverAcceptor Φ :=
  (x.weakSessions.entries.countP fun e => !x.expired e.2,
    { x with
      sessions := x.sessions.mapIdx (x.clearSession errCode errMsg)
      weakSessions := .empty })

end InterserverAcceptor

/-! ## The acceptor as a machine -/

/-- What can happen to an acceptor: a connection comes in, one of its sessions handles an event or
expires, or it is cleared. -/
inductive AcceptorEvent
  | onClientConnect
  | session (n : SessionId) (event : Event)
  | expire (n : SessionId)
  | clear (errCode : Int64) (errMsg : String)

structure AcceptorLabel where
  event : AcceptorEvent
  effects : List Effect

namespace InterserverAcceptor

variable {Φ : Type} (P : Platform Φ)

/-- A session lives at least as long as a job on its workhorse thread refers to it. -/
def Enabled (x : InterserverAcceptor Φ) : AcceptorEvent → Prop
  | .session n event => ∃ session ∈ x.lock n, session.connection.Enabled event
  | .expire n => ∃ session ∈ x.lock n, session.connection.workhorse = []
  | .onClientConnect | .clear .. => True

instance (x : InterserverAcceptor Φ) : DecidablePred x.Enabled
  | .session .. | .expire _ => inferInstanceAs (Decidable (∃ session ∈ x.lock _, _))
  | .onClientConnect | .clear .. => inferInstanceAs (Decidable True)

def next (x : InterserverAcceptor Φ) (event : AcceptorEvent) :
    AcceptorLabel × InterserverAcceptor Φ :=
  match event with
  | .onClientConnect =>
    (⟨event, []⟩, { x with sessions := x.sessions ++ [⟨.new x.applicationKey, false⟩] })
  | .session n e =>
    match x.lock n with
    | none => (⟨event, []⟩, x)
    | some session =>
      let (effects, c, weakSessions) :=
        session.connection.handle P (x.layer7PostSetConnectionUuid n) e x.weakSessions
      (⟨event, effects⟩,
        { x with sessions := x.sessions.set n ⟨c, false⟩, weakSessions := weakSessions })
  | .expire n =>
    (⟨event, []⟩,
      { x with sessions := x.sessions.modify n fun session => { session with expired := true } })
  | .clear errCode errMsg => (⟨event, []⟩, (x.clear errCode errMsg).2)

def Step (x : InterserverAcceptor Φ) (l : AcceptorLabel) (y : InterserverAcceptor Φ) : Prop :=
  x.Enabled l.event ∧ l = (x.next P l.event).1 ∧ y = (x.next P l.event).2

/-! ## Sessions and steps -/

variable {P} {x y : InterserverAcceptor Φ} {n m : SessionId} {session : InterserverSession Φ}

theorem lock_eq_some :
    x.lock n = some session ↔ x.sessions[n]? = some session ∧ session.expired = false := by
  simp [lock, Option.filter_eq_some_iff]

theorem expired_eq_false (h : x.lock n = some session) : x.expired n = false := by
  rw [expired, h]
  rfl

/-- A session handled an event. -/
def setSession (x : InterserverAcceptor Φ) (n : SessionId) (c : InterserverConnection Φ)
    (weakSessions : FlatMap Uuid SessionId) : InterserverAcceptor Φ :=
  { x with sessions := x.sessions.set n ⟨c, false⟩, weakSessions := weakSessions }

/-- **What a step does to an acceptor.** -/
inductive Moved (P : Platform Φ) (x : InterserverAcceptor Φ) :
    AcceptorLabel → InterserverAcceptor Φ → Prop
  | onClientConnect : Moved P x ⟨.onClientConnect, []⟩
      { x with sessions := x.sessions ++ [⟨.new x.applicationKey, false⟩] }
  | session (n : SessionId) (event : Event) (session : InterserverSession Φ)
      (hlock : x.lock n = some session) (henabled : session.connection.Enabled event)
      (effects : List Effect) (c : InterserverConnection Φ) (weakSessions : FlatMap Uuid SessionId)
      (hhandle : session.connection.handle P (x.layer7PostSetConnectionUuid n) event x.weakSessions
        = (effects, c, weakSessions)) :
      Moved P x ⟨.session n event, effects⟩ (x.setSession n c weakSessions)
  | expire (n : SessionId) : Moved P x ⟨.expire n, []⟩
      { x with sessions := x.sessions.modify n fun session => { session with expired := true } }
  | clear (errCode : Int64) (errMsg : String) :
      Moved P x ⟨.clear errCode errMsg, []⟩ (x.clear errCode errMsg).2

theorem Step.moved {l : AcceptorLabel} (h : Step P x l y) : Moved P x l y := by
  obtain ⟨event, effects⟩ := l
  obtain ⟨henabled, hl, hy⟩ := h
  cases event with
  | onClientConnect =>
    rw [hl, hy]
    exact .onClientConnect
  | session n event =>
    obtain ⟨session, hlock, henabled⟩ := henabled
    have hnext : x.next P (.session n event)
        = (⟨.session n event, (session.connection.handle P (x.layer7PostSetConnectionUuid n) event
            x.weakSessions).1⟩, { x with
          sessions := x.sessions.set n ⟨(session.connection.handle P
            (x.layer7PostSetConnectionUuid n) event x.weakSessions).2.1, false⟩
          weakSessions := (session.connection.handle P (x.layer7PostSetConnectionUuid n) event
            x.weakSessions).2.2 }) := by
      rw [next, Option.mem_def.mp hlock]
    rw [hl, hy, hnext]
    exact .session n event session hlock henabled _ _ _ rfl
  | expire n =>
    rw [hl, hy]
    exact .expire n
  | clear errCode errMsg =>
    rw [hl, hy]
    exact .clear errCode errMsg

variable (P x) in
theorem event_next (event : AcceptorEvent) : (x.next P event).1.event = event := by
  cases event with
  | session n e =>
    rw [next]
    split <;> rfl
  | _ => rfl

theorem step_next {event : AcceptorEvent} (h : x.Enabled event) :
    Step P x (x.next P event).1 (x.next P event).2 :=
  ⟨(event_next P x event).symm ▸ h, by rw [event_next], by rw [event_next]⟩

/-! ### What becomes of a session -/

theorem lock_setSession (h : x.lock n = some session) (c : InterserverConnection Φ)
    (weakSessions : FlatMap Uuid SessionId) :
    (x.setSession n c weakSessions).lock n = some ⟨c, false⟩ := by
  obtain ⟨hlt, -⟩ := List.getElem?_eq_some_iff.mp (lock_eq_some.mp h).1
  exact lock_eq_some.mpr ⟨List.getElem?_set_self hlt, rfl⟩

theorem lock_setSession_of_ne (h : n ≠ m) (c : InterserverConnection Φ)
    (weakSessions : FlatMap Uuid SessionId) :
    (x.setSession n c weakSessions).lock m = x.lock m := by
  rw [lock, lock, setSession, List.getElem?_set_ne h]

theorem lock_concat (session' : InterserverSession Φ)
    (h : ({ x with sessions := x.sessions ++ [session'] }).lock n = some session) :
    x.lock n = some session ∨ n = x.sessions.length ∧ session = session' := by
  obtain ⟨hget, hlive⟩ := lock_eq_some.mp h
  rw [List.getElem?_append] at hget
  split at hget
  case isTrue => exact .inl (lock_eq_some.mpr ⟨hget, hlive⟩)
  case isFalse hlt =>
    rw [List.getElem?_singleton] at hget
    split at hget
    case isTrue hzero =>
      cases hget
      exact .inr ⟨le_antisymm (Nat.sub_eq_zero_iff_le.mp hzero) (not_lt.mp hlt), rfl⟩
    case isFalse => cases hget

theorem lock_concat_of_some (session' : InterserverSession Φ) (h : x.lock n = some session) :
    ({ x with sessions := x.sessions ++ [session'] }).lock n = some session := by
  obtain ⟨hget, hlive⟩ := lock_eq_some.mp h
  obtain ⟨hlt, -⟩ := List.getElem?_eq_some_iff.mp hget
  exact lock_eq_some.mpr ⟨(List.getElem?_append_left hlt).trans hget, hlive⟩

theorem lock_expire
    (h : ({ x with
      sessions := x.sessions.modify m fun session => { session with expired := true } }).lock n
        = some session) : m ≠ n ∧ x.lock n = some session := by
  obtain ⟨hget, hlive⟩ := lock_eq_some.mp h
  rw [List.getElem?_modify] at hget
  obtain ⟨session', hsession', rfl⟩ := Option.map_eq_some_iff.mp hget
  rcases eq_or_ne m n with hmn | hmn
  · rw [if_pos hmn] at hlive
    cases hlive
  · rw [if_neg hmn] at hlive ⊢
    exact ⟨hmn, lock_eq_some.mpr ⟨hsession', hlive⟩⟩

theorem lock_expire_of_ne (hne : m ≠ n) (h : x.lock n = some session) :
    ({ x with
      sessions := x.sessions.modify m fun session => { session with expired := true } }).lock n
        = some session := by
  obtain ⟨hget, hlive⟩ := lock_eq_some.mp h
  refine lock_eq_some.mpr ⟨?_, hlive⟩
  rw [List.getElem?_modify, hget]
  exact congrArg some (if_neg hne)

/-- `clear` shuts down the sessions in the table and leaves the others. -/
theorem lock_clear {errCode : Int64} {errMsg : String}
    (h : (x.clear errCode errMsg).2.lock n = some session) : ∃ session₀,
      x.lock n = some session₀ ∧ session = x.clearSession errCode errMsg n session₀ := by
  obtain ⟨hget, hlive⟩ := lock_eq_some.mp h
  obtain ⟨session₀, hsession₀, rfl⟩ := Option.map_eq_some_iff.mp
    ((List.getElem?_mapIdx ..).symm.trans hget)
  refine ⟨session₀, lock_eq_some.mpr ⟨hsession₀, ?_⟩, rfl⟩
  rw [clearSession] at hlive
  split at hlive <;> exact hlive

theorem clearSession_cases (x : InterserverAcceptor Φ) (errCode : Int64) (errMsg : String)
    (n : SessionId) (session : InterserverSession Φ) :
    x.clearSession errCode errMsg n session = session ∧
        (session.expired = false → ∀ e ∈ x.weakSessions.entries, e.2 ≠ n) ∨
      x.clearSession errCode errMsg n session
        = { session with connection := session.connection.shutdown errCode errMsg } := by
  rw [clearSession]
  split
  case isTrue => exact .inr rfl
  case isFalse hnot =>
    refine .inl ⟨rfl, fun hlive e he hn => hnot ?_⟩
    simp only [hlive, Bool.not_false, Bool.true_and, List.any_eq_true, decide_eq_true_eq]
    exact ⟨e, he, hn⟩

/-- **What a step does to the connection of the session `n`.** -/
inductive SessionMoved (P : Platform Φ) (x : InterserverAcceptor Φ) (n : SessionId)
    (l : AcceptorLabel) : InterserverConnection Φ → InterserverConnection Φ → Prop
  | kept (c : InterserverConnection Φ) (hevent : ∀ e, l.event ≠ .session n e) :
      SessionMoved P x n l c c
  | cleared (c : InterserverConnection Φ) (errCode : Int64) (errMsg : String)
      (hevent : ∀ e, l.event ≠ .session n e) : SessionMoved P x n l c (c.shutdown errCode errMsg)
  | handled (session : InterserverSession Φ) (e : Event) (hlock : x.lock n = some session)
      (hevent : l.event = .session n e)
      (heffects : l.effects = (session.connection.handle P (x.layer7PostSetConnectionUuid n) e
        x.weakSessions).1) :
      SessionMoved P x n l session.connection
        (session.connection.handle P (x.layer7PostSetConnectionUuid n) e x.weakSessions).2.1

theorem Step.sessionMoved {l : AcceptorLabel} (hstep : Step P x l y)
    (h : y.sessions[n]? = some session) :
    l.event = .onClientConnect ∧ n = x.sessions.length ∧
        session.connection = .new x.applicationKey ∨
      ∃ session₀, x.sessions[n]? = some session₀ ∧
        SessionMoved P x n l session₀.connection session.connection := by
  rcases hstep.moved with _ | ⟨m, event, session', hlock, -, effects, c, weakSessions, hhandle⟩ |
    m | ⟨errCode, errMsg⟩
  · rw [List.getElem?_append] at h
    split at h
    case isTrue => exact .inr ⟨session, h, .kept _ fun e he => by cases he⟩
    case isFalse hlt =>
      rw [List.getElem?_singleton] at h
      split at h
      case isTrue hzero =>
        cases h
        exact .inl ⟨rfl, le_antisymm (Nat.sub_eq_zero_iff_le.mp hzero) (not_lt.mp hlt), rfl⟩
      case isFalse => cases h
  · rcases eq_or_ne m n with rfl | hmn
    · have hset := (lock_eq_some.mp (lock_setSession hlock c weakSessions)).1
      obtain rfl := Option.some.inj (hset.symm.trans h)
      refine .inr ⟨session', (lock_eq_some.mp hlock).1, ?_⟩
      have hmoved := SessionMoved.handled (P := P) (x := x) (l := ⟨.session m event, effects⟩)
        session' event hlock rfl (by rw [hhandle])
      rw [hhandle] at hmoved
      exact hmoved
    · refine .inr ⟨session, (List.getElem?_set_ne hmn).symm.trans h, .kept _ fun e he => ?_⟩
      cases he
      exact hmn rfl
  · rw [List.getElem?_modify] at h
    obtain ⟨session₀, hsession₀, rfl⟩ := Option.map_eq_some_iff.mp h
    refine .inr ⟨session₀, hsession₀, ?_⟩
    have hsame : (if m = n then { session₀ with expired := true } else session₀).connection
        = session₀.connection := by
      split <;> rfl
    rw [hsame]
    exact .kept _ fun e he => by cases he
  · obtain ⟨session₀, hsession₀, rfl⟩ :=
      Option.map_eq_some_iff.mp ((List.getElem?_mapIdx ..).symm.trans h)
    refine .inr ⟨session₀, hsession₀, ?_⟩
    rcases x.clearSession_cases errCode errMsg n session₀ with ⟨hsame, -⟩ | hdown
    · rw [hsame]
      exact .kept _ fun e he => by cases he
    · rw [hdown]
      exact .cleared _ errCode errMsg fun e he => by cases he

theorem Step.length {l : AcceptorLabel} (hstep : Step P x l y) :
    l.event = .onClientConnect ∧ y.sessions.length = x.sessions.length + 1 ∨
      l.event ≠ .onClientConnect ∧ y.sessions.length = x.sessions.length := by
  rcases hstep.moved with _ | ⟨m, event, session', -, -, effects, c, weakSessions, -⟩ | m |
    ⟨errCode, errMsg⟩
  · exact .inl ⟨rfl, by simp⟩
  · exact .inr ⟨by simp, by simp [setSession]⟩
  · exact .inr ⟨by simp, by simp⟩
  · exact .inr ⟨by simp, by simp [clear]⟩

theorem Step.applicationKey {l : AcceptorLabel} (hstep : Step P x l y) :
    y.applicationKey = x.applicationKey := by
  rcases hstep.moved with _ | _ | _ | _ <;> rfl

/-! ## Registering a session -/

section Post

variable {connectionUuid : Uuid} {weakSessions : FlatMap Uuid SessionId} {e : Uuid × SessionId}

/-- A registration that is there afterwards was there before, or is the one just made. -/
theorem mem_post (h : e ∈ (x.layer7PostSetConnectionUuid n connectionUuid weakSessions).2.entries) :
    e ∈ weakSessions.entries ∨ e = (connectionUuid, n) ∧ connectionUuid ≠ 0 := by
  simp only [layer7PostSetConnectionUuid] at h
  split at h
  case isTrue => exact .inl (FlatMap.mem_entries_eraseIf.mp h).1
  case isFalse hset =>
    split at h
    case h_1 => exact .inl (FlatMap.mem_entries_eraseIf.mp h).1
    case h_2 weakSessions' hemplace =>
      rcases (FlatMap.mem_entries_emplace hemplace).mp h with rfl | h
      · exact .inr ⟨rfl, hset⟩
      · exact .inl (FlatMap.mem_entries_eraseIf.mp h).1

/-- **The registration of a live session stays.** -/
theorem mem_post_of_mem (h : e ∈ weakSessions.entries) (hlive : x.expired e.2 = false) :
    e ∈ (x.layer7PostSetConnectionUuid n connectionUuid weakSessions).2.entries := by
  have hkept : e ∈ (weakSessions.eraseIf x.expired).entries :=
    FlatMap.mem_entries_eraseIf.mpr ⟨h, hlive⟩
  simp only [layer7PostSetConnectionUuid]
  split
  case isTrue => exact hkept
  case isFalse =>
    split
    case h_1 => exact hkept
    case h_2 weakSessions' hemplace => exact (FlatMap.mem_entries_emplace hemplace).mpr (.inr hkept)

/-- A session that is not refused is registered. -/
theorem mem_post_of_ok
    (h : (x.layer7PostSetConnectionUuid n connectionUuid weakSessions).1 = .ok ()) :
    (connectionUuid, n)
      ∈ (x.layer7PostSetConnectionUuid n connectionUuid weakSessions).2.entries := by
  simp only [layer7PostSetConnectionUuid] at h ⊢
  split at h
  case isTrue => cases h
  case isFalse hset =>
    rw [if_neg hset]
    split at h
    case h_1 => cases h
    case h_2 weakSessions' hemplace => exact (FlatMap.mem_entries_emplace hemplace).mpr (.inl rfl)

/-- **A UUID that a live session has is refused.** -/
theorem post_ne_ok_of_mem (h : (connectionUuid, m) ∈ weakSessions.entries)
    (hlive : x.expired m = false) :
    (x.layer7PostSetConnectionUuid n connectionUuid weakSessions).1 ≠ .ok () := by
  intro hok
  simp only [layer7PostSetConnectionUuid] at hok
  split at hok
  case isTrue => cases hok
  case isFalse =>
    split at hok
    case h_1 => cases hok
    case h_2 weakSessions' hemplace =>
      exact FlatMap.notMem_of_emplace hemplace (FlatMap.mem_entries_eraseIf.mpr ⟨h, hlive⟩)

end Post

/-! ## The table identifies its sessions -/

/-- **A registration identifies its session**: it is under the UUID of the session, and a session
that took its UUID is registered until it is shut down. -/
structure Registered (x : InterserverAcceptor Φ) : Prop where
  entries : ∀ {uuid n}, (uuid, n) ∈ x.weakSessions.entries → ∃ session,
    x.sessions[n]? = some session ∧ session.connection.connectionUuid = uuid ∧ uuid ≠ 0
  registered : ∀ {n session}, x.lock n = some session →
    session.connection.hasBeenShutdown = false → session.connection.isConnectionUuidSet = true →
      (session.connection.connectionUuid, n) ∈ x.weakSessions.entries
  authenticated : ∀ {n session}, x.lock n = some session →
    session.connection.authenticated = true → session.connection.isConnectionUuidSet = true

/-- What an event of a session does to the table: `c` is the connection of the session `n`
afterwards. -/
structure Kept (x : InterserverAcceptor Φ) (n : SessionId) (c c' : InterserverConnection Φ)
    (weakSessions : FlatMap Uuid SessionId) : Prop where
  entries : ∀ e ∈ weakSessions.entries,
    e ∈ x.weakSessions.entries ∨ e = (c'.connectionUuid, n) ∧ c'.connectionUuid ≠ 0
  live : ∀ e ∈ x.weakSessions.entries, x.expired e.2 = false → e ∈ weakSessions.entries
  connectionUuid : c.isConnectionUuidSet = true → c'.connectionUuid = c.connectionUuid
  registered : c'.hasBeenShutdown = false → c'.isConnectionUuidSet = true →
    (c'.connectionUuid, n) ∈ weakSessions.entries
  authenticated : c'.authenticated = true → c'.isConnectionUuidSet = true

theorem Registered.handle (hx : x.Registered) (hlock : x.lock n = some session) (event : Event) :
    x.Kept n session.connection
      (session.connection.handle P (x.layer7PostSetConnectionUuid n) event x.weakSessions).2.1
      (session.connection.handle P (x.layer7PostSetConnectionUuid n) event x.weakSessions).2.2 := by
  have hauthenticated := hx.authenticated hlock
  have hup (h : (session.connection.handle P (x.layer7PostSetConnectionUuid n) event
      x.weakSessions).2.1.hasBeenShutdown = false) :
        session.connection.hasBeenShutdown = false := by
    by_contra hdown
    have hdown' := InterserverConnection.hasBeenShutdown_handle P (x.layer7PostSetConnectionUuid n)
      (by simpa using hdown : session.connection.hasBeenShutdown = true) event x.weakSessions
    exact absurd (h.symm.trans hdown') (by decide)
  have hgreeted := InterserverConnection.greeted_handle P (x.layer7PostSetConnectionUuid n)
    session.connection event x.weakSessions
  generalize session.connection.handle P (x.layer7PostSetConnectionUuid n) event x.weakSessions
    = after at hup hgreeted ⊢
  obtain ⟨effects, c', weakSessions⟩ := after
  dsimp only at hup hgreeted ⊢
  rcases hgreeted with ⟨hstanding, -⟩ |
    ⟨encodedPayload, msg, hframe, -, hunset, authenticated, hstanding, houtcome⟩ |
    ⟨encodedPayload, msg, hframe, -, hset, authenticated, hstanding, houtcome⟩
  · have huuid : c'.connectionUuid = session.connection.connectionUuid :=
      congrArg Standing.connectionUuid hstanding
    have hset : c'.isConnectionUuidSet = session.connection.isConnectionUuidSet :=
      congrArg (· != 0) huuid
    refine ⟨fun e he => .inl he, fun e he _ => he, fun _ => huuid, fun h hc' => ?_, fun h => ?_⟩
    · rw [huuid]
      exact hx.registered hlock (hup h) (hset ▸ hc')
    · rw [hset]
      exact hauthenticated ((congrArg Standing.authenticated hstanding).symm.trans h)
  · -- The hello of a client: the session takes its UUID and is registered, or it is shut down.
    have huuid : c'.connectionUuid = msg.connectionUuid :=
      congrArg Standing.connectionUuid hstanding
    refine ⟨fun e he => ?_, fun e he hlive => mem_post_of_mem he hlive,
      fun h => absurd (hunset.symm.trans h) (by decide), fun h hc' => ?_, fun h => ?_⟩
    · rw [huuid]
      exact mem_post he
    · rcases houtcome with ⟨-, -, hposted⟩ | ⟨-, hdown⟩
      · rw [huuid]
        exact mem_post_of_ok hposted
      · exact absurd (h.symm.trans hdown) (by decide)
    · have hc' : authenticated = true := (congrArg Standing.authenticated hstanding).symm.trans h
      rcases houtcome with ⟨-, hset, -⟩ | ⟨hsame, -⟩
      · rw [InterserverConnection.isConnectionUuidSet, huuid]
        exact bne_iff_ne.mpr hset
      · exact absurd (hunset.symm.trans (hauthenticated (hsame.symm.trans hc'))) (by decide)
  · -- The hello of a server finds the session registered, so it shuts it down.
    have huuid : c'.connectionUuid = session.connection.connectionUuid :=
      congrArg Standing.connectionUuid hstanding
    have hc' : c'.isConnectionUuidSet = true := (congrArg (· != 0) huuid).trans hset
    have hdown : c'.hasBeenShutdown = true := by
      rcases houtcome with ⟨-, hposted⟩ | ⟨-, hdown⟩
      · obtain ⟨-, hsession, -⟩ := InterserverConnection.handle_of_handledFrame P
          (x.layer7PostSetConnectionUuid n) hframe x.weakSessions
        exact absurd hposted (post_ne_ok_of_mem (hx.registered hlock hsession hset)
          (expired_eq_false hlock))
      · exact hdown
    refine ⟨fun e he => ?_, fun e he hlive => mem_post_of_mem he hlive, fun _ => huuid,
      fun h => absurd (h.symm.trans hdown) (by decide), fun _ => hc'⟩
    rw [huuid]
    exact mem_post he

theorem Registered.step {l : AcceptorLabel} (hx : x.Registered) (hstep : Step P x l y) :
    y.Registered := by
  rcases hstep.moved with _ | ⟨n, event, session, hlock, -, effects, c, weakSessions, hhandle⟩ | m |
    ⟨errCode, errMsg⟩
  · have hnew : (InterserverConnection.new x.applicationKey : InterserverConnection
        Φ).isConnectionUuidSet = false := rfl
    refine ⟨fun hmem => ?_, fun h hup hset => ?_, fun h hauthenticated => ?_⟩
    · obtain ⟨session, hsession, huuid⟩ := hx.entries hmem
      obtain ⟨hlt, -⟩ := List.getElem?_eq_some_iff.mp hsession
      exact ⟨session, (List.getElem?_append_left hlt).trans hsession, huuid⟩
    · rcases lock_concat _ h with h | ⟨-, rfl⟩
      · exact hx.registered h hup hset
      · exact absurd (hset.symm.trans hnew) (by decide)
    · rcases lock_concat _ h with h | ⟨-, rfl⟩
      · exact hx.authenticated h hauthenticated
      · cases hauthenticated
  · have hkept := hx.handle (P := P) hlock event
    rw [hhandle] at hkept
    refine ⟨fun {uuid m} hmem => ?_, fun {m session'} h hup hset => ?_,
      fun {m session'} h hauthenticated => ?_⟩
    · obtain ⟨hget, -⟩ := lock_eq_some.mp (lock_setSession hlock c weakSessions)
      rcases hkept.entries _ hmem with hold | hnew
      · obtain ⟨session', hsession', huuid, hne⟩ := hx.entries hold
        rcases eq_or_ne n m with rfl | hnm
        · obtain rfl := Option.some.inj (hsession'.symm.trans (lock_eq_some.mp hlock).1)
          refine ⟨_, hget, ?_, hne⟩
          exact (hkept.connectionUuid (bne_iff_ne.mpr (huuid ▸ hne))).trans huuid
        · exact ⟨session', (List.getElem?_set_ne hnm).trans hsession', huuid, hne⟩
      · obtain ⟨heq, hne⟩ := hnew
        obtain ⟨rfl, rfl⟩ := Prod.mk.inj heq
        exact ⟨_, hget, rfl, hne⟩
    · rcases eq_or_ne n m with rfl | hnm
      · obtain rfl := Option.some.inj ((lock_setSession hlock c weakSessions).symm.trans h)
        exact hkept.registered hup hset
      · rw [lock_setSession_of_ne hnm] at h
        exact hkept.live _ (hx.registered h hup hset) (expired_eq_false h)
    · rcases eq_or_ne n m with rfl | hnm
      · obtain rfl := Option.some.inj ((lock_setSession hlock c weakSessions).symm.trans h)
        exact hkept.authenticated hauthenticated
      · rw [lock_setSession_of_ne hnm] at h
        exact hx.authenticated h hauthenticated
  · refine ⟨fun {uuid n} hmem => ?_, fun h hup hset => hx.registered (lock_expire h).2 hup hset,
      fun h hauthenticated => hx.authenticated (lock_expire h).2 hauthenticated⟩
    obtain ⟨session, hsession, huuid, hne⟩ := hx.entries hmem
    refine ⟨if m = n then { session with expired := true } else session, ?_, ?_, hne⟩
    · rw [List.getElem?_modify, hsession]
      split <;> rfl
    · split <;> exact huuid
  · refine ⟨fun hmem => absurd hmem List.not_mem_nil, fun {n session} h hup hset => ?_,
      fun {n session} h hauthenticated => ?_⟩
    · obtain ⟨session₀, hlock, rfl⟩ := lock_clear h
      rcases x.clearSession_cases errCode errMsg n session₀ with ⟨hsame, hfree⟩ | hdown
      · rw [hsame] at hup hset
        exact absurd rfl (hfree (lock_eq_some.mp hlock).2 _ (hx.registered hlock hup hset))
      · rw [hdown] at hup
        exact absurd (hup.symm.trans (InterserverConnection.hasBeenShutdown_shutdown ..))
          (by decide)
    · obtain ⟨session₀, hlock, rfl⟩ := lock_clear h
      rcases x.clearSession_cases errCode errMsg n session₀ with ⟨hsame, -⟩ | hdown
      · rw [hsame] at hauthenticated ⊢
        exact hx.authenticated hlock hauthenticated
      · rw [hdown] at hauthenticated ⊢
        have hset := hx.authenticated hlock hauthenticated
        exact hset

theorem registered_new (applicationKey : Bytes) :
    (new applicationKey : InterserverAcceptor Φ).Registered where
  entries h := absurd h List.not_mem_nil
  registered h := absurd h (by simp [lock, new])
  authenticated h := absurd h (by simp [lock, new])

theorem Registered.of_run {applicationKey : Bytes} {ls : List AcceptorLabel}
    (hrun : Lts.Run (Step P) (new applicationKey) ls y) : y.Registered :=
  hrun.invariant (I := Registered) (fun hx hstep => hx.step hstep) (registered_new applicationKey)

/-! ## Looking a session up -/

/-- **`get_session` returns the session registered**; its assertion holds. -/
theorem Registered.getSession (hx : x.Registered) (connectionUuid : Uuid) :
    ∃ found, x.getSession connectionUuid = .ok found ∧
      ∀ n, found = some n ↔ (connectionUuid, n) ∈ x.weakSessions.entries ∧ x.expired n = false := by
  rw [InterserverAcceptor.getSession]
  cases hfind : x.weakSessions.find? connectionUuid with
  | none =>
    refine ⟨none, rfl, fun n => iff_of_false (by simp) fun h => ?_⟩
    exact absurd (hfind.symm.trans (FlatMap.find?_eq_some_iff.mpr h.1)) (by simp)
  | some m =>
    have hmem := FlatMap.find?_eq_some_iff.mp hfind
    cases hlock : x.lock m with
    | none =>
      refine ⟨none, by simp only [hlock], fun n => iff_of_false (by simp) fun h => ?_⟩
      have hlive := h.2
      rw [FlatMap.eq_of_mem h.1 hmem, expired, hlock] at hlive
      cases hlive
    | some session =>
      obtain ⟨session', hsession, huuid, hne⟩ := hx.entries hmem
      obtain rfl := Option.some.inj (hsession.symm.trans (lock_eq_some.mp hlock).1)
      have hset : session'.connection.isConnectionUuidSet = true := bne_iff_ne.mpr (huuid ▸ hne)
      have hget : session'.connection.getConnectionUuid = .ok connectionUuid := by
        rw [InterserverConnection.getConnectionUuid, if_pos hset, huuid]
      refine ⟨some m, by simp only [hlock, hget, if_true], fun n => ⟨?_, fun h => ?_⟩⟩
      · rintro h
        obtain rfl := Option.some.inj h
        exact ⟨hmem, expired_eq_false hlock⟩
      · rw [FlatMap.eq_of_mem h.1 hmem]

theorem Registered.getSession_eq_iff (hx : x.Registered) {connectionUuid : Uuid} :
    x.getSession connectionUuid = .ok (some n) ↔
      (connectionUuid, n) ∈ x.weakSessions.entries ∧ x.expired n = false := by
  obtain ⟨found, hfound, hiff⟩ := hx.getSession connectionUuid
  rw [hfound, ← hiff]
  exact ⟨fun h => Except.ok.inj h, fun h => congrArg _ h⟩

/-- The step neither clears the acceptor nor is the end of the session `n`. -/
def AcceptorEvent.Spares (n : SessionId) : AcceptorEvent → Prop
  | .clear .. => False
  | .expire m => m ≠ n
  | .onClientConnect | .session .. => True

/-- **A registration stays** until its session expires or the acceptor is cleared. -/
theorem Registered.getSession_step {l : AcceptorLabel} {connectionUuid : Uuid} (hx : x.Registered)
    (hstep : Step P x l y) (hspares : AcceptorEvent.Spares n l.event)
    (h : x.getSession connectionUuid = .ok (some n)) :
    y.getSession connectionUuid = .ok (some n) := by
  rw [(hx.step hstep).getSession_eq_iff]
  obtain ⟨hmem, hlive⟩ := hx.getSession_eq_iff.mp h
  obtain ⟨session, hlock⟩ : ∃ session, x.lock n = some session := by
    rw [expired] at hlive
    exact Option.isSome_iff_exists.mp (by simpa using hlive)
  rcases hstep.moved with _ | ⟨m, event, session', hlock', -, effects, c, weakSessions, hhandle⟩ |
    m | ⟨errCode, errMsg⟩
  · exact ⟨hmem, expired_eq_false (lock_concat_of_some _ hlock)⟩
  · have hkept := hx.handle (P := P) hlock' event
    rw [hhandle] at hkept
    refine ⟨hkept.live _ hmem hlive, ?_⟩
    rcases eq_or_ne m n with rfl | hmn
    · exact expired_eq_false (lock_setSession hlock' c weakSessions)
    · exact expired_eq_false ((lock_setSession_of_ne hmn c weakSessions).trans hlock)
  · exact ⟨hmem, expired_eq_false (lock_expire_of_ne hspares hlock)⟩
  · exact hspares.elim

/-! ## A second hello of a UUID -/

/-- The step hands the session `m` a `Client_hello` of a UUID, whatever its checksum. -/
def HandsHello (P : Platform Φ) (x : InterserverAcceptor Φ) (m : SessionId) (connectionUuid : Uuid)
    (event : AcceptorEvent) : Prop :=
  ∃ e session encodedPayload msg rest, event = .session m e ∧ x.lock m = some session ∧
    session.connection.handledFrame e = some (ClientHello.id, encodedPayload) ∧
      P.clientHello.deserialize encodedPayload = .ok (msg, rest) ∧
        msg.connectionUuid = connectionUuid

/-- The session `m` is shut down, authenticated or not. -/
def ShutDown (x : InterserverAcceptor Φ) (m : SessionId) (authenticated : Bool) : Prop :=
  ∃ session, x.sessions[m]? = some session ∧ session.connection.hasBeenShutdown = true ∧
    session.connection.authenticated = authenticated

theorem Registered.refuses {l : AcceptorLabel} {connectionUuid : Uuid} (hx : x.Registered)
    (hfound : x.getSession connectionUuid = .ok (some n)) (hlock : x.lock m = some session)
    (hhands : HandsHello P x m connectionUuid l.event) (hstep : Step P x l y) :
    y.ShutDown m session.connection.authenticated := by
  obtain ⟨e, session₀, encodedPayload, msg, rest, hevent, hlock₀, hframe, hread, rfl⟩ := hhands
  obtain rfl := Option.some.inj (hlock.symm.trans hlock₀)
  obtain ⟨hmem, hlive⟩ := hx.getSession_eq_iff.mp hfound
  rcases hstep.moved with
    _ | ⟨m', e', session', hlock', -, effects, c, weakSessions, hhandle⟩ | _ | _
  all_goals cases hevent
  obtain rfl := Option.some.inj (hlock.symm.trans hlock')
  refine ⟨⟨c, false⟩, (lock_eq_some.mp (lock_setSession hlock c weakSessions)).1, ?_⟩
  have hgreeted := InterserverConnection.greeted_handle P (x.layer7PostSetConnectionUuid m)
    session.connection e x.weakSessions
  rw [hhandle] at hgreeted
  dsimp only at hgreeted ⊢
  rcases hgreeted with ⟨hstanding, hrefused⟩ |
    ⟨encodedPayload', msg', hframe', hverifies, hunset, authenticated, hstanding, houtcome⟩ |
    ⟨encodedPayload', msg', hframe', hverifies, hset, authenticated, hstanding, houtcome⟩
  · have hhello : isUser ClientHello.id = false := by decide
    exact ⟨hrefused _ hframe hhello, congrArg Standing.authenticated hstanding⟩
  · obtain ⟨-, rfl⟩ := Prod.mk.inj (Option.some.inj (hframe.symm.trans hframe'))
    obtain ⟨rest', hread'⟩ := hverifies.reads
    obtain ⟨rfl, -⟩ := Prod.mk.inj (Except.ok.inj (hread.symm.trans hread'))
    rcases houtcome with ⟨-, -, hposted⟩ | ⟨hsame, hdown⟩
    · exact absurd hposted (post_ne_ok_of_mem hmem hlive)
    · exact ⟨hdown, (congrArg Standing.authenticated hstanding).trans hsame⟩
  · have hid := (Prod.mk.inj (Option.some.inj (hframe.symm.trans hframe'))).1
    exact absurd hid (by decide)

/-- A session that is shut down stays what it is. -/
theorem ShutDown.step {l : AcceptorLabel} {authenticated : Bool} (h : x.ShutDown m authenticated)
    (hstep : Step P x l y) : y.ShutDown m authenticated := by
  obtain ⟨session, hsession, hdown, hauthenticated⟩ := h
  rcases hstep.moved with _ | ⟨n, event, session', hlock, -, effects, c, weakSessions, hhandle⟩ |
    n | ⟨errCode, errMsg⟩
  · obtain ⟨hlt, -⟩ := List.getElem?_eq_some_iff.mp hsession
    exact ⟨session, (List.getElem?_append_left hlt).trans hsession, hdown, hauthenticated⟩
  · rcases eq_or_ne n m with rfl | hnm
    · obtain rfl := Option.some.inj (hsession.symm.trans (lock_eq_some.mp hlock).1)
      refine ⟨_, (lock_eq_some.mp (lock_setSession hlock c weakSessions)).1, ?_⟩
      have hdown' := InterserverConnection.hasBeenShutdown_handle P
        (x.layer7PostSetConnectionUuid n) hdown event x.weakSessions
      have hstanding := InterserverConnection.standing_handle P (x.layer7PostSetConnectionUuid n)
        (InterserverConnection.handledFrame_of_hasBeenShutdown hdown event) x.weakSessions
      rw [hhandle] at hdown' hstanding
      exact ⟨hdown', (congrArg Standing.authenticated hstanding).trans hauthenticated⟩
    · exact ⟨session, (List.getElem?_set_ne hnm).trans hsession, hdown, hauthenticated⟩
  · refine ⟨if n = m then { session with expired := true } else session, ?_, ?_⟩
    · rw [List.getElem?_modify, hsession]
      split <;> rfl
    · split <;> exact ⟨hdown, hauthenticated⟩
  · refine ⟨x.clearSession errCode errMsg m session, ?_, ?_⟩
    · refine (List.getElem?_mapIdx ..).trans ?_
      rw [hsession]
      rfl
    · rcases x.clearSession_cases errCode errMsg m session with ⟨hsame, -⟩ | hcleared
      · rw [hsame]
        exact ⟨hdown, hauthenticated⟩
      · rw [hcleared]
        exact ⟨InterserverConnection.hasBeenShutdown_shutdown .., hauthenticated⟩

/-- **The table identifies the sessions.**  In every run of an acceptor: no two of its sessions that
are authenticated and not shut down have one UUID; `get_session` never fails, and what it finds has
the UUID it was asked for; and it finds it until that session expires or the acceptor is cleared,
while a session that is handed a hello of the same UUID is shut down and never authenticated by
it. -/
theorem sessions_identified {applicationKey : Bytes} {ls : List AcceptorLabel}
    (hrun : Lts.Run (Step P) (new applicationKey) ls y) :
    (∀ m n session session', y.lock m = some session → y.lock n = some session' →
        session.connection.authenticated = true → session.connection.hasBeenShutdown = false →
        session'.connection.authenticated = true → session'.connection.hasBeenShutdown = false →
          session.connection.connectionUuid = session'.connection.connectionUuid → m = n) ∧
      (∀ connectionUuid, ∃ found, y.getSession connectionUuid = .ok found ∧
        ∀ n, found = some n → ∃ session, y.lock n = some session ∧
          session.connection.connectionUuid = connectionUuid) ∧
      ∀ connectionUuid n, y.getSession connectionUuid = .ok (some n) →
        (∀ ms z, Lts.Run (Step P) y ms z → (∀ l ∈ ms, AcceptorEvent.Spares n l.event) →
            z.getSession connectionUuid = .ok (some n)) ∧
          ∀ m session l z, y.lock m = some session → HandsHello P y m connectionUuid l.event →
            Step P y l z → ∀ ms t, Lts.Run (Step P) z ms t →
              t.ShutDown m session.connection.authenticated := by
  have hy : y.Registered := .of_run hrun
  refine ⟨?_, fun connectionUuid => ?_, fun connectionUuid n hfound =>
    ⟨fun ms z hms hspares => ?_, ?_⟩⟩
  · intro m n session session' hm hn hauth hup hauth' hup' huuid
    have hmem := hy.registered hm hup (hy.authenticated hm hauth)
    rw [huuid] at hmem
    exact FlatMap.eq_of_mem hmem (hy.registered hn hup' (hy.authenticated hn hauth'))
  · obtain ⟨found, hfound, hiff⟩ := hy.getSession connectionUuid
    refine ⟨found, hfound, fun n hn => ?_⟩
    obtain ⟨hmem, hlive⟩ := (hiff n).mp hn
    obtain ⟨session, hsession, huuid, -⟩ := hy.entries hmem
    obtain ⟨session', hlock⟩ : ∃ session', y.lock n = some session' := by
      rw [expired] at hlive
      exact Option.isSome_iff_exists.mp (by simpa using hlive)
    obtain rfl := Option.some.inj (hsession.symm.trans (lock_eq_some.mp hlock).1)
    exact ⟨session, hlock, huuid⟩
  · induction hms with
    | nil => exact hfound
    | @snoc t u ms l hpre hlast ih =>
      refine (Registered.of_run (hrun.append hpre)).getSession_step hlast
        (hspares l (by simp)) (ih fun l' hl' => hspares l' (by simp [hl']))
  · intro m session l z hlock hhands hstep ms t hms
    exact hms.invariant (I := fun x => x.ShutDown m session.connection.authenticated)
      (fun h hstep => h.step hstep) (hy.refuses hfound hlock hhands hstep)

end InterserverAcceptor

/-! ## Two sessions with one hello -/

def trialHello : Bytes :=
  clientHelloFormat.serialize ⟨trialUuid, trialTimestamp,
    trialPlatform.calculateChecksum trialKey saltClientHello trialUuid trialTimestamp, []⟩

def trialSessions : List AcceptorEvent :=
  [.onClientConnect, .onClientConnect, .session 0 (.receiveData ClientHello.id trialHello),
    .session 0 .work, .session 1 (.receiveData ClientHello.id trialHello), .session 1 .work]

theorem InterserverAcceptor.sessions_identified_trial : ∃ y,
    Lts.Run (Step trialPlatform) (new trialKey)
        (Lts.trace (next trialPlatform) (new trialKey) trialSessions) y ∧
      y.getSession trialUuid = .ok (some 0) ∧ y.ShutDown 1 false ∧
        ∀ ms z, Lts.Run (Step trialPlatform) y ms z → (∀ l ∈ ms, AcceptorEvent.Spares 0 l.event) →
          z.getSession trialUuid = .ok (some 0) := by
  have hrun : Lts.Run (Step trialPlatform) (new trialKey) _ _ :=
    Lts.Run.of_admits (next trialPlatform) (fun x event => x.Enabled event)
      step_next (new trialKey) trialSessions (by decide +kernel)
  have hfound : (Lts.final (next trialPlatform) (new trialKey) trialSessions).getSession trialUuid
      = .ok (some 0) := by decide +kernel
  refine ⟨_, hrun, hfound, ?_, ((sessions_identified hrun).2.2 trialUuid 0 hfound).1⟩
  exact ⟨_, rfl, by decide +kernel, by decide +kernel⟩

end Circe.Common
