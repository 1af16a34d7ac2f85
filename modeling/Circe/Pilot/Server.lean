import Circe.Foundations.Run
import Circe.Pilot.CompassRepository
import Circe.Pilot.Servlets

/-!
# Pilot/Server — a pilot server as a transition system

Connections come, are shut down and die; their requests run one after the other, and a garbage
collector ticks in between.  A label carries the event, the reply and the notifications sent.  A
request that throws gets its connection shut down.

`Server.compass k` is the compass a request on `k` would find.  Every step is described by what it
does to these: a request by `Handled` on its own key, a tick by forgetting the compasses it collects
(`Step.compass`).
-/

namespace Circe.Pilot

open Protocol.Pilot

/-! ## The state -/

/-- A pilot server: its repository, the connection objects that exist, those shut down, all there
ever were, and the UTC clock. -/
structure Server where
  repository : CompassRepository
  live : List Connection
  down : List Connection
  seen : List Connection
  utcNow : ℕ

namespace Server

def alive (s : Server) : Alive := fun c => c ∈ s.live

def shut (s : Server) : Alive := fun c => c ∈ s.down

@[simp] theorem alive_iff {s : Server} {c : Connection} : s.alive c = true ↔ c ∈ s.live := by
  simp [alive]

/-- The compass a request on `k` works on. -/
def compass (s : Server) (k : CompassKey) : Compass := s.repository.compass k

/-- Who is alive at each look of a request, `deaths` being those who die before each. -/
def aliveDuring (s : Server) (deaths : List (List Connection)) : Liveness :=
  fun i c => c ∈ s.live ∧ c ∉ (deaths.take (i + 1)).flatten

end Server

/-! ## Events -/

inductive Event
  | connect (connection : Connection)
  | shutdown (connection : Connection)
  | die (connection : Connection)
  | compareExchange (connection : Connection) (req : CompareExchangeRequest) (utcNow : ℕ)
      (deaths : List (List Connection))
  | exchange (connection : Connection) (req : ExchangeRequest) (utcNow : ℕ)
      (deaths : List (List Connection))
  | addWatch (connection : Connection) (req : AddWatchRequest) (watcherUuid : Uuid)
  | removeWatch (connection : Connection) (ntfy : RemoveWatchNotification)
  | gcTimer (utcNow expiryDuration : ℕ)

inductive Reply
  | none
  | compareExchange (result : Except Exception CompareExchangeResponse)
  | exchange (result : Except Exception ExchangeResponse)
  | addWatch (result : Except Exception AddWatchResponse)

structure Label where
  event : Event
  reply : Reply
  sent : List Sent

namespace Server

/-- What may happen next.  The clock does not go back, and a request keeps its own connection
alive. -/
def Enabled (s : Server) : Event → Prop
  | .connect c => c ∉ s.seen ∧ c.connectionUuid ≠ 0
  | .shutdown c => c ∈ s.live
  | .die c => c ∈ s.live
  | .compareExchange c _ utcNow deaths => c ∈ s.live ∧ c ∉ deaths.flatten ∧ s.utcNow ≤ utcNow
  | .exchange c _ utcNow deaths => c ∈ s.live ∧ c ∉ deaths.flatten ∧ s.utcNow ≤ utcNow
  | .addWatch c _ _ => c ∈ s.live
  | .removeWatch c _ => c ∈ s.live
  | .gcTimer utcNow _ => s.utcNow ≤ utcNow

instance (s : Server) : DecidablePred s.Enabled
  | .connect _ => inferInstanceAs (Decidable (_ ∧ _))
  | .shutdown _ | .die _ | .addWatch .. | .removeWatch .. => inferInstanceAs (Decidable (_ ∈ _))
  | .compareExchange .. | .exchange .. => inferInstanceAs (Decidable (_ ∧ _ ∧ _))
  | .gcTimer .. => inferInstanceAs (Decidable (_ ≤ _))

/-- Live connections keep distinct UUIDs.  It is the acceptor that sees to this: it refuses a
session whose UUID a live session has. -/
def KeepsDistinct (s : Server) : Event → Prop
  | .connect c => ∀ d ∈ s.live, d.connectionUuid ≠ c.connectionUuid
  | _ => True

instance (s : Server) : DecidablePred s.KeepsDistinct
  | .connect c => inferInstanceAs (Decidable (∀ d ∈ s.live, d.connectionUuid ≠ c.connectionUuid))
  | .shutdown _ | .die _ | .compareExchange .. | .exchange .. | .addWatch .. | .removeWatch ..
  | .gcTimer .. => inferInstanceAs (Decidable True)

/-- The frame of every servlet: open the compass of `compassKey` and do `f` to it.  Where `touchAt`
is given, a servlet that does not throw ends with `update_last_access_time`. -/
def runServlet {α : Type} (compassKey : CompassKey) (touchAt : Option ℕ) (f : Compass → Outcome α)
    (r : CompassRepository) : Except Exception α × List Sent × CompassRepository :=
  let (compass, r) := r.openCompass compassKey
  let o := f compass.object
  let r := r.store ⟨compass.get, o.compass⟩
  match o.result, touchAt with
  | .ok a, some utcNow => (.ok a, o.sent, r.updateLastAccessTime utcNow ⟨compass.get, o.compass⟩)
  | result, _ => (result, o.sent, r)

/-- The servlet of `Add_watch_request`. -/
def addWatchServlet (alive : Alive) (connection : Connection) (watcherUuid : Uuid) (p : Compass) :
    Outcome AddWatchResponse :=
  let (added, watcherMap) := p.watcherMap.addWatcher alive watcherUuid connection
  match added with
  | some watcherUuid => ⟨.ok ⟨watcherUuid⟩, { p with watcherMap := watcherMap }, []⟩
  | none => ⟨.error (.assertion "pair.second"), { p with watcherMap := watcherMap }, []⟩

/-- The servlet of `Remove_watch_notification`. -/
def removeWatchServlet (watcherUuid : Uuid) (p : Compass) : Outcome Unit :=
  ⟨.ok (), { p with watcherMap := (p.watcherMap.removeWatcher watcherUuid).2 }, []⟩

/-- Shut the connection of a request down if the request threw. -/
def shutdownIfThrown {α : Type} (c : Connection) (result : Except Exception α)
    (down : List Connection) : List Connection :=
  match result with
  | .ok _ => down
  | .error _ => c :: down

/-- **What happens**, for each event. -/
def perform (sha256 : Bytes → Sha256) (s : Server) (e : Event) : Label × Server :=
  match e with
  | .connect c => (⟨e, .none, []⟩, { s with live := c :: s.live, seen := c :: s.seen })
  | .shutdown c => (⟨e, .none, []⟩, { s with down := c :: s.down })
  | .die c => (⟨e, .none, []⟩, { s with live := s.live.filter fun d => d ≠ c })
  | .compareExchange c req utcNow deaths =>
    let (result, sent, repository) := runServlet (.fromHashOf sha256 req.key) (some utcNow)
      (compareExchangeServlet (s.aliveDuring deaths) s.shut c req) s.repository
    (⟨e, .compareExchange result, sent⟩,
      { s with
        repository := repository
        live := s.live.filter fun d => d ∉ deaths.flatten
        down := shutdownIfThrown c result s.down
        utcNow := utcNow })
  | .exchange c req utcNow deaths =>
    let (result, sent, repository) := runServlet (.fromHashOf sha256 req.key) (some utcNow)
      (exchangeServlet (s.aliveDuring deaths) s.shut c req) s.repository
    (⟨e, .exchange result, sent⟩,
      { s with
        repository := repository
        live := s.live.filter fun d => d ∉ deaths.flatten
        down := shutdownIfThrown c result s.down
        utcNow := utcNow })
  | .addWatch c req watcherUuid =>
    let (result, sent, repository) := runServlet (.fromHashOf sha256 req.key) none
      (addWatchServlet s.alive c watcherUuid) s.repository
    (⟨e, .addWatch result, sent⟩,
      { s with repository := repository, down := shutdownIfThrown c result s.down })
  | .removeWatch _ ntfy =>
    let (_, sent, repository) := runServlet (.fromHashOf sha256 ntfy.key) none
      (removeWatchServlet ntfy.watcherUuid) s.repository
    (⟨e, .none, sent⟩, { s with repository := repository })
  | .gcTimer utcNow expiryDuration =>
    (⟨e, .none, []⟩,
      { s with
        repository := s.repository.gcTimerProc utcNow expiryDuration
        utcNow := utcNow })

end Server

/-- An event that may happen is performed. -/
def Server.Performs (sha256 : Bytes → Sha256) (s : Server) (l : Label) (t : Server) : Prop :=
  s.Enabled l.event ∧ s.perform sha256 l.event = (l, t)

/-- One step of a pilot server whose live connections keep distinct UUIDs. -/
abbrev Step (sha256 : Bytes → Sha256) : Server → Label → Server → Prop :=
  Lts.Guarded (Server.Performs sha256) fun s l => s.KeepsDistinct l.event

/-! ### Runs that can be computed -/

theorem Server.event_perform (sha256 : Bytes → Sha256) (s : Server) (e : Event) :
    (s.perform sha256 e).1.event = e := by
  cases e <;> rfl

/-- An event that makes a step. -/
def Server.Admits (s : Server) (e : Event) : Prop := s.KeepsDistinct e ∧ s.Enabled e

instance (s : Server) : DecidablePred s.Admits := fun _ => inferInstanceAs (Decidable (_ ∧ _))

theorem Server.step_perform {sha256 : Bytes → Sha256} {s : Server} {e : Event}
    (h : s.Admits e) : Step sha256 s (s.perform sha256 e).1 (s.perform sha256 e).2 := by
  have hevent := s.event_perform sha256 e
  have hdistinct : s.KeepsDistinct (s.perform sha256 e).1.event := by rw [hevent]; exact h.1
  exact ⟨hdistinct, by rw [hevent]; exact h.2, by rw [hevent]⟩

theorem Server.guarded_perform {sha256 : Bytes → Sha256} {G : Server → Event → Prop} {s : Server}
    {e : Event} (hG : G s e) (h : s.Admits e) :
    Lts.Guarded (Step sha256) (fun s l => G s l.event) s (s.perform sha256 e).1
      (s.perform sha256 e).2 := by
  have hguard : G s (s.perform sha256 e).1.event := by rwa [s.event_perform sha256 e]
  exact ⟨hguard, step_perform h⟩

/-- The server after a list of events. -/
def Server.after (sha256 : Bytes → Sha256) (s : Server) : List Event → Server
  | [] => s
  | e :: es => ((s.perform sha256 e).2).after sha256 es

/-- The labels of a list of events. -/
def Server.labels (sha256 : Bytes → Sha256) (s : Server) : List Event → List Label
  | [] => []
  | e :: es => (s.perform sha256 e).1 :: ((s.perform sha256 e).2).labels sha256 es

/-- Each event of the list meets `G` and makes a step when its turn comes. -/
def Server.AllEnabled (sha256 : Bytes → Sha256) (G : Server → Event → Prop) (s : Server) :
    List Event → Prop
  | [] => True
  | e :: es => (G s e ∧ s.Admits e) ∧ ((s.perform sha256 e).2).AllEnabled sha256 G es

instance instDecidableAllEnabled (sha256 : Bytes → Sha256) (G : Server → Event → Prop)
    [∀ s, DecidablePred (G s)] :
    (s : Server) → DecidablePred (s.AllEnabled sha256 G)
  | _, [] => inferInstanceAs (Decidable True)
  | s, e :: es =>
    have := instDecidableAllEnabled sha256 G (s.perform sha256 e).2 es
    inferInstanceAs (Decidable ((G s e ∧ s.Admits e) ∧ _))

theorem Server.labels_append (sha256 : Bytes → Sha256) (s : Server) (es₁ es₂ : List Event) :
    s.labels sha256 (es₁ ++ es₂)
      = s.labels sha256 es₁ ++ (s.after sha256 es₁).labels sha256 es₂ := by
  induction es₁ generalizing s with
  | nil => rfl
  | cons e es ih => exact congrArg _ (ih _)

/-- **Enabled events make a run**, with any one of them picked out. -/
theorem Server.run_labels (sha256 : Bytes → Sha256) (G : Server → Event → Prop) (s : Server)
    (es₁ : List Event) (e : Event) (es₂ : List Event)
    (h : s.AllEnabled sha256 G (es₁ ++ e :: es₂)) :
    Lts.Run (Lts.Guarded (Step sha256) fun s l => G s l.event) s
      (s.labels sha256 es₁ ++ ((s.after sha256 es₁).perform sha256 e).1 ::
        ((s.after sha256 es₁).perform sha256 e).2.labels sha256 es₂)
      (s.after sha256 (es₁ ++ e :: es₂)) := by
  have hall : ∀ (es : List Event) {s : Server}, s.AllEnabled sha256 G es →
      Lts.Run (Lts.Guarded (Step sha256) fun s l => G s l.event) s (s.labels sha256 es)
        (s.after sha256 es) := by
    intro es
    induction es with
    | nil => exact fun {s} _ => .nil s
    | cons e es ih =>
      rintro s ⟨⟨hG, hen⟩, hrest⟩
      exact .cons (guarded_perform hG hen) (ih hrest)
  have hrun := hall _ h
  rwa [labels_append] at hrun

/-- A server just started: compasses from the database, nobody connected. -/
structure Server.Started (s : Server) : Prop where
  repository : s.repository.Inv
  loaded : ∀ k q, s.repository.getCompass k = some q →
    ∃ dao, q.object = .ofDao k dao
  live : s.live = []
  down : s.down = []
  seen : s.seen = []

/-! ### A server to try things on -/

/-- A hash that is SHA-256 on the empty string. -/
def emptySha256 : Bytes → Sha256 := fun _ =>
  #v[0xE3, 0xB0, 0xC4, 0x42, 0x98, 0xFC, 0x1C, 0x14, 0x9A, 0xFB, 0xF4, 0xC8, 0x99, 0x6F, 0xB9, 0x24,
    0x27, 0xAE, 0x41, 0xE4, 0x64, 0x9B, 0x93, 0x4C, 0xA4, 0x95, 0x99, 0x1B, 0x78, 0x52, 0xB8, 0x55]

def emptyServer : Server := ⟨⟨[], 0⟩, [], [], [], 0⟩

theorem emptyServer_started : emptyServer.Started :=
  ⟨⟨by simp [emptyServer], by simp [emptyServer], by simp [emptyServer], by simp [emptyServer]⟩,
    by simp [emptyServer, CompassRepository.getCompass], rfl, rfl, rfl⟩

/-! ## What a label says -/

/-- The compass an event is a request on. -/
def Event.compassKey (sha256 : Bytes → Sha256) : Event → Option CompassKey
  | .compareExchange _ req _ _ => some (.fromHashOf sha256 req.key)
  | .exchange _ req _ _ => some (.fromHashOf sha256 req.key)
  | .addWatch _ req _ => some (.fromHashOf sha256 req.key)
  | .removeWatch _ ntfy => some (.fromHashOf sha256 ntfy.key)
  | _ => none

/-- An answered request that may lock or write. -/
structure Access where
  connection : Connection
  compassKey : CompassKey
  lockDisposition : ℕ
  succeeded : Bool
  written : Option Bytes
  reported : Option (Bytes × UInt64)

/-- The locks an access took or released, as the reply tells. -/
def Access.grant (a : Access) : ℤ × ℤ :=
  match a.succeeded, lockDispositionCounts a.lockDisposition with
  | true, .ok counts => counts
  | _, _ => (0, 0)

/-- **A label as an access**: whose, to which compass, and what the reply says came of it. -/
def Label.access (sha256 : Bytes → Sha256) (l : Label) : Option Access :=
  match l.event, l.reply with
  | .compareExchange c req _ _, .compareExchange (.ok resp) =>
    some
      { connection := c
        compassKey := .fromHashOf sha256 req.key
        lockDisposition := req.lockDisposition.toNat
        succeeded := resp.succeeded
        written := if resp.succeeded then
            req.criteria[resp.criterionIndex]?.map Criterion.valueNew else none
        reported := some (resp.valueOld, resp.versionOld) }
  | .compareExchange c req _ _, .compareExchange (.error _) =>
    some ⟨c, .fromHashOf sha256 req.key, req.lockDisposition.toNat, false, none, none⟩
  | .exchange c req _ _, .exchange (.ok resp) =>
    some
      { connection := c
        compassKey := .fromHashOf sha256 req.key
        lockDisposition := req.lockDisposition.toNat
        succeeded := resp.succeeded
        written := if resp.succeeded then some req.valueNew else none
        reported := some (resp.valueOld, resp.versionOld) }
  | .exchange c req _ _, .exchange (.error _) =>
    some ⟨c, .fromHashOf sha256 req.key, req.lockDisposition.toNat, false, none, none⟩
  | _, _ => none

/-- The value a request on `k` changed it to. -/
def Label.written (sha256 : Bytes → Sha256) (l : Label) (k : CompassKey) : Option Bytes :=
  (l.access sha256).bind fun a => if a.compassKey = k then a.written else none

/-- The value and the version of `k` that a response reports. -/
def Label.reported (sha256 : Bytes → Sha256) (l : Label) (k : CompassKey) :
    Option (Bytes × UInt64) :=
  (l.access sha256).bind fun a => if a.compassKey = k then a.reported else none

theorem Label.compassKey_of_access {sha256 : Bytes → Sha256} {l : Label} {a : Access}
    (h : l.access sha256 = some a) : l.event.compassKey sha256 = some a.compassKey := by
  unfold Label.access at h
  split at h
  case h_5 => exact absurd h (by simp)
  all_goals
    rename_i hevent _
    rw [hevent, ← Option.some.inj h]
    rfl

end Circe.Pilot
