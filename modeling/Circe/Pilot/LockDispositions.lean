import Circe.Pilot.ServerSteps
import Mathlib.Algebra.Group.Prod

/-!
# Pilot/LockDispositions — what is left of the locks a request takes

A request names a lock disposition, and takes a lock of its own while it works.  The two are added
up and committed together: when the request is answered, the caller has one lock more or less, of
the kind it named, or as many as before (`NetEffect`).
-/

namespace Circe.Pilot

open Protocol.Pilot

/-! ## Rejections -/

/-- Why `parse_lock_disposition` throws. -/
inductive Rejected (lock : CompassLock) (c : Connection) (lockDisposition : UInt64) :
    Exception → Prop
  | badNumericCast (h : 2 ^ 32 ≤ lockDisposition.toNat) : Rejected lock c lockDisposition
      .badNumericCast
  | unknown (h : lockDisposition.toNat ∉ [lockLeaveAlone, lockTryAcquireShared,
      lockTryAcquireExclusive, lockReleaseShared, lockReleaseExclusive]) :
      Rejected lock c lockDisposition (.exception "Unknown lock_disposition")
  | notShared (h : lockDisposition.toNat = lockReleaseShared) (hnone : lock.shared c = 0) :
      Rejected lock c lockDisposition
        (.assertion "compass->is_locked_shared_by(connection->get_connection_uuid())")
  | notExclusive (h : lockDisposition.toNat = lockReleaseExclusive) (hnone : lock.exclusive c = 0) :
      Rejected lock c lockDisposition
        (.assertion "compass->is_locked_exclusive_by(connection->get_connection_uuid())")

/-- What `commit_lock_disposition` asserts. -/
def commitAssertions : List String :=
  ["compass->try_lock_exclusive(connection)", "compass->try_lock_shared(connection)",
    "compass->release_lock_exclusive(connection)", "compass->release_lock_shared(connection)"]

section Rejections

variable {alive : Liveness} {c : Connection} {l : CompassLock}

theorem lockDispositionCounts_error {n : ℕ} {e : Exception}
    (h : lockDispositionCounts n = .error e) :
    e = .exception "Unknown lock_disposition" ∧ n ∉ [lockLeaveAlone, lockTryAcquireShared,
      lockTryAcquireExclusive, lockReleaseShared, lockReleaseExclusive] := by
  unfold lockDispositionCounts at h
  repeat' split at h
  all_goals cases h
  exact ⟨rfl, by simp_all⟩

theorem rejected_of_parse (hok : alive.Ok c) (hinv : l.Inv (alive 0)) {n : UInt64} {e : Exception}
    (h : (parseLockDisposition alive c n l).1 = .error e) : Rejected l c n e := by
  unfold parseLockDisposition at h
  split at h
  case isTrue hbig =>
    cases h
    exact .badNumericCast hbig
  case isFalse =>
    split at h
    case h_1 hcounts =>
      cases h
      obtain ⟨rfl, hunknown⟩ := lockDispositionCounts_error hcounts
      exact .unknown hunknown
    case h_2 s x hcounts =>
      have hshared := hinv.readers_contains_iff (hok.distinct_at 0) (hok.self 0)
      have hexclusive := (hinv.anti (hok.anti (Nat.zero_le 1))).writers_contains_iff
        (hok.distinct_at 1) (hok.self 1)
      obtain ⟨hs, hx⟩ := lockDispositionCounts_neg hcounts
      have hone := (lockDispositionCounts_bounds hcounts).2.2.2.2
      by_cases hneg : s < 0
      · have hx0 : ¬ x < 0 := by omega
        simp only [if_pos hneg, if_neg hx0, CompassLock.isLockedSharedBy] at h
        split at h
        case isTrue hheld =>
          cases h
          refine .notShared (hs hneg) (Nat.eq_zero_of_not_pos fun hpos => ?_)
          simp [hshared.mpr hpos] at hheld
        case isFalse => cases h
      · by_cases hxneg : x < 0
        · simp only [if_neg hneg, if_pos hxneg, CompassLock.isLockedExclusiveBy, Bool.not_true,
            Bool.false_eq_true, if_false] at h
          split at h
          case isTrue hheld =>
            cases h
            refine .notExclusive (hx hxneg) (Nat.eq_zero_of_not_pos fun hpos => ?_)
            simp [hexclusive.mpr hpos] at hheld
          case isFalse => cases h
        · simp [if_neg hneg, if_neg hxneg] at h

theorem Rejected.not_commit {n : UInt64} {e : Exception} (h : Rejected l c n e) :
    ∀ expr ∈ commitAssertions, e ≠ .assertion expr := by
  cases h <;> simp [commitAssertions]

end Rejections

/-! ## The net effect -/

/-- A request that names a lock disposition. -/
structure LockRequest where
  connection : Connection
  compassKey : CompassKey
  lockDisposition : UInt64

def Event.lockRequest (sha256 : Bytes → Sha256) : Event → Option LockRequest
  | .compareExchange c req _ _ => some ⟨c, .fromHashOf sha256 req.key, req.lockDisposition⟩
  | .exchange c req _ _ => some ⟨c, .fromHashOf sha256 req.key, req.lockDisposition⟩
  | _ => none

/-- How a request that names a lock disposition ends: with an exception, or with an answer. -/
def Reply.succeeded : Reply → Option (Except Exception Bool)
  | .compareExchange result => some (result.map CompareExchangeResponse.succeeded)
  | .exchange result => some (result.map ExchangeResponse.succeeded)
  | .addWatch _ | .none => Option.none

/-- How many shared and exclusive locks of a compass a connection holds. -/
def Server.lockCounts (s : Server) (k : CompassKey) (c : Connection) : ℤ × ℤ :=
  ((s.compass k).lock.shared c, (s.compass k).lock.exclusive c)

/-- **The net effect of a request.**  No assertion of the commit fails; a success changes the
counts of the caller by what the disposition says; everything else leaves them, the value and the
version; nobody else's counts and no other compass change at all. -/
structure NetEffect (s t : Server) (req : LockRequest) (outcome : Except Exception Bool) :
    Prop where
  asserted : ∀ expr ∈ commitAssertions, outcome ≠ .error (.assertion expr)
  rejected : ∀ e, outcome = .error e →
    Rejected (s.compass req.compassKey).lock req.connection req.lockDisposition e
  succeeded : outcome = .ok true → ∃ counts,
    lockDispositionCounts req.lockDisposition.toNat = .ok counts ∧
      t.lockCounts req.compassKey req.connection
        = s.lockCounts req.compassKey req.connection + counts
  unchanged : outcome ≠ .ok true →
    t.lockCounts req.compassKey req.connection = s.lockCounts req.compassKey req.connection ∧
      (t.compass req.compassKey).getValue = (s.compass req.compassKey).getValue ∧
      (t.compass req.compassKey).getVersion = (s.compass req.compassKey).getVersion
  others : ∀ d, t.alive d → d ≠ req.connection →
    t.lockCounts req.compassKey d = s.lockCounts req.compassKey d
  elsewhere : ∀ k, k ≠ req.compassKey → t.compass k = s.compass k

section Steps

variable {sha256 : Bytes → Sha256} {s t : Server} {l : Label} {req : LockRequest} {c : Connection}
  {k : CompassKey} {shut : Alive} {q : Compass} {sent : List Sent}

/-- What a request does to its compass, counted. -/
theorem Handled.lockCounts {grant : ℤ × ℤ} {written : Option Bytes}
    (hh : Handled t.alive shut c grant written (s.compass k) q sent)
    (htouched : q.Touched (t.compass k)) {d : Connection} (hd : t.alive d) :
    t.lockCounts k d = s.lockCounts k d + if c = d then grant else 0 := by
  have hshared := hh.changed.shared d hd
  have hexclusive := hh.changed.exclusive d hd
  rw [Server.lockCounts, htouched.lock, hshared, hexclusive, Server.lockCounts]
  split <;> rfl

/-- A request that writes nothing leaves value and version. -/
theorem Handled.kept {grant : ℤ × ℤ} (hh : Handled t.alive shut c grant none (s.compass k) q sent)
    (htouched : q.Touched (t.compass k)) :
    (t.compass k).getValue = (s.compass k).getValue ∧
      (t.compass k).getVersion = (s.compass k).getVersion := by
  have hdao : q.dao = (s.compass k).dao := hh.dao
  rw [htouched.getValue, htouched.getVersion]
  exact ⟨by rw [Compass.getValue, hdao, Compass.getValue],
    by rw [Compass.getVersion, hdao, Compass.getVersion]⟩

variable {α : Type} {o : Outcome α} {written : Option Bytes} {deaths : List (List Connection)}
  {n : UInt64}

theorem NetEffect.of_rejected (hinv : s.Inv) (hran : Ran s t l k c deaths o) {e : Exception}
    (hparsed : (parseLockDisposition (s.aliveDuring deaths) c n (s.compass k).lock).1 = .error e)
    (hh : Handled t.alive s.shut c (0, 0) none (s.compass k) o.compass o.sent) :
    NetEffect s t ⟨c, k, n⟩ (.error e) := by
  have hrejected := rejected_of_parse hran.ok (hinv.lock_aliveDuring k deaths) hparsed
  refine ⟨fun expr hexpr heq => hrejected.not_commit expr hexpr (Except.error.inj heq),
    fun e' he' => Except.error.inj he' ▸ hrejected, (fun h => by cases h),
    fun _ => ⟨?_, hh.kept hran.touched⟩, fun d hd hne => ?_, hran.others⟩
  · rw [hh.lockCounts hran.touched (Server.alive_iff.mpr hran.after), if_pos rfl]
    exact add_zero _
  · rw [hh.lockCounts hran.touched hd, if_neg hne.symm, add_zero]

theorem NetEffect.of_answered (hran : Ran s t l k c deaths o) {succeeded : Bool} {counts : ℤ × ℤ}
    (hcounts : lockDispositionCounts n.toNat = .ok counts)
    (hh : Handled t.alive s.shut c (if succeeded then counts else (0, 0))
      (if succeeded then written else none) (s.compass k) o.compass o.sent) :
    NetEffect s t ⟨c, k, n⟩ (.ok succeeded) := by
  have hcaller := hh.lockCounts hran.touched (Server.alive_iff.mpr hran.after)
  rw [if_pos rfl] at hcaller
  refine ⟨(fun _ _ h => by cases h), (fun _ h => by cases h), fun h => ⟨counts, hcounts, ?_⟩,
    fun h => ?_, fun d hd hne => ?_, hran.others⟩
  · rw [hcaller, if_pos (Except.ok.inj h)]
  · have hfailed : ¬ succeeded = true := fun hsucceeded => h (congrArg Except.ok hsucceeded)
    rw [if_neg hfailed] at hcaller hh
    rw [if_neg hfailed] at hh
    exact ⟨hcaller.trans (add_zero _), hh.kept hran.touched⟩
  · rw [hh.lockCounts hran.touched hd, if_neg hne.symm, add_zero]

theorem Step.netEffect (hinv : s.Inv) (h : Step sha256 s l t)
    (hreq : l.event.lockRequest sha256 = some req) :
    ∃ outcome, l.reply.succeeded = some outcome ∧ NetEffect s t req outcome := by
  cases hevent : l.event with
  | compareExchange c r utcNow deaths =>
    rw [hevent] at hreq
    obtain rfl := Option.some.inj hreq
    obtain ⟨o, ho, hreply, hran⟩ := h.compareExchange hinv hevent
    refine ⟨o.result.map CompareExchangeResponse.succeeded, by rw [hreply, Reply.succeeded], ?_⟩
    rcases compareExchangeServlet_spec t.alive s.shut hran.ok hran.survivors
      (hinv.lock_aliveDuring _ deaths) r ho with
      ⟨e, hres, hparsed, hh⟩ | ⟨resp, counts, hres, hcounts, -, -, -, hh⟩
    · rw [hres]
      exact .of_rejected hinv hran hparsed hh
    · rw [hres]
      exact .of_answered hran hcounts hh
  | exchange c r utcNow deaths =>
    rw [hevent] at hreq
    obtain rfl := Option.some.inj hreq
    obtain ⟨o, ho, hreply, hran⟩ := h.exchange hinv hevent
    refine ⟨o.result.map ExchangeResponse.succeeded, by rw [hreply, Reply.succeeded], ?_⟩
    rcases exchangeServlet_spec t.alive s.shut hran.ok hran.survivors
      (hinv.lock_aliveDuring _ deaths) r ho with
      ⟨e, hres, hparsed, hh⟩ | ⟨resp, counts, hres, hcounts, -, -, hh⟩
    · rw [hres]
      exact .of_rejected hinv hran hparsed hh
    · rw [hres]
      exact .of_answered hran hcounts hh
  | connect | shutdown | die | addWatch | removeWatch | gcTimer =>
    simp [hevent, Event.lockRequest] at hreq

end Steps

/-- **Lock dispositions have their net effect**, whatever was locked before. -/
theorem lock_dispositions_balance {sha256 : Bytes → Sha256} {s₀ s t : Server} {ls : List Label}
    {l : Label} {req : LockRequest} (hstarted : s₀.Started) (hrun : Lts.Run (Step sha256) s₀ ls s)
    (hstep : Step sha256 s l t) (hreq : l.event.lockRequest sha256 = some req) :
    ∃ outcome, l.reply.succeeded = some outcome ∧ NetEffect s t req outcome :=
  hstep.netEffect (Server.inv_of_run hstarted.inv hrun) hreq

/-! ### A shared lock given back by an exchange -/

/-- A connection has taken a shared lock of the empty key. -/
def sharedHolder : Server :=
  emptyServer.after emptySha256
    ([.connect ⟨0, 1⟩] ++ .compareExchange ⟨0, 1⟩ ⟨[], [], 11⟩ 1500000000000 [] :: [])

/-- It writes, for which it takes the exclusive lock, and gives both back. -/
def sharedRelease : Event := .exchange ⟨0, 1⟩ ⟨[], [7], 21⟩ 1500000000001 []

theorem lock_dispositions_balance_trial :
    ∃ outcome, (sharedHolder.perform emptySha256 sharedRelease).1.reply.succeeded = some outcome ∧
      NetEffect sharedHolder (sharedHolder.perform emptySha256 sharedRelease).2
        ⟨⟨0, 1⟩, .fromHashOf emptySha256 [], 21⟩ outcome := by
  have hrun := Server.run_labels emptySha256 (fun _ _ => True) emptyServer [.connect ⟨0, 1⟩]
    (.compareExchange ⟨0, 1⟩ ⟨[], [], 11⟩ 1500000000000 []) [] (by decide +kernel)
  have hadmits : sharedHolder.Admits sharedRelease := by decide +kernel
  have hreq : (sharedHolder.perform emptySha256 sharedRelease).1.event.lockRequest emptySha256
      = some ⟨⟨0, 1⟩, .fromHashOf emptySha256 [], 21⟩ := by
    rw [Server.event_perform, sharedRelease, Event.lockRequest]
  exact lock_dispositions_balance emptyServer_started hrun.of_guarded
    (Server.step_perform hadmits) hreq

example : sharedHolder.lockCounts (.fromHashOf emptySha256 []) ⟨0, 1⟩ = (1, 0) ∧
    (sharedHolder.perform emptySha256 sharedRelease).2.lockCounts
    (.fromHashOf emptySha256 []) ⟨0, 1⟩
      = (0, 0) := by decide +kernel

end Circe.Pilot
