import Circe.Foundations.Tally
import Circe.Gate.Authorization

/-!
# Gate/RelayedOnce — how often a request is relayed

A request of a client may come up twice, in `on_sync_expect` and in `on_sync_request`, or as the
handshake of a WebSocket session.  What it may still lead to is counted over the jobs there are and
the requests that have not ended.

* `relayed_once` — a request of a client goes to a foyer server at most once.
-/

namespace Circe.Gate

open Protocol Websocket

variable {M : MultimapInterface Bytes Bytes}

/-! ## What may still be relayed -/

def GateEffect.isRelay : GateEffect M → Bool
  | .toFoyer _ => true
  | _ => false

/-- The job may still ask a foyer server. -/
def Stage.mayRelay : Stage → Bool
  | .syncRequest | .websocketHandshake | .authenticatingRequest | .authenticatingWebsocket => true
  | _ => false

/-- How often a foyer server was asked for a request of a client. -/
def relays (history : List (ClientLabel M)) (request : ℕ) : ℕ :=
  ((history.filter fun l => l.request = some request).flatMap ClientLabel.effects).countP
    GateEffect.isRelay

/-- How often it may still be asked: by a job, or once the request has ended. -/
def ClientSessions.toRelay (x : ClientSessions M) (request : ℕ) : ℕ :=
  x.jobs.countP (fun job => job.request = request && job.stage.mayRelay)
    + (!x.requests[request]?.any ClientRequest.ended).toNat

section Relays

variable {config : Config} {P : SessionLibrary M} {c : Context} {reqHeaders : RequestHeaders M}
  {input : JobInput} {outcome : Outcome M} {may : Bool}

/-- A foyer server is asked at the price of `may`. -/
def Outcome.Spends (outcome : Outcome M) (may : Bool) : Prop :=
  outcome.effects.countP GateEffect.isRelay + outcome.stage.mayRelay.toNat ≤ may.toNat

theorem isRelay_of_quiet {effects : List (GateEffect M)}
    (h : effects.any GateEffect.isRequest = false) : effects.countP GateEffect.isRelay = 0 := by
  refine List.countP_eq_zero.mpr fun e he => ?_
  have hnot : e.isRequest = false := by
    simpa using List.any_eq_false.mp h e he
  cases e <;> simp_all [GateEffect.isRelay, GateEffect.isRequest]

theorem Outcome.Quiet.spends (h : outcome.Quiet) : outcome.Spends may := by
  rw [Outcome.Spends, isRelay_of_quiet h.asks, h.stage]
  exact Nat.zero_le _

theorem Outcome.Spends.after {effects : List (GateEffect M)} (h : outcome.Spends may)
    (heffects : effects.any GateEffect.isRequest = false) :
    (outcome.after effects).Spends may := by
  have hsum : (outcome.after effects).effects.countP GateEffect.isRelay
      = effects.countP GateEffect.isRelay + outcome.effects.countP GateEffect.isRelay :=
    List.countP_append
  have hstage : (outcome.after effects).stage = outcome.stage := rfl
  rw [Outcome.Spends, hsum, hstage, isRelay_of_quiet heffects, Nat.zero_add]
  exact h

namespace Context

theorem spends_syncAuthenticate (sending : Sending) {waiting : Stage}
    (hwaiting : waiting.mayRelay = may) :
    (c.syncAuthenticate config reqHeaders sending waiting).Spends may := by
  simp only [syncAuthenticate]
  split
  case isTrue => exact (quiet_failAuthentication _).spends
  case isFalse =>
    cases sending with
    | noServer => exact (quiet_failAuthentication _).spends
    | threw what => exact (quiet_failAuthentication _).spends
    | sent => exact hwaiting ▸ (Nat.zero_add _).le

theorem spends_relay (reqEntity : Bytes) (sending : Sending) :
    (c.relay reqHeaders reqEntity sending).Spends true := by
  cases sending with
  | noServer => exact (quiet_throw _).spends
  | threw what => exact (quiet_throw _).spends
  | sent => exact le_rfl

theorem spends_onSyncExpect (sending : Sending) :
    (c.onSyncExpect config P reqHeaders sending).Spends false := by
  rcases onSyncExpect_cases config P c reqHeaders sending with
    heq | ⟨e, heq⟩ | ⟨c', -, -, heq⟩
  · exact heq ▸ Outcome.Quiet.spends ⟨rfl, rfl⟩
  · exact heq ▸ (quiet_throw e).spends
  · exact heq ▸ c'.spends_syncAuthenticate sending rfl

theorem spends_onSyncRequest (reqEntity : Bytes) (sending : Sending) :
    (c.onSyncRequest config P reqHeaders reqEntity sending).Spends true := by
  rcases onSyncRequest_cases config P c reqHeaders reqEntity sending with
    ⟨e, heq⟩ | ⟨-, heq⟩ | ⟨c', -, -, heq⟩
  · exact heq ▸ (quiet_throw e).spends
  · exact heq ▸ Outcome.Quiet.spends ⟨rfl, rfl⟩
  · rw [heq]
    split
    · exact c'.spends_relay reqEntity sending
    · exact c'.spends_syncAuthenticate sending rfl

theorem spends_onRequestAuthenticated (reqEntity : Bytes)
    (resp : Except String HttpAuthenticationResponse) (sending : Sending) :
    (c.onRequestAuthenticated config P reqHeaders reqEntity resp sending).Spends true := by
  rw [onRequestAuthenticated]
  split
  case h_1 => exact (quiet_failAuthentication _).spends
  case h_2 c' _ => exact c'.spends_relay reqEntity sending

theorem spends_performHandshake (sending : Sending) :
    (c.performHandshake config P reqHeaders sending).Spends true := by
  rw [performHandshake]
  split
  case isTrue => exact Outcome.Quiet.spends ⟨rfl, rfl⟩
  case isFalse =>
    split
    case h_1 e _ => exact (quiet_answer e).spends
    case h_2 c' _ =>
      dsimp only
      split
      case isTrue =>
        refine Outcome.Spends.after ?_ rfl
        rcases c'.syncAuthenticateWebsocket_cases sending with hquiet | ⟨henabled, hstage⟩
        · exact hquiet.spends
        · cases sending with
          | sent =>
            rw [syncAuthenticateWebsocket, if_neg (by simp [henabled])]
            exact le_rfl
          | _ =>
            rw [syncAuthenticateWebsocket, if_neg (by simp [henabled])]
            exact (quiet_failWebsocket _).spends
      case isFalse => exact (quiet_answer _).spends

theorem spends_onWebsocketAuthenticated (resp : Except String WebsocketAuthenticationResponse)
    (sending : Sending) :
    (c.onWebsocketAuthenticated config P reqHeaders resp sending).Spends true := by
  cases resp with
  | error what => exact (quiet_failWebsocket _).spends
  | ok authResp =>
    have hsent := isRequest_sendMessages (P := P) authResp.messages
    simp only [onWebsocketAuthenticated]
    split
    case h_1 effects what heq =>
      rw [heq] at hsent
      exact (quiet_failWebsocket _).spends.after hsent
    case h_2 effects heq =>
      rw [heq] at hsent
      refine Outcome.Spends.after ?_ hsent
      split_ifs
      · split
        · exact (quiet_failWebsocket _).spends
        · exact (quiet_failWebsocket _).spends
      · cases sending with
        | noServer => exact (quiet_failWebsocket _).spends
        | threw what => exact (quiet_failWebsocket _).spends
        | sent => exact le_rfl

end Context

/-- **A job asks a foyer server at most once**, and is past that then. -/
theorem ClientJob.spends (job : ClientJob M) (h : job.stage.takes input = true) :
    (job.step config P c input).Spends job.stage.mayRelay := by
  obtain ⟨request, session, reqHeaders, reqEntity, stage⟩ := job
  cases input with
  | perform sending =>
    cases stage with
    | syncExpect => exact c.spends_onSyncExpect sending
    | syncRequest => exact c.spends_onSyncRequest reqEntity sending
    | websocketHandshake => exact c.spends_performHandshake sending
    | _ => cases h
  | expired =>
    cases stage with
    | websocketHandshake => exact c.quiet_performExpired.spends
    | _ => cases h
  | authResponse resp sending =>
    cases stage with
    | authenticatingExpect => exact (c.quiet_onExpectAuthenticated resp).spends
    | authenticatingRequest => exact c.spends_onRequestAuthenticated reqEntity resp sending
    | _ => cases h
  | foyerResponse resp =>
    cases stage with
    | relaying => exact (c.quiet_onRelayed resp).spends
    | _ => cases h
  | websocketAuthResponse resp sending =>
    cases stage with
    | authenticatingWebsocket => exact c.spends_onWebsocketAuthenticated resp sending
    | _ => cases h
  | websocketEstablished resp =>
    cases stage with
    | establishing authToken => exact (c.quiet_onEstablished authToken resp).spends
    | _ => cases h

variable {history : List (ClientLabel M)} {x y : ClientSessions M} {l : ClientLabel M} {r : ℕ}

theorem relays_concat (history : List (ClientLabel M)) (l : ClientLabel M) (r : ℕ) :
    relays (history ++ [l]) r = relays history r
      + if l.request = some r then l.effects.countP GateEffect.isRelay else 0 := by
  rw [relays, List.filter_append, List.flatMap_append, List.countP_append, relays]
  split_ifs with hl <;> simp [hl]

theorem toRelay_of_same (hjobs : y.jobs = x.jobs) (hrequests : y.requests = x.requests) (r : ℕ) :
    y.toRelay r = x.toRelay r := by
  rw [ClientSessions.toRelay, ClientSessions.toRelay, hjobs, hrequests]

/-- **What one step spends.** -/
def ClientSessions.Spends (x : ClientSessions M) (l : ClientLabel M) (y : ClientSessions M) :
    Prop :=
  ∀ r, y.toRelay r + (if l.request = some r then l.effects.countP GateEffect.isRelay else 0)
    ≤ x.toRelay r

theorem spends_of_same (hjobs : y.jobs = x.jobs) (hrequests : y.requests = x.requests)
    (hquiet : l.effects.any GateEffect.isRequest = false) : x.Spends l y := by
  intro r
  rw [toRelay_of_same hjobs hrequests, isRelay_of_quiet hquiet, ite_self, Nat.add_zero]

/-- The headers of a request are there. -/
theorem spends_receive (session : ℕ) (reqHeaders : RequestHeaders M) (reqEntity : Bytes)
    (expect : Bool) :
    x.Spends (x.next config P (.receive session reqHeaders reqEntity expect)).1
      (x.next config P (.receive session reqHeaders reqEntity expect)).2 := by
  intro r
  have hrequests : (x.requests ++ [⟨session, reqHeaders, reqEntity, false⟩])[r]?.any
      ClientRequest.ended = x.requests[r]?.any ClientRequest.ended := by
    rcases Nat.lt_trichotomy r x.requests.length with hlt | rfl | hgt
    · rw [List.getElem?_append_left hlt]
    · simp
    · rw [List.getElem?_eq_none hgt.le, List.getElem?_eq_none]
      rw [List.length_append]
      exact hgt
  cases expect with
  | false =>
    simp [ClientSessions.next, ClientSessions.handle, ClientSessions.toRelay, hrequests]
  | true =>
    simp [ClientSessions.next, ClientSessions.handle, ClientSessions.toRelay, hrequests,
      ClientSessions.addJob, Stage.mayRelay]

theorem spends_job {j : ℕ} {input : JobInput} (henabled : x.Enabled (.job j input)) :
    x.Spends (x.next config P (.job j input)).1 (x.next config P (.job j input)).2 := by
  obtain ⟨job, hjob, htakes⟩ := (Option.any_eq_true ..).mp henabled
  cases hsession : x.sessions[job.session]? with
  | none =>
    simp only [ClientSessions.next, ClientSessions.handle, hjob, hsession]
    exact spends_of_same rfl rfl rfl
  | some s =>
    have hspends : (job.step config P (x.context s) input).Spends job.stage.mayRelay :=
      job.spends htakes
    simp only [ClientSessions.next, ClientSessions.handle, hjob, hsession]
    generalize job.step config P (x.context s) input = outcome at hspends ⊢
    intro r
    have hset := Tally.countP_set_add
      (fun job : ClientJob M => job.request = r && job.stage.mayRelay) hjob
      { job with stage := outcome.stage }
    rw [Outcome.Spends] at hspends
    simp only [ClientSessions.toRelay, ClientSessions.leave, ClientSessions.requestOf, hjob,
      Option.map_some, Option.some.injEq]
    by_cases hr : job.request = r
    · subst hr
      simp only [decide_true, Bool.true_and] at hset
      rw [if_pos rfl]
      omega
    · simp only [hr, decide_false, Bool.false_and] at hset
      rw [if_neg hr]
      omega

/-- A request has ended: it comes up as one job at most, once. -/
theorem spends_lowLevelRequestEnd {request : ℕ}
    (henabled : x.Enabled (.lowLevelRequestEnd request)) :
    x.Spends (x.next config P (.lowLevelRequestEnd request)).1
      (x.next config P (.lowLevelRequestEnd request)).2 := by
  obtain ⟨req, hreq, hopen⟩ := (Option.any_eq_true ..).mp henabled
  have hset (r : ℕ) : (x.requests.set request { req with ended := true })[r]?.any
      ClientRequest.ended = (decide (request = r) || x.requests[r]?.any ClientRequest.ended) := by
    by_cases hr : request = r
    · subst hr
      rw [List.getElem?_set_self (List.getElem?_eq_some_iff.mp hreq).1]
      simp
    · rw [List.getElem?_set_ne hr]
      simp [hr]
  -- It was open, so it is what a job that is enqueued is paid with.
  have hdown (r : ℕ) : (!(decide (request = r) || x.requests[r]?.any ClientRequest.ended)).toNat
      + (decide (request = r)).toNat ≤ (!x.requests[r]?.any ClientRequest.ended).toNat := by
    by_cases hr : request = r
    · subst hr
      have hnot : req.ended = false := by simpa using hopen
      simp [hreq, hnot]
    · simp [hr]
  have hclosed {y : ClientSessions M} {l : ClientLabel M} {jobs : List (ClientJob M)}
      (hjobs : y.jobs = x.jobs ++ jobs)
      (hrequests : y.requests = x.requests.set request { req with ended := true })
      (hone : ∀ r, jobs.countP (fun job => job.request = r && job.stage.mayRelay)
        ≤ (decide (request = r)).toNat)
      (hquiet : l.effects.any GateEffect.isRequest = false) : x.Spends l y := by
    intro r
    have hfewer := hdown r
    have hjob := hone r
    rw [isRelay_of_quiet hquiet, ite_self, ClientSessions.toRelay, ClientSessions.toRelay, hjobs,
      hrequests, hset, List.countP_append]
    omega
  cases hsession : x.sessions[req.session]? with
  | none =>
    simp only [ClientSessions.next, ClientSessions.handle, hreq, hsession]
    exact hclosed (List.append_nil _).symm rfl (fun _ => Nat.zero_le _) rfl
  | some s =>
    have hquiet := (Context.onLowLevelRequestEnd_cases config P (x.context s) req.reqHeaders).1
    simp only [ClientSessions.next, ClientSessions.handle, hreq, hsession]
    split
    · exact hclosed (List.append_nil _).symm rfl (fun _ => Nat.zero_le _) hquiet
    · refine hclosed rfl rfl (fun r => ?_) hquiet
      rw [List.countP_cons, List.countP_nil, Nat.zero_add]
      by_cases hr : request = r
      · split_ifs <;> simp [hr]
      · simp [hr]

theorem ClientSessions.spends_next {event : ClientEvent M} (henabled : x.Enabled event) :
    x.Spends (x.next config P event).1 (x.next config P event).2 := by
  cases event with
  | receive session reqHeaders reqEntity expect =>
    exact spends_receive session reqHeaders reqEntity expect
  | lowLevelRequestEnd request => exact spends_lowLevelRequestEnd henabled
  | job i input => exact spends_job henabled
  | removeBan ip => cases ip <;> exact spends_of_same rfl rfl rfl
  | shutdown session =>
    simp only [ClientSessions.next, ClientSessions.handle]
    split <;> exact spends_of_same rfl rfl rfl
  | lowLevelMessageEnd session =>
    simp only [ClientSessions.next, ClientSessions.handle]
    split
    · exact spends_of_same rfl rfl rfl
    · exact spends_of_same rfl rfl Context.asks_onLowLevelMessageEnd
  | _ => exact spends_of_same rfl rfl rfl

/-- **A request goes to a foyer server once.**  Whatever its client does, with `Expect` or without,
and whichever callbacks and jobs come in between, a foyer server is asked at most once for one
request of a client. -/
theorem relayed_once {now : ℕ}
    (h : Lts.Run (ClientSessions.Step config P) (.start now) history x) (r : ℕ) :
    relays history r ≤ 1 := by
  have hinv : relays history r + x.toRelay r ≤ 1 := by
    refine h.historyInvariant (J := fun history x => relays history r + x.toRelay r ≤ 1) ?_ le_rfl
    rintro history x l y hbefore ⟨henabled, hnext⟩
    have hall : x.Spends (x.next config P l.event).1 (x.next config P l.event).2 :=
      x.spends_next henabled
    have hspends := hall r
    rw [hnext] at hspends
    dsimp only at hspends
    rw [relays_concat]
    omega
  omega

end Relays

theorem relayed_once_trial :
    relays (clientTrace authTrial) 0 ≤ 1 ∧ relays (clientTrace authTrial) 0 = 1 :=
  ⟨relayed_once authTrial_run 0, by decide +kernel⟩

end Circe.Gate
