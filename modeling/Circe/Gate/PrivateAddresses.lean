import Circe.Gate.BanCauses
import Circe.Gate.BannedClients

/-!
# Gate/PrivateAddresses — the addresses that are exempted

`client_generic_exempt_private_addresses` exempts private addresses where requests and messages are
counted.  Where authentications fail nobody is exempted, so a private address is banned all the
same, exactly when a client of it fails to authenticate the last time that it may
(`sparesPrivate_iff`, `not_sparesPrivate`).
-/

namespace Circe.Gate

open Protocol Websocket

variable {M : MultimapInterface Bytes Bytes}

/-- What comes of clients, and of the servers behind them. -/
def ClientEvent.ofClients : ClientEvent M → Bool
  | .accumulate .. | .setBanTimeRemaining .. => false
  | _ => true

instance (bans : IpContainer) (call : AccumulateCall) : Decidable (bans.Bans call) :=
  inferInstanceAs (Decidable (_ ∧ _ ∧ _))

/-- A job of a client with a private address goes on as it should, or its failure is not the one
that bans the address. -/
def ClientJob.Tolerates (config : Config) (P : SessionLibrary M) (job : ClientJob M) (c : Context)
    (input : JobInput) : Prop :=
  P.isPrivate c.session.ip = true →
    (job.served config P c input = true ∧ job.stage.refused input = false) ∨
      ¬ c.bans.Bans (c.authFailure config)

instance (config : Config) (P : SessionLibrary M) (job : ClientJob M) (c : Context)
    (input : JobInput) : Decidable (job.Tolerates config P c input) :=
  inferInstanceAs (Decidable (_ → _))

namespace ClientSessions

variable (config : Config) (P : SessionLibrary M)

/-- No private address is banned. -/
def SparesPrivate (x : ClientSessions M) : Prop :=
  ∀ ip, P.isPrivate ip = true → x.bans.getBanTimeRemaining x.now ip = 0

/-- A step of a job is none that bans a private address. -/
def Tolerates (x : ClientSessions M) : ClientEvent M → Prop
  | .job i input => ∀ w ∈ x.working i, w.1.Tolerates config P w.2 input
  | _ => True

instance (x : ClientSessions M) : DecidablePred (x.Tolerates config P)
  | .job i input =>
    inferInstanceAs (Decidable (∀ w ∈ x.working i, w.1.Tolerates config P w.2 input))
  | .connect .. | .receive .. | .lowLevelRequestEnd _ | .lowLevelMessageEnd _ | .shutdown _
  | .advance _ | .accumulate .. | .setBanTimeRemaining .. | .removeBan _ =>
    inferInstanceAs (Decidable True)

variable {config : Config} {P : SessionLibrary M} {x y : ClientSessions M} {event : ClientEvent M}
  {ip : Bytes} {now : ℕ} {history : List (ClientLabel M)}

theorem working_eq_some {i : ℕ} {job : ClientJob M} {c : Context}
    (h : x.working i = some (job, c)) : c.now = x.now ∧ c.bans = x.bans := by
  obtain ⟨job', -, hsession⟩ := Option.bind_eq_some_iff.mp h
  obtain ⟨session, -, hpair⟩ := Option.map_eq_some_iff.mp hsession
  cases hpair
  exact ⟨rfl, rfl⟩

/-- **With the exemption on, a private address is called for by its failing jobs only.** -/
theorem call_of_private (hexempt : config.clientGenericExemptPrivateAddresses = true)
    (hclients : event.ofClients = true) {call : AccumulateCall}
    (hcall : call ∈ x.calls config P event) (hprivate : P.isPrivate call.ip = true) :
    ∃ i input job c, event = .job i input ∧ x.working i = some (job, c) ∧
      call = c.authFailure config ∧
      ¬ (job.served config P c input = true ∧ job.stage.refused input = false) := by
  cases event with
  | lowLevelRequestEnd request =>
    simp only [calls] at hcall
    split at hcall
    case h_1 => exact absurd hcall List.not_mem_nil
    case h_2 req _ =>
      split at hcall
      case h_1 => exact absurd hcall List.not_mem_nil
      case h_2 session _ =>
        simp only [Context.onLowLevelRequestEndCalls] at hcall
        split_ifs at hcall with _ _ _ hnot
        all_goals simp only [List.mem_singleton, List.not_mem_nil] at hcall
        rw [hcall] at hprivate
        exact absurd ⟨hexempt, hprivate⟩ hnot
  | lowLevelMessageEnd session =>
    simp only [calls] at hcall
    split at hcall
    case h_1 => exact absurd hcall List.not_mem_nil
    case h_2 s _ =>
      simp only [Context.onLowLevelMessageEndCalls] at hcall
      split_ifs at hcall with hnot
      all_goals simp only [List.mem_singleton, List.not_mem_nil] at hcall
      rw [hcall] at hprivate
      exact absurd ⟨hexempt, hprivate⟩ hnot
  | job i input =>
    simp only [calls] at hcall
    split at hcall
    case h_1 => exact absurd hcall List.not_mem_nil
    case h_2 job c hworking =>
      rw [job.calls_eq] at hcall
      split at hcall
      case isTrue => exact absurd hcall List.not_mem_nil
      case isFalse hfails =>
        refine ⟨i, input, job, c, rfl, hworking, List.mem_singleton.mp hcall, ?_⟩
        rintro ⟨hserved, hrefused⟩
        exact hfails (by rw [hserved, hrefused]; rfl)
  | accumulate | setBanTimeRemaining => cases hclients
  | connect | receive | shutdown | advance | removeBan => exact absurd hcall List.not_mem_nil

/-- **A step that is tolerated bans no private address.** -/
theorem not_banCause_of_tolerates (hexempt : config.clientGenericExemptPrivateAddresses = true)
    (hclients : event.ofClients = true) (h : x.Tolerates config P event)
    (hprivate : P.isPrivate ip = true) : ¬ x.BanCause config P ip event := by
  rintro (⟨timeRemaining, rfl⟩ | ⟨call, hcall, rfl, hbans⟩)
  · cases hclients
  · obtain ⟨i, input, job, c, rfl, hworking, rfl, hfails⟩ :=
      call_of_private hexempt hclients hcall hprivate
    obtain ⟨-, hsame⟩ := working_eq_some hworking
    rcases h (job, c) hworking hprivate with hgoes | hspares
    · exact hfails hgoes
    · exact hspares (hsame ▸ hbans)

/-- **A step that is not tolerated bans one.** -/
theorem not_sparesPrivate_of_not_tolerates (h : ¬ x.Tolerates config P event) :
    ¬ (x.handle config P event).2.SparesPrivate P := by
  cases event with
  | job i input =>
    simp only [Tolerates, not_forall] at h
    obtain ⟨⟨job, c⟩, hworking, hnot⟩ := h
    simp only [ClientJob.Tolerates, Classical.not_imp, not_or, not_not] at hnot
    obtain ⟨hprivate, hfails, hbans⟩ := hnot
    obtain ⟨hnow, hsame⟩ := working_eq_some hworking
    have hcalls : x.calls config P (.job i input) = [c.authFailure config] := by
      have hjob : x.calls config P (.job i input) = job.calls config P c input := by
        simp only [calls, Option.mem_def.mp hworking]
      rw [hjob, job.calls_eq, if_neg]
      simpa using hfails
    have hafter : (x.handle config P (.job i input)).2.bans
        = (x.bans.call (c.authFailure config)).2 := by
      rw [bans_handle]
      simp only [hcalls]
      rfl
    have hclock : (x.handle config P (.job i input)).2.now = x.now := by
      simp only [handle]
      split
      · rfl
      · split <;> rfl
    have hpos := IpContainer.remaining_call_pos hbans
    intro hspares
    have hzero := hspares c.session.ip hprivate
    rw [hafter, hclock, ← hnow, ← hsame] at hzero
    exact absurd hzero hpos.ne'
  | _ => exact absurd trivial h

end ClientSessions

/-- **Private addresses are never banned exactly where no step of a job fails that may not**: with
the exemption on, in whatever comes of clients and servers. -/
theorem sparesPrivate_iff {config : Config} {P : SessionLibrary M} {now : ℕ}
    {history : List (ClientLabel M)} {x : ClientSessions M}
    (hexempt : config.clientGenericExemptPrivateAddresses = true)
    (hrun : Lts.Run (ClientSessions.Step config P) (.start now) history x)
    (hclients : ∀ l ∈ history, l.event.ofClients = true) :
    (∀ pre post t, history = pre ++ post →
      Lts.Run (ClientSessions.Step config P) (.start now) pre t → t.SparesPrivate P) ↔
    Lts.Run (Lts.Guarded (ClientSessions.Step config P) fun x l => x.Tolerates config P l.event)
      (.start now) history x := by
  constructor
  · intro h
    refine hrun.to_guarded fun pre l post hhistory t t' hpre hstep => ?_
    by_contra hnot
    have ht' : (t.handle config P l.event).2 = t' := congrArg Prod.snd hstep.2
    have hspares := h (pre ++ [l]) post t' (by simp [hhistory]) (hpre.snoc hstep)
    rw [← ht'] at hspares
    exact ClientSessions.not_sparesPrivate_of_not_tolerates hnot hspares
  · rintro hguarded pre post t rfl hpre ip hprivate
    by_contra hbanned
    obtain ⟨pre, l, post', u, rfl, hu, hcause⟩ := ClientSessions.exists_banCause hpre hbanned
    rw [List.append_assoc, List.cons_append] at hguarded
    have htolerates := hguarded.guard_of_split hu ClientSessions.Step.unique
    exact ClientSessions.not_banCause_of_tolerates hexempt (hclients l (by simp)) htolerates
      hprivate hcause

/-! ## A client of a private address -/

/-- The library of the runs above, with addresses that are private. -/
def privateLibrary : SessionLibrary (MultimapInterface.list Bytes Bytes) :=
  { clientLibrary with isPrivate := fun ip => (asciiBytes "192.168.").isPrefixOf ip }

def privateIp : Bytes := asciiBytes "192.168.0.7"

/-- The client comes for the `n`-th time, with wrong credentials. -/
def refusedAgain (n : ℕ) : List (ClientEvent (MultimapInterface.list Bytes Bytes)) :=
  [.connect 1 privateIp, .receive n (clientRequest []) [] false, .lowLevelRequestEnd n,
    .job n (.perform .sent), .job n (.authResponse (.ok ⟨[], 403, []⟩) .sent)]

abbrev privateTrace (times : ℕ) : List (ClientLabel (MultimapInterface.list Bytes Bytes)) :=
  Lts.trace (ClientSessions.next clientConfig privateLibrary) (.start 0)
    ((List.range times).flatMap refusedAgain)

/-- **The fifth time it is banned**, with the exemption on. -/
theorem not_sparesPrivate :
    clientConfig.clientGenericExemptPrivateAddresses = true ∧
      privateLibrary.isPrivate privateIp = true ∧
      (∀ l ∈ privateTrace 5, l.event.ofClients = true) ∧
      ∃ x, Lts.Run (ClientSessions.Step clientConfig privateLibrary) (.start 0) (privateTrace 5) x ∧
        x.bans.getBanTimeRemaining x.now privateIp = 60000 := by
  refine ⟨rfl, by decide +kernel, by decide +kernel, _, Lts.Run.of_admits _ ClientSessions.Enabled
    (fun henabled => ⟨henabled, rfl⟩) _ _ (by decide +kernel), by decide +kernel⟩

/-- Four times it is not. -/
theorem sparesPrivate_iff_trial :
    ∃ x, Lts.Run (ClientSessions.Step clientConfig privateLibrary) (.start 0) (privateTrace 4) x ∧
      x.bans.getBanTimeRemaining x.now privateIp = 0 := by
  have hguarded : Lts.Run (Lts.Guarded (ClientSessions.Step clientConfig privateLibrary) fun x l =>
      x.Tolerates clientConfig privateLibrary l.event) (.start 0) (privateTrace 4) _ :=
    Lts.Run.of_admits (ClientSessions.next clientConfig privateLibrary)
      (fun x event => x.Tolerates clientConfig privateLibrary event ∧ x.Enabled event)
      (fun h => ⟨h.1, h.2, rfl⟩) (.start 0) ((List.range 4).flatMap refusedAgain)
      (by decide +kernel)
  refine ⟨_, hguarded.of_guarded, ?_⟩
  exact (sparesPrivate_iff rfl hguarded.of_guarded (by decide +kernel)).mpr hguarded
    (privateTrace 4) [] _ (List.append_nil _).symm hguarded.of_guarded privateIp (by decide +kernel)

end Circe.Gate
