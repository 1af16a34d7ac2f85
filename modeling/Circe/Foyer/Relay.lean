import Circe.Common.RemoteCall

/-!
# Foyer/Relay — the requests that a foyer server passes on

A foyer server has connections, to gates and to boxes.  A servlet that passes a request on makes a
request of its own on another connection and waits for the response; until it returns or throws it
is a `Fiber`.  Meanwhile anything may happen at either end of any connection, and each connection
runs as if it were alone (`historyOf_run`).
-/

namespace Circe.Foyer

open Common

/-! ## The servlets -/

/-- A servlet that passes a request on, by what differs between one and another. -/
structure RelayServlet where
  {Req NextReq NextResp Resp : Type}
  req : MessageClass Req
  nextReq : MessageClass NextReq
  nextResp : MessageClass NextResp
  resp : MessageClass Resp
  /-- Where a connection is picked: `.client` is for the connections the server has made, as in
  `Box_connector`, `.server` for those it has accepted, as in `Foyer_acceptor`. -/
  via : Side
  /-- Whether the connection with this UUID may be picked. -/
  picks : Req → Uuid → Bool
  /-- What is thrown if no connection is there. -/
  lost : Exception
  /-- The request that is made; the argument is `get_connection_uuid` of where the other came. -/
  request : Except Exception Uuid → Req → Except Exception NextReq
  /-- The response; the argument is `get_connection_uuid` of the connection picked. -/
  response : Except Exception Uuid → NextResp → Except Exception Resp

namespace RelayServlet

variable (servlet : RelayServlet) {κ : Type}

def mayPick (job : RequestMessageJob) (connectionUuid : Uuid) : Bool :=
  match servlet.req.read job.messageId job.payload with
  | .error _ => true
  | .ok req => servlet.picks req connectionUuid

/-- A servlet up to its `soursrequest`. -/
def ask (connectionUuid : Except Exception Uuid) (job : RequestMessageJob) (picked : Option κ) :
    Except Exception (κ × Message) := do
  let req ← servlet.req.read job.messageId job.payload
  match picked with
  | none => .error servlet.lost
  | some next =>
    let nextReq ← servlet.request connectionUuid req
    return (next, servlet.nextReq.message nextReq)

/-- A servlet from its `wait_for_response` on. -/
def answer (connectionUuid : Except Exception Uuid)
    (result : Except Exception InterserverResponse) : Except Exception servlet.Resp := do
  let nextResp ← servlet.nextResp.waitForResponse result
  servlet.response connectionUuid nextResp

/-- A request that is passed on. -/
theorem ask_eq_ok_iff {servlet : RelayServlet} {connectionUuid : Except Exception Uuid}
    {job : RequestMessageJob} {picked : Option κ} {next : κ} {msg : Message} :
    servlet.ask connectionUuid job picked = .ok (next, msg) ↔
      ∃ req nextReq, servlet.req.read job.messageId job.payload = .ok req ∧ picked = some next ∧
        servlet.request connectionUuid req = .ok nextReq ∧
          msg = servlet.nextReq.message nextReq := by
  constructor
  · intro h
    rw [ask] at h
    cases hread : servlet.req.read job.messageId job.payload with
    | error e =>
      rw [hread] at h
      cases h
    | ok req =>
      rw [hread] at h
      cases picked with
      | none => cases h
      | some next' =>
        cases hnext : servlet.request connectionUuid req with
        | error e =>
          change (servlet.request connectionUuid req).bind _ = _ at h
          rw [hnext] at h
          cases h
        | ok nextReq =>
          change (servlet.request connectionUuid req).bind _ = _ at h
          rw [hnext] at h
          obtain ⟨rfl, rfl⟩ := Prod.mk.inj (Except.ok.inj h)
          exact ⟨req, nextReq, rfl, rfl, hnext, rfl⟩
  · rintro ⟨req, nextReq, hread, rfl, hnext, rfl⟩
    rw [ask, hread]
    change (servlet.request connectionUuid req).bind _ = _
    rw [hnext]
    rfl

end RelayServlet

/-! ## The server -/

/-- A servlet that was called: where its request came, and the promise it waits for or what it threw
instead. -/
structure Fiber (κ : Type) where
  source : κ
  job : RequestMessageJob
  awaits : Except Exception (κ × PromiseId)
deriving DecidableEq

/-- A server with its connections, the servlets that have not returned, and what its promises have
been settled with. -/
structure Server (κ Φ σ : Type) where
  links : κ → Duplex Φ σ
  fibers : List (Fiber κ)
  settled : List ((κ × PromiseId) × Except Exception InterserverResponse)

inductive ServerEvent (κ : Type)
  /-- Something happens at one end of a connection. -/
  | link (k : κ) (side : Side) (event : Event)
  /-- `Request_message_job::perform`, up to the wait; `thrown` is for `soursrequest`. -/
  | call (k : κ) (job : RequestMessageJob) (picked : Option κ) (thrown : Option Exception)
  /-- The same, from the wait on. -/
  | resume (fiber : Fiber κ)

structure ServerLabel (κ : Type) where
  event : ServerEvent κ
  step : Option (κ × DuplexLabel)
  called : Option (Fiber κ)

/-- The servlets called in a history. -/
def called {κ : Type} (history : List (ServerLabel κ)) : List (Fiber κ) :=
  history.filterMap ServerLabel.called

/-- What happened on one connection. -/
def historyOf {κ : Type} [DecidableEq κ] (k : κ) (history : List (ServerLabel κ)) :
    List DuplexLabel :=
  history.filterMap fun l => l.step.bind fun step => if step.1 = k then some step.2 else none

/-- The calls of a servlet for one job. -/
def Fiber.isFor {κ : Type} [DecidableEq κ] (k : κ) (job : RequestMessageJob) (fiber : Fiber κ) :
    Bool := fiber.source = k ∧ fiber.job = job

namespace Server

variable {κ Φ σ : Type} [DecidableEq κ] (P : Platform Φ)
  (post : κ → Side → Uuid → σ → Except Exception Unit × σ) (ours : κ → Side)
  (servlets : UInt16 → Option RelayServlet)

/-- The server's own end of a connection. -/
def connection (x : Server κ Φ σ) (k : κ) : InterserverConnection Φ := (x.links k).ends (ours k)

/-- What a fiber that goes on returns or throws. -/
def outcome (x : Server κ Φ σ) (fiber : Fiber κ) : Option (Except Exception InterserverResponse) :=
  match servlets fiber.job.messageId, fiber.awaits with
  | none, _ => none
  | some _, .error e => some (.error e)
  | some servlet, .ok (next, promise) =>
    (x.settled.lookup (next, promise)).map fun result =>
      servlet.resp.handled (servlet.answer (x.connection ours next).getConnectionUuid result)

/-- An event at one end of a connection. -/
def onLink (x : Server κ Φ σ) (k : κ) (side : Side) (event : Event) :
    DuplexLabel × Server κ Φ σ :=
  let (l, link) := (x.links k).next P (post k) side event
  (l, { x with
    links := Function.update x.links k link
    settled := if side = ours k then x.settled ++ (settles l.effects).map fun e => ((k, e.1), e.2)
      else x.settled })

/-- The jobs of the servlets that pass requests on are performed by their fibers only. -/
def isFree (k : κ) (side : Side) : Event → Bool
  | .perform job _ => side ≠ ours k || (servlets job.messageId).isNone
  | _ => true

def Enabled (x : Server κ Φ σ) : ServerEvent κ → Prop
  | .link k side event =>
    (x.links k).Enabled side event ∧ isFree ours servlets k side event = true
  | .call k job picked _ =>
    x.fibers.countP (Fiber.isFor k job) < (x.connection ours k).jobs.count job ∧
      ∃ servlet ∈ servlets job.messageId, ∀ next ∈ picked, ours next = servlet.via ∧
        (x.connection ours next).isConnectionUuidSet = true ∧
          servlet.mayPick job (x.connection ours next).connectionUuid = true
  | .resume fiber =>
    fiber ∈ x.fibers ∧ fiber.job ∈ (x.connection ours fiber.source).jobs ∧
      (x.outcome ours servlets fiber).isSome = true

instance (x : Server κ Φ σ) : DecidablePred (x.Enabled ours servlets)
  | .link .. => inferInstanceAs (Decidable (_ ∧ _))
  | .call .. => inferInstanceAs (Decidable (_ ∧ _))
  | .resume _ => inferInstanceAs (Decidable (_ ∧ _ ∧ _))

/-- One event: what happened on a connection, the servlet that was called, and the server after. -/
def next (x : Server κ Φ σ) (event : ServerEvent κ) : ServerLabel κ × Server κ Φ σ :=
  match event with
  | .link k side e =>
    let (l, y) := x.onLink P post ours k side e
    (⟨event, some (k, l), none⟩, y)
  | .call k job picked thrown =>
    match servlets job.messageId with
    | none => (⟨event, none, none⟩, x)
    | some servlet =>
      match servlet.ask (x.connection ours k).getConnectionUuid job picked with
      | .error e =>
        let fiber : Fiber κ := ⟨k, job, .error e⟩
        (⟨event, none, some fiber⟩, { x with fibers := x.fibers ++ [fiber] })
      | .ok (next, msg) =>
        let c := x.connection ours next
        let fiber : Fiber κ :=
          ⟨k, job, (c.sendRequest P msg thrown).1.map fun _ => (next, c.promises.made)⟩
        let (l, y) := x.onLink P post ours next (ours next) (.sendRequest msg thrown)
        (⟨event, some (next, l), some fiber⟩, { y with fibers := y.fibers ++ [fiber] })
  | .resume fiber =>
    match x.outcome ours servlets fiber with
    | none => (⟨event, none, none⟩, x)
    | some handled =>
      let (l, y) := x.onLink P post ours fiber.source (ours fiber.source)
        (.perform fiber.job handled)
      (⟨event, some (fiber.source, l), none⟩, { y with fibers := y.fibers.erase fiber })

def Step (x : Server κ Φ σ) (l : ServerLabel κ) (y : Server κ Φ σ) : Prop :=
  x.Enabled ours servlets l.event ∧ l = (x.next P post ours servlets l.event).1 ∧
    y = (x.next P post ours servlets l.event).2

/-- Nothing has happened yet. -/
structure Started (applicationKey : κ → Bytes) (x : Server κ Φ σ) : Prop where
  links : ∀ k, (x.links k).Started P (applicationKey k)
  fibers : x.fibers = []
  settled : x.settled = []

/-! ## What a step does -/

variable {P post ours servlets} {x y : Server κ Φ σ} {l : ServerLabel κ} {k : κ}

theorem next_event (x : Server κ Φ σ) (event : ServerEvent κ) :
    (x.next P post ours servlets event).1.event = event := by
  cases event with
  | link => rfl
  | call =>
    simp only [next]
    repeat' split
    all_goals rfl
  | resume =>
    simp only [next]
    split <;> rfl

theorem onLink_links (x : Server κ Φ σ) (k : κ) (side : Side) (event : Event) :
    (x.onLink P post ours k side event).2.links
      = Function.update x.links k ((x.links k).next P (post k) side event).2 := rfl

/-- An event at one end of a connection is a step of that connection. -/
theorem onLink_step {side : Side} {event : Event} (h : (x.links k).Enabled side event) :
    Duplex.Step P (post k) (x.links k) (x.onLink P post ours k side event).1
      ((x.onLink P post ours k side event).2.links k) :=
  ⟨h, rfl, by rw [onLink_links, Function.update_self]; rfl⟩

/-- **What a step can be**: the connection that takes a step, the servlet that is called, and the
fibers afterwards. -/
inductive Stepped (P : Platform Φ) (post : κ → Side → Uuid → σ → Except Exception Unit × σ)
    (ours : κ → Side) (servlets : UInt16 → Option RelayServlet) (x : Server κ Φ σ) :
    ServerLabel κ → Server κ Φ σ → Prop
  | link (k : κ) (side : Side) (event : Event) (henabled : (x.links k).Enabled side event)
      (hfree : isFree ours servlets k side event = true) :
      Stepped P post ours servlets x
        ⟨.link k side event, some (k, (x.onLink P post ours k side event).1), none⟩
        (x.onLink P post ours k side event).2
  | threw {k : κ} {job : RequestMessageJob} {picked : Option κ} {thrown : Option Exception}
      {servlet : RelayServlet} {e : Exception}
      (hroom : x.fibers.countP (Fiber.isFor k job) < (x.connection ours k).jobs.count job)
      (hservlet : servlets job.messageId = some servlet)
      (hask : servlet.ask (x.connection ours k).getConnectionUuid job picked = .error e) :
      Stepped P post ours servlets x ⟨.call k job picked thrown, none, some ⟨k, job, .error e⟩⟩
        { x with fibers := x.fibers ++ [⟨k, job, .error e⟩] }
  | asked {k : κ} {job : RequestMessageJob} {picked : Option κ} {thrown : Option Exception}
      {servlet : RelayServlet} {next : κ} {msg : Message} {fiber : Fiber κ}
      (hroom : x.fibers.countP (Fiber.isFor k job) < (x.connection ours k).jobs.count job)
      (hservlet : servlets job.messageId = some servlet)
      (hask : servlet.ask (x.connection ours k).getConnectionUuid job picked = .ok (next, msg))
      (hpicks : ∀ next ∈ picked, ours next = servlet.via ∧
        (x.connection ours next).isConnectionUuidSet = true ∧
          servlet.mayPick job (x.connection ours next).connectionUuid = true)
      (hfiber : fiber = ⟨k, job, ((x.connection ours next).sendRequest P msg thrown).1.map
        fun _ => (next, (x.connection ours next).promises.made)⟩) :
      Stepped P post ours servlets x
        ⟨.call k job picked thrown, some (next, (x.onLink P post ours next (ours next)
          (.sendRequest msg thrown)).1), some fiber⟩
        { (x.onLink P post ours next (ours next) (.sendRequest msg thrown)).2 with
          fibers := x.fibers ++ [fiber] }
  | resumed {fiber : Fiber κ} {handled : Except Exception InterserverResponse}
      (hfiber : fiber ∈ x.fibers)
      (hjob : fiber.job ∈ (x.connection ours fiber.source).jobs)
      (houtcome : x.outcome ours servlets fiber = some handled) :
      Stepped P post ours servlets x
        ⟨.resume fiber, some (fiber.source, (x.onLink P post ours fiber.source (ours fiber.source)
          (.perform fiber.job handled)).1), none⟩
        { (x.onLink P post ours fiber.source (ours fiber.source) (.perform fiber.job handled)).2
          with fibers := x.fibers.erase fiber }

theorem Step.stepped (h : Step P post ours servlets x l y) :
    Stepped P post ours servlets x l y := by
  obtain ⟨henabled, hl, hy⟩ := h
  generalize l.event = event at henabled hl hy
  rw [hl, hy]
  cases event with
  | link k side event => exact .link k side event henabled.1 henabled.2
  | call k job picked thrown =>
    obtain ⟨hroom, servlet, hmem, hpicks⟩ := henabled
    have hservlet : servlets job.messageId = some servlet := hmem
    simp only [next, hservlet]
    cases hask : servlet.ask (x.connection ours k).getConnectionUuid job picked with
    | error e => exact .threw hroom hservlet hask
    | ok asked => exact .asked hroom hservlet hask hpicks rfl
  | resume fiber =>
    obtain ⟨hfiber, hjob, hsome⟩ := henabled
    obtain ⟨handled, houtcome⟩ := Option.isSome_iff_exists.mp hsome
    simp only [next, houtcome]
    exact .resumed hfiber hjob houtcome

/-- **A connection takes the step of the label, or none.** -/
theorem Step.link (h : Step P post ours servlets x l y) (k : κ) :
    (∃ step, l.step = some (k, step) ∧ Duplex.Step P (post k) (x.links k) step (y.links k)) ∨
      (∀ step, l.step ≠ some (k, step)) ∧ y.links k = x.links k := by
  have hother {k' : κ} {side : Side} {event : Event} (hne : k' ≠ k) :
      (∀ step, some (k', (x.onLink P post ours k' side event).1) ≠ some (k, step)) ∧
        (x.onLink P post ours k' side event).2.links k = x.links k :=
    ⟨fun step heq => hne (congrArg Prod.fst (Option.some.inj heq)),
      Function.update_of_ne hne.symm _ _⟩
  cases h.stepped with
  | link k' side event henabled =>
    by_cases hk : k' = k
    · subst hk
      exact .inl ⟨_, rfl, onLink_step henabled⟩
    · exact .inr (hother hk)
  | threw => exact .inr ⟨fun step heq => Option.some_ne_none _ heq.symm, rfl⟩
  | asked =>
    rename_i next msg fiber _ _ _ _ _
    by_cases hk : next = k
    · subst hk
      exact .inl ⟨_, rfl, onLink_step trivial⟩
    · exact .inr (hother hk)
  | resumed hfiber hjob =>
    rename_i fiber handled _
    by_cases hk : fiber.source = k
    · subst hk
      exact .inl ⟨_, rfl, onLink_step hjob⟩
    · exact .inr (hother hk)

/-- **Each connection runs on its own.** -/
theorem historyOf_run {history : List (ServerLabel κ)}
    (h : Lts.Run (Step P post ours servlets) x history y) (k : κ) :
    Lts.Run (Duplex.Step P (post k)) (x.links k) (historyOf k history) (y.links k) := by
  refine h.project (fun x => x.links k) _ ?_
  intro s l t hstep
  rcases hstep.link k with ⟨step, hl, hlink⟩ | ⟨hnone, hlink⟩
  · exact .inl ⟨step, by simp [hl], hlink⟩
  · refine .inr ⟨?_, hlink⟩
    cases hl : l.step with
    | none => rfl
    | some step =>
      refine if_neg fun hk => hnone step.2 ?_
      rw [hl, ← hk]

end Server

end Circe.Foyer
