import Circe.Foyer.RelayedRequests

/-!
# Foyer/RelayedCalls — a request of a gate, all the way to a box and back

What a gate or a box is given when the servlet at the far end of its request calls a callback: that
callback's response to the very request, or an exception.
-/

namespace Circe

open Common Protocol

namespace Foyer

/-! ## The far end -/

section Far

variable {κ Φ σ : Type} [DecidableEq κ] {P : Platform Φ} {ours : κ → Side}
  {servlet : RelayServlet} {y : Server κ Φ σ} {history : List (ServerLabel κ)} {k next : κ}
  {request nextRequest : Request} {req : servlet.Req}
  {callback : κ → RequestMessageJob → servlet.NextReq → Except Exception servlet.NextResp}

/-- The far ends of the connections that a servlet picks perform its requests by a callback. -/
def Performs (ours : κ → Side) (servlet : RelayServlet)
    (callback : κ → RequestMessageJob → servlet.NextReq → Except Exception servlet.NextResp)
    (history : List (ServerLabel κ)) : Prop :=
  ∀ k, ours k = servlet.via → ∀ ran ∈ runs (effectsOf (ours k).peer (historyOf k history)),
    ran.1.messageId.toUInt64 = servlet.nextReq.id →
      ran.2 = .ofHandled (servlet.nextResp.handled
        ((servlet.nextReq.read ran.1.messageId ran.1.payload).bind (callback k ran.1)))

/-- A request that was passed on: `nextReq` was made of it and sent to `next`, where it was
performed once; and its servlet waits for the promise, no other. -/
structure PassedOn (ours : κ → Side) (servlet : RelayServlet) (y : Server κ Φ σ)
    (history : List (ServerLabel κ)) (k : κ) (job : RequestMessageJob) (req : servlet.Req)
    (next : κ) (nextUuid : Uuid) (nextReq : servlet.NextReq) (nextRequest : Request) : Prop where
  via : ours next = servlet.via
  uuid : (y.connection ours next).getConnectionUuid = .ok nextUuid
  picks : servlet.picks req nextUuid = true
  made : ∃ connectionUuid : Except Exception Uuid,
    (∀ u, connectionUuid = .ok u → (y.connection ours k).getConnectionUuid = .ok u) ∧
      servlet.request connectionUuid req = .ok nextReq
  request : nextRequest ∈ requests (effectsOf servlet.via (historyOf next history))
  message : nextRequest.msg = servlet.nextReq.message nextReq
  once : ((runs (effectsOf servlet.via.peer (historyOf next history))).map Prod.fst).count
    nextRequest.job = 1
  alone : ∀ fiber ∈ called history, fiber.promise? = some (next, nextRequest.promise) →
    fiber.source = k ∧ fiber.job = job

omit [DecidableEq κ] in
/-- A promise is waited for by one servlet. -/
theorem eq_of_promise (h : ((called history).filterMap Fiber.promise?).Nodup) {a b : Fiber κ}
    (ha : a ∈ called history) (hb : b ∈ called history) {awaited : κ × PromiseId}
    (hawaits : a.promise? = some awaited) (hsame : b.promise? = some awaited) : a = b := by
  have hpairwise := List.pairwise_filterMap.mp h
  exact List.Pairwise.forall_of_forall_of_flip
    (R := fun a b => a.promise? = some awaited → b.promise? = some awaited → a = b)
    (fun _ _ _ _ => rfl) (hpairwise.imp fun hapart hc hd => absurd rfl (hapart _ hc _ hd))
    (hpairwise.imp fun hapart hd hc => absurd rfl (hapart _ hc _ hd)) ha hb hawaits hsame

/-- What a servlet makes of the response to a request that was performed by a callback. -/
theorem Performs.answer (h : Performs ours servlet callback history)
    (hvia : ours next = servlet.via) {nextReq : servlet.NextReq}
    (hmsg : nextRequest.msg = servlet.nextReq.message nextReq)
    {resp : InterserverResponse}
    (hran : (nextRequest.job, resp)
      ∈ runs (effectsOf (ours next).peer (historyOf next history)))
    (connectionUuid : Except Exception Uuid) :
    servlet.answer connectionUuid (.ok resp.told)
      = (rethrown (callback next nextRequest.job nextReq)).bind
          (servlet.response connectionUuid) := by
  have hid : nextRequest.job.messageId.toUInt64 = servlet.nextReq.id := by
    rw [Request.job, hmsg]
    exact servlet.nextReq.toUInt64_id
  have hread : servlet.nextReq.read nextRequest.job.messageId nextRequest.job.payload
      = .ok nextReq := by
    rw [Request.job, hmsg]
    exact servlet.nextReq.read_message nextReq
  have hresp : resp = _ := h next hvia _ hran hid
  rw [hread] at hresp
  rw [hresp]
  exact congrArg (Except.bind · (servlet.response connectionUuid))
    (servlet.nextResp.waitForResponse_told (callback next nextRequest.job nextReq))

/-- **A request comes to an exception of the servlet, or to what the callback did.** -/
theorem Server.Passed.performed {outcome : Except Exception servlet.Resp}
    (h : Server.Passed P ours servlet y history k request.job outcome)
    (hapart : ((called history).filterMap Fiber.promise?).Nodup)
    (hperforms : Performs ours servlet callback history)
    (hmsg : request.msg = servlet.req.message req) :
    (∃ e, outcome = .error e) ∨
      ∃ next nextUuid nextReq nextRequest,
        PassedOn ours servlet y history k request.job req next nextUuid nextReq nextRequest ∧
          outcome = (rethrown (callback next nextRequest.job nextReq)).bind
            (servlet.response (.ok nextUuid)) := by
  cases h with
  | threw => exact .inl ⟨_, rfl⟩
  | lost => exact .inl ⟨_, rfl⟩
  | @answered next nextRequest nextUuid hsends resp hran honce =>
    have hread : servlet.req.read request.job.messageId request.job.payload = .ok req := by
      rw [Request.job, hmsg]
      exact servlet.req.read_message req
    obtain ⟨connectionUuid, huuid, hask⟩ := hsends.ask
    obtain ⟨req', nextReq, hread', -, hnext, hnextmsg⟩ := RelayServlet.ask_eq_ok_iff.mp hask
    obtain rfl := Except.ok.inj (hread.symm.trans hread')
    have hpicks := hsends.picks
    rw [RelayServlet.mayPick, hread] at hpicks
    refine .inr ⟨next, nextUuid, nextReq, nextRequest,
      ⟨hsends.via, hsends.next, hpicks, ⟨connectionUuid, huuid, hnext⟩, hsends.via ▸ hsends.request,
        hnextmsg, hsends.via ▸ honce, fun fiber hfiber hsame => ?_⟩,
      hperforms.answer hsends.via hnextmsg hran _⟩
    obtain rfl := eq_of_promise hapart hfiber hsends.called hsame rfl
    exact ⟨rfl, rfl⟩

end Far

/-! ## Whole runs -/

section Runs

variable {κ σ : Type} [DecidableEq κ] {aes : AesEncrypt} {z : Zlib} {P : Platform MessageFilter}
  {post : κ → Side → Uuid → σ → Except Exception Unit × σ} {ours : κ → Side} {F : Fields}
  {applicationKey : κ → Bytes} {x y : Server κ MessageFilter σ} {history : List (ServerLabel κ)}
  {k : κ} {request : Request} {value : InterserverResponse}

/-- A request whose servlet this is. -/
theorem relayServlets_of_message {servlet : RelayServlet} {req : servlet.Req}
    (hservlet : relayServlets F servlet.req.id.toUInt16 = some servlet)
    (hmsg : request.msg = servlet.req.message req) :
    relayServlets F request.job.messageId = some servlet := by
  rw [Request.job, hmsg]
  exact hservlet

/-- A call that returns was performed by a callback that returned. -/
theorem Server.performed_of_returned (servlet : RelayServlet) {req : servlet.Req}
    {callback : κ → RequestMessageJob → servlet.NextReq → Except Exception servlet.NextResp}
    (hx : x.Started (P.withFilter aes z) applicationKey)
    (hrun : Lts.Run (Server.Step (P.withFilter aes z) post ours (relayServlets F)) x history y)
    (hfew : ∀ k side, ((y.links k).ends side).promises.made < 2 ^ 64)
    (hperforms : Performs ours servlet callback history)
    (hrequest : request ∈ requests (effectsOf (ours k).peer (historyOf k history)))
    (hmsg : request.msg = servlet.req.message req)
    (hservlet : relayServlets F servlet.req.id.toUInt16 = some servlet)
    (htold : .settled request.promise (.ok value)
      ∈ effectsOf (ours k).peer (historyOf k history)) {resp : servlet.Resp}
    (hresp : servlet.resp.waitForResponse (.ok value) = .ok resp) :
    ∃ next nextUuid nextReq nextRequest nextResp,
      PassedOn ours servlet y history k request.job req next nextUuid nextReq nextRequest ∧
        callback next nextRequest.job nextReq = .ok nextResp ∧
          servlet.response (.ok nextUuid) nextResp = .ok resp := by
  have hok {α : Type} {result : Except Exception α} {a : α} (h : rethrown result = .ok a) :
      result = .ok a := by
    cases result with
    | ok => exact h
    | error e =>
      rw [rethrown] at h
      split at h <;> cases h
  obtain ⟨outcome, hpassed, hwait⟩ := Server.passed_of_told (MessageFilter.keepsInStep aes z) hx
    hrun hfew hrequest (relayServlets_of_message hservlet hmsg) htold
  have houtcome := hok (hwait.symm.trans hresp)
  rcases hpassed.performed (Server.relayInv_of_run hx hrun).apart hperforms hmsg with ⟨e, rfl⟩ |
    ⟨next, nextUuid, nextReq, nextRequest, hpassedOn, rfl⟩
  · cases houtcome
  · cases hnext : rethrown (callback next nextRequest.job nextReq) with
    | error e =>
      rw [hnext] at houtcome
      cases houtcome
    | ok nextResp =>
      rw [hnext] at houtcome
      exact ⟨next, nextUuid, nextReq, nextRequest, nextResp, hpassedOn, hok hnext, houtcome⟩

end Runs

section Results

variable {κ σ : Type} [DecidableEq κ] (aes : AesEncrypt) (z : Zlib) (P : Platform MessageFilter)
  (post : κ → Side → Uuid → σ → Except Exception Unit × σ) (ours : κ → Side) (F : Fields)

/-- **An HTTP response is a box's to that very request.**  In every run, if the wait of a gate for
the response to an `Http_request_to_box` returns: the foyer server made one `Http_request` of it,
for which no other servlet waits; a box performed that once; and the response is what the servlets
of the two give when one calls the other directly. -/
theorem httpResponse_of_own_request {M : MultimapInterface Bytes Bytes}
    (handleHttpRequest : κ → RequestMessageJob → Box.HttpCall M → Box.HttpHandled M)
    {applicationKey : κ → Bytes} {x y : Server κ MessageFilter σ}
    (hx : x.Started (P.withFilter aes z) applicationKey) {history : List (ServerLabel κ)}
    (hrun : Lts.Run (Server.Step (P.withFilter aes z) post ours (relayServlets F)) x history y)
    (hfew : ∀ k side, ((y.links k).ends side).promises.made < 2 ^ 64)
    (hboxes : Performs ours (httpRequestToBoxServlet F) (fun boxConn job boxReq =>
      .ok (Box.httpRequest (handleHttpRequest boxConn job) boxReq)) history)
    {k : κ} {request : Request}
    (hrequest : request ∈ requests (effectsOf (ours k).peer (historyOf k history)))
    {req : HttpRequestToBox} (hmsg : request.msg = F.httpRequestToBox.message req)
    {value : InterserverResponse} (htold : .settled request.promise (.ok value)
      ∈ effectsOf (ours k).peer (historyOf k history))
    {resp : HttpResponseFromBox}
    (hresp : F.httpResponseFromBox.waitForResponse (.ok value) = .ok resp) :
    ∃ gateUuid boxConn boxUuid boxRequest,
      (y.connection ours k).getConnectionUuid = .ok gateUuid ∧ ours boxConn = .client ∧
      (y.connection ours boxConn).getConnectionUuid = .ok boxUuid ∧
      boxRequest ∈ requests (effectsOf .client (historyOf boxConn history)) ∧
      boxRequest.msg = F.boxHttpRequest.message (httpRequest gateUuid req) ∧
      (∀ fiber ∈ called history, fiber.promise? = some (boxConn, boxRequest.promise) →
        fiber.source = k ∧ fiber.job = request.job) ∧
      ((runs (effectsOf .server (historyOf boxConn history))).map Prod.fst).count
        boxRequest.job = 1 ∧
      httpRequestToBox (some boxUuid) (fun boxReq =>
        .ok (Box.httpRequest (handleHttpRequest boxConn boxRequest.job) boxReq)) gateUuid req
        = .ok resp := by
  obtain ⟨boxConn, boxUuid, boxReq, boxRequest, boxResp, hpassedOn, hcallback, hresponse⟩ :=
    Server.performed_of_returned (httpRequestToBoxServlet F) hx hrun hfew hboxes hrequest hmsg rfl
      htold hresp
  obtain ⟨connectionUuid, huuid, hmade⟩ := hpassedOn.made
  cases connectionUuid with
  | error e => cases hmade
  | ok gateUuid =>
    obtain rfl : httpRequest gateUuid req = boxReq := Except.ok.inj hmade
    obtain rfl := Except.ok.inj hcallback
    exact ⟨gateUuid, boxConn, boxUuid, boxRequest, huuid gateUuid rfl, hpassedOn.via,
      hpassedOn.uuid, hpassedOn.request, hpassedOn.message, hpassedOn.alone, hpassedOn.once,
      hresponse⟩

/-- **WebSocket messages are performed by the server named, once, and without an exception**, if
the wait for the response returns: by the box that a gate named, and by the gate that a box named.
The messages are those of the request, in their order. -/
theorem packedMessages_performed_once
    (boxCallback : κ → RequestMessageJob → BoxWebsocketPackedMessageRequest →
      Except Exception Unit)
    (gateCallback : κ → RequestMessageJob → GateWebsocketPackedMessageRequest →
      Except Exception Unit)
    {applicationKey : κ → Bytes} {x y : Server κ MessageFilter σ}
    (hx : x.Started (P.withFilter aes z) applicationKey) {history : List (ServerLabel κ)}
    (hrun : Lts.Run (Server.Step (P.withFilter aes z) post ours (relayServlets F)) x history y)
    (hfew : ∀ k side, ((y.links k).ends side).promises.made < 2 ^ 64)
    (hboxes : Performs ours (websocketPackedMessageRequestToBoxServlet F) boxCallback history)
    (hgates : Performs ours (websocketPackedMessageRequestToGateServlet F) gateCallback history)
    {k : κ} {request : Request}
    (hrequest : request ∈ requests (effectsOf (ours k).peer (historyOf k history)))
    {value : InterserverResponse} (htold : .settled request.promise (.ok value)
      ∈ effectsOf (ours k).peer (historyOf k history)) :
    (∀ req : WebsocketPackedMessageRequestToBox,
      request.msg = F.websocketPackedMessageRequestToBox.message req →
      F.websocketPackedMessageResponseFromBox.waitForResponse (.ok value) = .ok () →
      ∃ gateUuid boxConn boxRequest, (y.connection ours k).getConnectionUuid = .ok gateUuid ∧
        ours boxConn = .client ∧
        (y.connection ours boxConn).getConnectionUuid = .ok req.boxUuid ∧
        boxRequest ∈ requests (effectsOf .client (historyOf boxConn history)) ∧
        boxRequest.msg = F.boxWebsocketPackedMessageRequest.message
          ⟨gateUuid, req.clientUuid, req.messages⟩ ∧
        ((runs (effectsOf .server (historyOf boxConn history))).map Prod.fst).count
          boxRequest.job = 1 ∧
        boxCallback boxConn boxRequest.job ⟨gateUuid, req.clientUuid, req.messages⟩ = .ok ()) ∧
    ∀ req : WebsocketPackedMessageRequestToGate,
      request.msg = F.websocketPackedMessageRequestToGate.message req →
      F.websocketPackedMessageResponseFromGate.waitForResponse (.ok value) = .ok () →
      ∃ gateConn gateRequest, ours gateConn = .server ∧
        (y.connection ours gateConn).getConnectionUuid = .ok req.gateUuid ∧
        gateRequest ∈ requests (effectsOf .server (historyOf gateConn history)) ∧
        gateRequest.msg = F.gateWebsocketPackedMessageRequest.message
          ⟨req.clientUuid, req.messages⟩ ∧
        ((runs (effectsOf .client (historyOf gateConn history))).map Prod.fst).count
          gateRequest.job = 1 ∧
        gateCallback gateConn gateRequest.job ⟨req.clientUuid, req.messages⟩ = .ok () := by
  refine ⟨fun req hmsg hresp => ?_, fun req hmsg hresp => ?_⟩
  · obtain ⟨boxConn, boxUuid, boxReq, boxRequest, ⟨⟩, hpassedOn, hcallback, -⟩ :=
      Server.performed_of_returned (websocketPackedMessageRequestToBoxServlet F) hx hrun hfew
        hboxes hrequest hmsg rfl htold hresp
    obtain ⟨connectionUuid, huuid, hmade⟩ := hpassedOn.made
    obtain rfl : boxUuid = req.boxUuid := of_decide_eq_true hpassedOn.picks
    cases connectionUuid with
    | error e => cases hmade
    | ok gateUuid =>
      obtain rfl : ⟨gateUuid, req.clientUuid, req.messages⟩ = boxReq := Except.ok.inj hmade
      exact ⟨gateUuid, boxConn, boxRequest, huuid gateUuid rfl, hpassedOn.via, hpassedOn.uuid,
        hpassedOn.request, hpassedOn.message, hpassedOn.once, hcallback⟩
  · obtain ⟨gateConn, gateUuid, gateReq, gateRequest, ⟨⟩, hpassedOn, hcallback, -⟩ :=
      Server.performed_of_returned (websocketPackedMessageRequestToGateServlet F) hx hrun hfew
        hgates hrequest hmsg rfl htold hresp
    obtain ⟨connectionUuid, huuid, hmade⟩ := hpassedOn.made
    obtain rfl : gateUuid = req.gateUuid := of_decide_eq_true hpassedOn.picks
    obtain rfl : ⟨req.clientUuid, req.messages⟩ = gateReq := Except.ok.inj hmade
    exact ⟨gateConn, gateRequest, hpassedOn.via, hpassedOn.uuid, hpassedOn.request,
      hpassedOn.message, hpassedOn.once, hcallback⟩

end Results

/-! ## The run with one gate and one box -/

def trialHandleHttpRequest (_ : TrialLink) (_ : RequestMessageJob)
    (_ : Box.HttpCall (.list Bytes Bytes)) : Box.HttpHandled (.list Bytes Bytes) :=
  ⟨[], [9], .ok 200⟩

def trialCallback {α : Type} (_ : TrialLink) (_ : RequestMessageJob) (_ : α) :
    Except Exception Unit := .ok ()

theorem trialRelay_performs_http :
    Performs TrialLink.side (httpRequestToBoxServlet trialFields) (fun boxConn job boxReq =>
      .ok (Box.httpRequest (trialHandleHttpRequest boxConn job) boxReq)) trialRelayHistory
  | .gate, hvia => nomatch hvia
  | .box, _ => by decide +kernel

theorem trialRelay_performs_toBox :
    Performs TrialLink.side (websocketPackedMessageRequestToBoxServlet trialFields) trialCallback
      trialRelayHistory
  | .gate, hvia => nomatch hvia
  | .box, _ => by decide +kernel

theorem trialRelay_performs_toGate :
    Performs TrialLink.side (websocketPackedMessageRequestToGateServlet trialFields) trialCallback
      trialRelayHistory
  | .gate, _ => by decide +kernel
  | .box, hvia => nomatch hvia

theorem httpResponse_of_own_request_trial :
    ∃ gateUuid boxConn boxUuid boxRequest,
      (trialRelayed.connection TrialLink.side .gate).getConnectionUuid = .ok gateUuid ∧
      TrialLink.side boxConn = .client ∧
      (trialRelayed.connection TrialLink.side boxConn).getConnectionUuid = .ok boxUuid ∧
      boxRequest ∈ requests (effectsOf .client (historyOf boxConn trialRelayHistory)) ∧
      boxRequest.msg = trialFields.boxHttpRequest.message (httpRequest gateUuid trialHttp) ∧
      (∀ fiber ∈ called trialRelayHistory,
        fiber.promise? = some (boxConn, boxRequest.promise) →
          fiber.source = .gate ∧ fiber.job = trialHttpRequest.job) ∧
      ((runs (effectsOf .server (historyOf boxConn trialRelayHistory))).map Prod.fst).count
        boxRequest.job = 1 ∧
      httpRequestToBox (some boxUuid) (fun boxReq =>
        .ok (Box.httpRequest (trialHandleHttpRequest boxConn boxRequest.job) boxReq)) gateUuid
          trialHttp = .ok ⟨⟨200, [], [9]⟩, trialBoxUuid⟩ :=
  httpResponse_of_own_request trialAes storedZlib trialPlatform (fun _ => postsNothing)
    TrialLink.side trialFields trialHandleHttpRequest trialServer_started trialRelay_run
    trialRelayed_few trialRelay_performs_http (mem_trialRelay_requests _ (.inl rfl)) rfl
    trialRelay_told.1
    (trialFields.httpResponseFromBox.waitForResponse_told (.ok ⟨⟨200, [], [9]⟩, trialBoxUuid⟩))

theorem packedMessages_performed_once_trial :
    ∃ gateUuid boxConn boxRequest,
      (trialRelayed.connection TrialLink.side .gate).getConnectionUuid = .ok gateUuid ∧
      TrialLink.side boxConn = .client ∧
      (trialRelayed.connection TrialLink.side boxConn).getConnectionUuid = .ok trialBoxUuid ∧
      boxRequest ∈ requests (effectsOf .client (historyOf boxConn trialRelayHistory)) ∧
      boxRequest.msg = trialFields.boxWebsocketPackedMessageRequest.message
        ⟨gateUuid, trialPacked.clientUuid, trialPacked.messages⟩ ∧
      ((runs (effectsOf .server (historyOf boxConn trialRelayHistory))).map Prod.fst).count
        boxRequest.job = 1 ∧
      trialCallback boxConn boxRequest.job (BoxWebsocketPackedMessageRequest.mk gateUuid
        trialPacked.clientUuid trialPacked.messages) = .ok () :=
  (packedMessages_performed_once trialAes storedZlib trialPlatform (fun _ => postsNothing)
    TrialLink.side trialFields trialCallback trialCallback trialServer_started trialRelay_run
    trialRelayed_few trialRelay_performs_toBox trialRelay_performs_toGate
    (mem_trialRelay_requests _ (.inr rfl)) trialRelay_told.2).1 trialPacked rfl
    (trialFields.websocketPackedMessageResponseFromBox.waitForResponse_told (.ok ()))

end Foyer

end Circe
