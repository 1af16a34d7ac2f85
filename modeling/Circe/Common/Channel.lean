import Circe.Common.Transport

/-!
# Common/Channel — one direction of a connection

A sender, a receiver, and the frames that the one has sent and the other has not received.  What the
receiver has read is what the sender sent, as far as it got, and the rest is on its way in frames
that the receiver will read: `Conveyed`.  Whatever event either of the two handles, the direction
stays conveyed.
-/

namespace Circe.Common

variable {Φ σ : Type} {P : Platform Φ} {InStep : Φ → Φ → Prop}

/-- **From a sender to its receiver**: what the receiver has read is what the sender sent, as far as
it got; while the receiver has not been shut down, the rest is on its way. -/
structure Conveyed (h : P.filter.KeepsInStep InStep) (applicationKey : Bytes)
    (sender receiver : InterserverConnection Φ) (channel sent received : List Frame) : Prop where
  isPrefix : received <+: sent
  inTransit : receiver.hasBeenShutdown = false → ∃ filter messages,
    sent = received ++ messages ∧
      (P.lockstep applicationKey h).InTransit filter (receiver.requireMessageFilter P)
        (receiver.incoming ++ channel) messages ∧
      (sender.hasBeenShutdown = false → filter = sender.requireMessageFilter P)

namespace InterserverConnection

/-- A frame arrives. -/
theorem incoming_layer5OnReceiveData (c : InterserverConnection Φ) (frame : Frame) :
    (c.layer5OnReceiveData frame.1 frame.2).incoming = c.incoming ++ [frame] := by
  simp [incoming, layer5OnReceiveData]

/-- A connection that has not been shut down had not been before. -/
theorem not_down {c : InterserverConnection Φ} {post : Uuid → σ → Except Exception Unit × σ}
    {event : Event} {s : σ} (h : (c.handle P post event s).2.1.hasBeenShutdown = false) :
    c.hasBeenShutdown = false := by
  by_contra hdown
  have hdown' := hasBeenShutdown_handle P post (by simpa using hdown : c.hasBeenShutdown = true)
    event s
  exact absurd (h.symm.trans hdown') (by decide)

/-- What a connection that says hello holds. -/
theorem layer7ClientSayHello_new (P : Platform Φ) (applicationKey : Bytes) (connectionUuid : Uuid)
    (timestamp : UInt64) (optionsReq : OptionMap) :
    ((new applicationKey : InterserverConnection Φ).layer7ClientSayHello P connectionUuid timestamp
        optionsReq).2
      = { (new applicationKey : InterserverConnection Φ) with
          connectionUuid := connectionUuid
          timestamp := timestamp
          workhorse := [.deflateAndSend ClientHello.id (P.clientHello.serialize
            ⟨connectionUuid, timestamp,
              P.calculateChecksum applicationKey saltClientHello connectionUuid timestamp,
              optionsReq.map fun o => ⟨o.1, o.2⟩⟩)] } := rfl

/-- The `Client_hello` of a connection that says hello is its own. -/
theorem helloReady_layer7ClientSayHello {applicationKey : Bytes} {connectionUuid : Uuid}
    (hset : connectionUuid ≠ 0) (timestamp : UInt64) (optionsReq : OptionMap) :
    ((new applicationKey).layer7ClientSayHello P connectionUuid timestamp
      optionsReq).2.HelloReady P := by
  intro message hmem _
  rw [layer7ClientSayHello_new] at hmem ⊢
  refine ⟨bne_iff_ne.mpr hset, ?_⟩
  simp only [outgoing, List.filterMap_cons, List.filterMap_nil, List.mem_singleton] at hmem
  rw [hmem, Platform.helloSeed]
  simp only [Codec.deserialize_serialize_self]
  rfl

end InterserverConnection

namespace Conveyed

open InterserverConnection (not_down incoming_layer5OnReceiveData)

variable {h : P.filter.KeepsInStep InStep} {applicationKey : Bytes}
  {sender receiver : InterserverConnection Φ} {channel sent received : List Frame}

/-- Nothing was sent yet. -/
theorem start (hincoming : receiver.incoming = [])
    (hsender : sender.requireMessageFilter P
      = P.filter.make (P.calculateChecksum applicationKey saltAuthentication 0 0))
    (hreceiver : receiver.requireMessageFilter P
      = P.filter.make (P.calculateChecksum applicationKey saltAuthentication 0 0)) :
    Conveyed h applicationKey sender receiver [] [] [] := by
  refine ⟨List.prefix_rfl, fun _ => ⟨sender.requireMessageFilter P, [], rfl, ?_, fun _ => rfl⟩⟩
  rw [hincoming, hsender, hreceiver]
  exact .nil (h.make _)

/-- **The sender handles an event.** -/
theorem sender_handle (hkey : sender.applicationKey = applicationKey) (hready : sender.HelloReady P)
    (hc : Conveyed h applicationKey sender receiver channel sent received)
    (post : Uuid → σ → Except Exception Unit × σ) (event : Event) (s : σ) :
    Conveyed h applicationKey (sender.handle P post event s).2.1 receiver
      (channel ++ (sends (sender.handle P post event s).1).map Prod.snd)
      (sent ++ (sends (sender.handle P post event s).1).map Prod.fst) received := by
  have hdowned : (sender.handle P post event s).2.1.hasBeenShutdown = false →
    sender.hasBeenShutdown = false := not_down
  generalize hafter : sender.handle P post event s = after at hdowned ⊢
  obtain ⟨effects, sender', s'⟩ := after
  refine ⟨hc.isPrefix.trans (List.prefix_append _ _), fun hup => ?_⟩
  obtain ⟨filter, messages, rfl, htransit, hfilter⟩ := hc.inTransit hup
  rw [← List.append_assoc]
  -- The sender keeps its filter, or does something with it for the other direction.
  have hquiet (hsends : sends effects = [])
      (hidle : sender'.hasBeenShutdown = false →
        sender'.requireMessageFilter P = sender.requireMessageFilter P ∨
          (P.lockstep applicationKey h).Idle (sender.requireMessageFilter P)
            (sender'.requireMessageFilter P)) :
      ∃ filter messages', received ++ messages ++ (sends effects).map Prod.fst
            = received ++ messages' ∧
        (P.lockstep applicationKey h).InTransit filter (receiver.requireMessageFilter P)
          (receiver.incoming ++ channel ++ (sends effects).map Prod.snd) messages' ∧
        (sender'.hasBeenShutdown = false → filter = sender'.requireMessageFilter P) := by
    rw [hsends]
    simp only [List.map_nil, List.append_nil]
    cases hdown : sender'.hasBeenShutdown with
    | true => exact ⟨filter, messages, rfl, htransit, fun h => absurd h (by decide)⟩
    | false =>
      have hfilter := hfilter (hdowned hdown)
      rcases hidle hdown with hsame | hidle
      · exact ⟨filter, messages, rfl, htransit, fun _ => hfilter.trans hsame.symm⟩
      · exact ⟨_, messages, rfl, (hfilter ▸ htransit).idle hidle, fun _ => rfl⟩
  by_cases hevent : ∃ magicNumber encodedPayload, event = .receiveData magicNumber encodedPayload
  · obtain ⟨magicNumber, encodedPayload, rfl⟩ := hevent
    obtain ⟨heffects, hafter⟩ := Prod.mk.inj hafter
    obtain ⟨hsender', -⟩ := Prod.mk.inj hafter
    exact hquiet (by rw [← heffects]; rfl) fun _ => .inl (by rw [← hsender']; rfl)
  · have hcarried := InterserverConnection.carried_handle post hready
      (fun magicNumber encodedPayload hdata => hevent ⟨magicNumber, encodedPayload, hdata⟩) s
    rw [hafter] at hcarried
    rcases hcarried with ⟨hsends, -, -, hsame⟩ | ⟨frame, hsends, -, -, hdown, -⟩ |
      ⟨frame, message, filter', hsends, -, -, -, hdecode, hread⟩ |
      ⟨message, frame, hsends, -, -, hdown, hencode⟩
    · exact hquiet hsends fun hdown => .inl (hsame hdown)
    · exact hquiet hsends fun hup => absurd (hup.symm.trans hdown) (by decide)
    · refine hquiet hsends fun hdown => ?_
      rw [hkey] at hdecode
      rw [hread hdown]
      exact Platform.idle_of_decodeFrame hdecode
    · rw [hsends]
      refine ⟨_, messages ++ [message], List.append_assoc .., ?_, fun _ => rfl⟩
      rw [hkey] at hencode
      exact (hfilter hdown ▸ htransit).push hencode

/-- A frame arrives at the receiver. -/
theorem deliver {frame : Frame}
    (hc : Conveyed h applicationKey sender receiver (frame :: channel) sent received) :
    Conveyed h applicationKey sender (receiver.layer5OnReceiveData frame.1 frame.2) channel sent
      received := by
  refine ⟨hc.isPrefix, fun hup => ?_⟩
  obtain ⟨filter, messages, hmessages, htransit, hfilter⟩ := hc.inTransit hup
  refine ⟨filter, messages, hmessages, ?_, hfilter⟩
  rw [incoming_layer5OnReceiveData, List.append_assoc]
  exact htransit

/-- **The receiver handles an event** that brings no frame. -/
theorem receiver_handle (hkey : receiver.applicationKey = applicationKey)
    (hready : receiver.HelloReady P)
    (hc : Conveyed h applicationKey sender receiver channel sent received)
    (post : Uuid → σ → Except Exception Unit × σ) {event : Event}
    (hevent : ∀ magicNumber encodedPayload, event ≠ .receiveData magicNumber encodedPayload)
    (s : σ) :
    Conveyed h applicationKey sender (receiver.handle P post event s).2.1 channel sent
      (received ++ receives (receiver.handle P post event s).1) := by
  have hdowned : (receiver.handle P post event s).2.1.hasBeenShutdown = false →
    receiver.hasBeenShutdown = false := not_down
  have hcarried := InterserverConnection.carried_handle post hready hevent s
  generalize receiver.handle P post event s = after at hdowned hcarried ⊢
  obtain ⟨effects, receiver', s'⟩ := after
  -- Nothing is read: what is on its way stays on its way.
  have hquiet (hreceives : receives effects = [])
      (hincoming : receiver'.incoming = receiver.incoming)
      (hidle : receiver'.hasBeenShutdown = false →
        receiver'.requireMessageFilter P = receiver.requireMessageFilter P ∨
          (P.lockstep applicationKey h).IdleReceiver (receiver.requireMessageFilter P)
            (receiver'.requireMessageFilter P)) :
      Conveyed h applicationKey sender receiver' channel sent (received ++ receives effects) := by
    rw [hreceives, List.append_nil]
    refine ⟨hc.isPrefix, fun hup => ?_⟩
    obtain ⟨filter, messages, hmessages, htransit, hfilter⟩ := hc.inTransit (hdowned hup)
    rw [hincoming]
    rcases hidle hup with hsame | hidle
    · rw [hsame]
      exact ⟨filter, messages, hmessages, htransit, hfilter⟩
    · exact ⟨filter, messages, hmessages, htransit.idleReceiver hidle, hfilter⟩
  rcases hcarried with ⟨-, hreceives, hincoming, hsame⟩ | ⟨frame, -, hreceives, -, hdown, -⟩ |
    ⟨frame, message, filter', -, hreceives, hincoming, hdown, hdecode, hread⟩ |
    ⟨message, frame, -, hreceives, hincoming, -, hencode⟩
  · exact hquiet hreceives hincoming fun hup => .inl (hsame hup)
  · refine ⟨?_, fun hup => absurd (hup.symm.trans hdown) (by decide)⟩
    rw [hreceives, List.append_nil]
    exact hc.isPrefix
  · obtain ⟨filter, messages, rfl, htransit, hfilter⟩ := hc.inTransit hdown
    rw [hincoming, List.cons_append] at htransit
    -- The frame at the front is read as what was sent next.
    obtain ⟨message', rest, r, rfl, hdecode', htransit'⟩ := htransit.pop
    rw [hkey] at hdecode
    obtain ⟨rfl, rfl⟩ := Prod.mk.inj (Option.some.inj (hdecode.symm.trans hdecode'))
    have hsplit : received ++ message :: rest = received ++ receives effects ++ rest := by
      rw [hreceives, List.append_assoc]
      rfl
    refine ⟨⟨rest, hsplit.symm⟩, fun hup => ⟨filter, rest, hsplit, ?_, hfilter⟩⟩
    rw [hread hup]
    exact htransit'
  · rw [hkey] at hencode
    exact hquiet hreceives hincoming fun _ => Platform.idleReceiver_of_encodeFrame hencode

/-- A frame that comes up at the receiver decodes to what was sent next. -/
theorem decode_handledFrame (hc : Conveyed h applicationKey sender receiver channel sent received)
    {event : Event} {frame : Frame} (hframe : receiver.handledFrame event = some frame) :
    ∃ message rest filter, sent = received ++ message :: rest ∧
      P.decodeFrame applicationKey (receiver.requireMessageFilter P) frame
        = some (message, filter) := by
  -- What the frame came with does not matter to where it is in the queue.
  obtain ⟨tasks, hdown, -, hhead, -⟩ := InterserverConnection.handle_of_handledFrame P
    (fun _ s => (.ok (), s) : Uuid → Unit → Except Exception Unit × Unit) hframe ()
  obtain ⟨filter, messages, rfl, htransit, -⟩ := hc.inTransit hdown
  have hincoming :
      receiver.incoming = frame :: ({ receiver with workhorse := tasks }).incoming := by
    simp [InterserverConnection.incoming, hhead]
  rw [hincoming, List.cons_append] at htransit
  obtain ⟨message, rest, r, rfl, hdecode, -⟩ := htransit.pop
  exact ⟨message, rest, r, rfl, hdecode⟩

/-- A user-defined frame that comes up at the receiver is read, as what was sent next. -/
theorem next_received (hkey : receiver.applicationKey = applicationKey)
    (hc : Conveyed h applicationKey sender receiver channel sent received)
    (post : Uuid → σ → Except Exception Unit × σ) {event : Event} {frame : Frame}
    (hframe : receiver.handledFrame event = some frame) (huser : isUser frame.1 = true) (s : σ) :
    ∃ message, receives (receiver.handle P post event s).1 = [message] ∧
      received ++ [message] <+: sent := by
  obtain ⟨message, rest, filter, rfl, hdecode⟩ := hc.decode_handledFrame hframe
  refine ⟨message, ?_, rest, ?_⟩
  · exact InterserverConnection.receives_of_handledFrame post hframe huser
      (by rw [hkey]; exact hdecode) s
  · rw [List.append_assoc]
    rfl

/-- A hello that comes up at the receiver was sent as it is. -/
theorem hello_mem_sent (hc : Conveyed h applicationKey sender receiver channel sent received)
    {event : Event} {frame : Frame} (hframe : receiver.handledFrame event = some frame)
    (hhello : frame.1 = ClientHello.id ∨ frame.1 = ServerHello.id) : frame ∈ sent := by
  obtain ⟨message, rest, filter, rfl, hdecode⟩ := hc.decode_handledFrame hframe
  have hsame : message = frame := by
    rw [Platform.decodeFrame] at hdecode
    rcases hhello with hclient | hserver
    · rw [if_pos hclient] at hdecode
      exact (Prod.mk.inj (Option.some.inj hdecode)).1.symm
    · rw [if_neg (by rw [hserver]; decide), if_pos hserver] at hdecode
      exact (Prod.mk.inj (Option.some.inj hdecode)).1.symm
  exact hsame ▸ List.mem_append_right _ List.mem_cons_self

end Conveyed

end Circe.Common
