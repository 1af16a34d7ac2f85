import Circe.Common.Channel
import Circe.Common.WireFormat

/-!
# Common/Duplex — a client and a server joined by two channels

Two connections and the frames on their way between them.  At every step one of the two handles an
event; what it sends goes to the end of its channel, and a frame arrives from the front of the
other's.  The history of a run is the list of its labels: what a side has sent and received so far
is read off it.

Each direction is `Conveyed` along every run.
-/

namespace Circe.Common

/-- Both ends, the frames that each has sent and the other has not received, and what surrounds
them. -/
structure Duplex (Φ σ : Type) where
  ends : Side → InterserverConnection Φ
  channels : Side → List Frame
  surroundings : σ

/-- A step of one of the two connections. -/
structure DuplexLabel where
  side : Side
  event : Event
  effects : List Effect

/-- What a side did in a history. -/
def effectsOf (side : Side) (history : List DuplexLabel) : List Effect :=
  history.flatMap fun l => if l.side = side then l.effects else []

/-- What a side sent in a history, and what it received. -/
def sentBy (side : Side) (history : List DuplexLabel) : List Frame :=
  (sends (effectsOf side history)).map Prod.fst

def receivedBy (side : Side) (history : List DuplexLabel) : List Frame :=
  receives (effectsOf side history)

namespace Duplex

variable {Φ σ : Type}

/-- A frame arrives from the front of the other side's channel. -/
def Enabled (x : Duplex Φ σ) (side : Side) : Event → Prop
  | .receiveData magicNumber encodedPayload =>
    (x.channels side.peer).head? = some (magicNumber, encodedPayload)
  | event => (x.ends side).Enabled event

/-- The channels after a side handled an event. -/
def carry (channels : Side → List Frame) (side : Side) (event : Event) (effects : List Effect)
    (origin : Side) : List Frame :=
  if origin = side then channels side ++ (sends effects).map Prod.snd
  else
    match event with
    | .receiveData .. => (channels origin).tail
    | _ => channels origin

variable (P : Platform Φ) (post : Side → Uuid → σ → Except Exception Unit × σ)

/-- One side handles an event. -/
def next (x : Duplex Φ σ) (side : Side) (event : Event) : DuplexLabel × Duplex Φ σ :=
  let (effects, c, s) := (x.ends side).handle P (post side) event x.surroundings
  (⟨side, event, effects⟩,
    ⟨Function.update x.ends side c, carry x.channels side event effects, s⟩)

def Step (x : Duplex Φ σ) (l : DuplexLabel) (y : Duplex Φ σ) : Prop :=
  x.Enabled l.side l.event ∧ l = (x.next P post l.side l.event).1 ∧
    y = (x.next P post l.side l.event).2

/-- An acceptor's connection and one that said hello, under one key, with nothing on its way. -/
structure Started (applicationKey : Bytes) (x : Duplex Φ σ) : Prop where
  server : x.ends .server = .new applicationKey
  client : ∃ connectionUuid timestamp optionsReq, connectionUuid ≠ 0 ∧
    x.ends .client = ((InterserverConnection.new applicationKey).layer7ClientSayHello P
      connectionUuid timestamp optionsReq).2
  channels : ∀ side, x.channels side = []

instance (x : Duplex Φ σ) (side : Side) : DecidablePred (x.Enabled side)
  | .receiveData .. => inferInstanceAs (Decidable (_ = _))
  | .work => inferInstanceAs (Decidable ((x.ends side).Enabled .work))
  | .perform job handled => inferInstanceAs (Decidable
    ((x.ends side).Enabled (.perform job handled)))
  | .close => inferInstanceAs (Decidable ((x.ends side).Enabled .close))
  | .receiveControl .. | .sendRequest .. | .sendNotification .. | .drop .. | .shutdown .. =>
    inferInstanceAs (Decidable True)

end Duplex

@[simp] theorem Side.peer_peer (side : Side) : side.peer.peer = side := by cases side <;> rfl

theorem Side.peer_ne (side : Side) : side.peer ≠ side := by cases side <;> decide

theorem Side.eq_or_eq_peer (a side : Side) : a = side ∨ a = side.peer := by
  cases a <;> cases side <;> decide

/-! ## Steps and histories -/

section Histories

variable {side : Side} {history : List DuplexLabel} {l : DuplexLabel}

theorem effectsOf_concat_of_eq (h : l.side = side) :
    effectsOf side (history ++ [l]) = effectsOf side history ++ l.effects := by
  simp [effectsOf, h]

theorem effectsOf_concat_of_ne (h : l.side ≠ side) :
    effectsOf side (history ++ [l]) = effectsOf side history := by
  simp [effectsOf, h]

theorem sentBy_concat_of_eq (h : l.side = side) :
    sentBy side (history ++ [l]) = sentBy side history ++ (sends l.effects).map Prod.fst := by
  rw [sentBy, effectsOf_concat_of_eq h]
  simp [sentBy, sends]

theorem sentBy_concat_of_ne (h : l.side ≠ side) :
    sentBy side (history ++ [l]) = sentBy side history := by
  rw [sentBy, effectsOf_concat_of_ne h, sentBy]

theorem receivedBy_concat_of_eq (h : l.side = side) :
    receivedBy side (history ++ [l]) = receivedBy side history ++ receives l.effects := by
  rw [receivedBy, effectsOf_concat_of_eq h]
  simp [receivedBy, receives]

theorem receivedBy_concat_of_ne (h : l.side ≠ side) :
    receivedBy side (history ++ [l]) = receivedBy side history := by
  rw [receivedBy, effectsOf_concat_of_ne h, receivedBy]

end Histories

namespace Duplex

variable {Φ σ : Type} {P : Platform Φ} {post : Side → Uuid → σ → Except Exception Unit × σ}
  {x y : Duplex Φ σ} {l : DuplexLabel}

/-- What a step does: one side handles an event, the other is left alone. -/
theorem Step.handle (h : Step P post x l y) :
    (x.ends l.side).handle P (post l.side) l.event x.surroundings
      = (l.effects, y.ends l.side, y.surroundings) := by
  obtain ⟨-, hl, rfl⟩ := h
  refine Prod.ext (congrArg DuplexLabel.effects hl).symm ?_
  simp [next]

theorem Step.ends_peer (h : Step P post x l y) : y.ends l.side.peer = x.ends l.side.peer := by
  obtain ⟨-, -, rfl⟩ := h
  exact Function.update_of_ne (Side.peer_ne _) _ _

theorem Step.channels_self (h : Step P post x l y) :
    y.channels l.side = x.channels l.side ++ (sends l.effects).map Prod.snd := by
  obtain ⟨-, hl, rfl⟩ := h
  rw [hl]
  exact if_pos rfl

/-- A frame that arrives leaves the channel it was in. -/
theorem Step.channels_peer (h : Step P post x l y) :
    (∃ frame : Frame, l.event = .receiveData frame.1 frame.2 ∧
        x.channels l.side.peer = frame :: y.channels l.side.peer) ∨
      (∀ magicNumber encodedPayload, l.event ≠ .receiveData magicNumber encodedPayload) ∧
        y.channels l.side.peer = x.channels l.side.peer := by
  obtain ⟨henabled, -, rfl⟩ := h
  have hchannels : (x.next P post l.side l.event).2.channels l.side.peer
      = match l.event with
        | .receiveData .. => (x.channels l.side.peer).tail
        | _ => x.channels l.side.peer := if_neg (Side.peer_ne _)
  rw [hchannels]
  cases hevent : l.event with
  | receiveData magicNumber encodedPayload =>
    rw [hevent] at henabled
    exact .inl ⟨(magicNumber, encodedPayload), rfl, (List.cons_head?_tail henabled).symm⟩
  | _ => exact .inr ⟨nofun, rfl⟩

/-! ## The two directions -/

/-- Both ends have the key, and a `Client_hello` on its way out is the one of its connection. -/
def Honest (P : Platform Φ) (applicationKey : Bytes) (x : Duplex Φ σ) : Prop :=
  ∀ side, (x.ends side).applicationKey = applicationKey ∧ (x.ends side).HelloReady P

theorem Honest.step {applicationKey : Bytes} (h : x.Honest P applicationKey)
    (hstep : Step P post x l y) : y.Honest P applicationKey := by
  intro side
  rcases Side.eq_or_eq_peer side l.side with rfl | rfl
  · have hy : y.ends l.side
        = ((x.ends l.side).handle P (post l.side) l.event x.surroundings).2.1 := by
      rw [hstep.handle]
    rw [hy]
    exact ⟨(InterserverConnection.applicationKey_handle P _ _ _ _).trans (h l.side).1,
      InterserverConnection.helloReady_handle (h l.side).2 _ _⟩
  · rw [hstep.ends_peer]
    exact h _

variable {applicationKey : Bytes} {InStep : Φ → Φ → Prop}

/-- The direction from a side to its peer. -/
abbrev Conveys (h : P.filter.KeepsInStep InStep) (applicationKey : Bytes) (side : Side)
    (history : List DuplexLabel) (x : Duplex Φ σ) : Prop :=
  Conveyed h applicationKey (x.ends side) (x.ends side.peer) (x.channels side)
    (sentBy side history) (receivedBy side.peer history)

variable {h : P.filter.KeepsInStep InStep} {side : Side} {history : List DuplexLabel}

/-- The sender's steps. -/
theorem Conveys.sender (hx : x.Honest P applicationKey)
    (hconveys : Conveys h applicationKey l.side history x) (hstep : Step P post x l y) :
    Conveys h applicationKey l.side (history ++ [l]) y := by
  have hsender := Conveyed.sender_handle (hx l.side).1 (hx l.side).2 hconveys (post l.side) l.event
    x.surroundings
  rw [hstep.handle] at hsender
  rwa [Conveys, hstep.ends_peer, hstep.channels_self, sentBy_concat_of_eq rfl,
    receivedBy_concat_of_ne (Side.peer_ne _).symm]

/-- The receiver's steps. -/
theorem Conveys.receiver (hx : x.Honest P applicationKey)
    (hconveys : Conveys h applicationKey side history x) (hstep : Step P post x l y)
    (hside : l.side = side.peer) : Conveys h applicationKey side (history ++ [l]) y := by
  have hpeer : l.side.peer = side := by rw [hside, Side.peer_peer]
  have hhandle := hside ▸ hstep.handle
  have hsender : y.ends side = x.ends side := hpeer ▸ hstep.ends_peer
  have hne : l.side ≠ side := by
    rw [hside]
    exact Side.peer_ne _
  rw [Conveys, hsender, sentBy_concat_of_ne hne, receivedBy_concat_of_eq hside]
  rcases hpeer ▸ hstep.channels_peer with ⟨frame, hevent, hchannel⟩ | ⟨hevent, hchannel⟩
  · rw [Conveys, hchannel] at hconveys
    rw [hevent] at hhandle
    obtain ⟨heffects, hend⟩ := Prod.mk.inj hhandle
    rw [← heffects, ← (Prod.mk.inj hend).1, show receives [] = [] from rfl, List.append_nil]
    exact hconveys.deliver
  · have hreceiver := Conveyed.receiver_handle (hx side.peer).1 (hx side.peer).2 hconveys
      (post side.peer) hevent x.surroundings
    rw [hhandle] at hreceiver
    rwa [hchannel]

/-- **One step keeps a direction conveyed.** -/
theorem Conveys.step (hx : x.Honest P applicationKey)
    (hconveys : Conveys h applicationKey side history x) (hstep : Step P post x l y) :
    Conveys h applicationKey side (history ++ [l]) y := by
  rcases Side.eq_or_eq_peer l.side side with rfl | hpeer
  · exact hconveys.sender hx hstep
  · exact hconveys.receiver hx hstep hpeer

/-! ## Whole runs -/

theorem Started.honest (hx : x.Started P applicationKey) : x.Honest P applicationKey := by
  intro side
  cases side with
  | server =>
    rw [hx.server]
    exact ⟨rfl, nofun⟩
  | client =>
    obtain ⟨connectionUuid, timestamp, optionsReq, hset, hclient⟩ := hx.client
    rw [hclient]
    exact ⟨rfl, InterserverConnection.helloReady_layer7ClientSayHello hset timestamp optionsReq⟩

theorem Started.conveys (hx : x.Started P applicationKey) (side : Side) :
    Conveys h applicationKey side [] x := by
  have hquiet (side : Side) : (x.ends side).incoming = [] ∧
      (x.ends side).requireMessageFilter P
        = P.filter.make (P.calculateChecksum applicationKey saltAuthentication 0 0) := by
    cases side with
    | server =>
      rw [hx.server]
      exact ⟨rfl, rfl⟩
    | client =>
      obtain ⟨connectionUuid, timestamp, optionsReq, -, hclient⟩ := hx.client
      rw [hclient, InterserverConnection.layer7ClientSayHello_new]
      exact ⟨rfl, rfl⟩
  rw [Conveys, hx.channels]
  exact .start (hquiet side.peer).1 (hquiet side).2 (hquiet side.peer).2

/-- **Both directions are in step along every run.** -/
theorem Started.run (hx : x.Started P applicationKey) (hrun : Lts.Run (Step P post) x history y) :
    y.Honest P applicationKey ∧ ∀ side, Conveys h applicationKey side history y := by
  refine hrun.historyInvariant (J := fun history y => y.Honest P applicationKey ∧
    ∀ side, Conveys h applicationKey side history y) ?_ ⟨hx.honest, hx.conveys⟩
  rintro ls s l t ⟨hhonest, hconveys⟩ hstep
  exact ⟨hhonest.step hstep, fun side => (hconveys side).step hhonest hstep⟩

/-! ## The filters of the program -/

/-- **The encoder and the decoder never drift apart.**  In every run, in both directions, whatever
is sent before, between and after the hellos: what the receiver has read is what the sender sent,
in order; a user-defined frame that comes up is read, and as the message that was sent next; and a
message that is not empty is sent when it comes up. -/
theorem decoder_follows_encoder (aes : AesEncrypt) (z : Zlib) (P : Platform MessageFilter)
    (post : Side → Uuid → σ → Except Exception Unit × σ) {x y : Duplex MessageFilter σ}
    {applicationKey : Bytes} (hx : x.Started (P.withFilter aes z) applicationKey)
    {ls : List DuplexLabel} (hrun : Lts.Run (Step (P.withFilter aes z) post) x ls y)
    (side : Side) :
    receivedBy side.peer ls <+: sentBy side ls ∧
      ∀ pre l rest, ls = pre ++ l :: rest →
        ∀ t t', Lts.Run (Step (P.withFilter aes z) post) x pre t →
          Step (P.withFilter aes z) post t l t' →
            (l.side = side.peer →
              ∀ frame, (t.ends side.peer).handledFrame l.event = some frame →
                isUser frame.1 = true →
                  ∃ message, receives l.effects = [message] ∧
                    receivedBy side.peer pre ++ [message] <+: sentBy side pre) ∧
              (l.side = side →
                ∀ message, (t.ends side).takenMessage l.event = some message →
                  isUser message.1 = true → message.2 ≠ [] →
                    ∃ frame, sends l.effects = [(message, frame)]) := by
  have hkeeps : (P.withFilter aes z).filter.KeepsInStep (MessageFilter.InStep z) :=
    MessageFilter.keepsInStep aes z
  refine ⟨((hx.run hrun (h := hkeeps)).2 side).isPrefix, ?_⟩
  rintro pre l rest - t t' hpre hstep
  obtain ⟨hhonest, hconveys⟩ := hx.run hpre (h := hkeeps)
  refine ⟨?_, ?_⟩
  · intro hside frame hframe huser
    have hnext := Conveyed.next_received (hhonest side.peer).1 (hconveys side) (post side.peer)
      hframe huser t.surroundings
    rwa [show (t.ends side.peer).handle _ (post side.peer) l.event t.surroundings = _ from
      hside ▸ hstep.handle] at hnext
  · rintro rfl message hmessage huser hpayload
    obtain ⟨encodedPayload, filter, hencode⟩ := MessageFilter.encode_of_ne_nil aes z
      ((t.ends l.side).requireMessageFilter (P.withFilter aes z)) hpayload
    have hsends := InterserverConnection.sends_of_takenMessage (P := P.withFilter aes z)
      (post l.side) hmessage huser hencode t.surroundings
    rw [hstep.handle] at hsends
    exact ⟨_, hsends⟩

end Duplex

/-- A connection just made and one that just said hello. -/
def trialDuplex : Duplex MessageFilter Unit where
  ends
    | .server => .new trialKey
    | .client => ((InterserverConnection.new trialKey).layer7ClientSayHello trialPlatform trialUuid
        trialTimestamp []).2
  channels _ := []
  surroundings := ()

theorem trialDuplex_started : trialDuplex.Started trialPlatform trialKey :=
  ⟨rfl, ⟨trialUuid, trialTimestamp, [], by decide, rfl⟩, fun _ => rfl⟩

def postsNothing (_ : Side) (_ : Uuid) (s : Unit) : Except Exception Unit × Unit := (.ok (), s)

/-- A request that the client sends right behind its hello, and the response to it. -/
def trialExchange : List (Side × Event) :=
  [(.client, .sendRequest ⟨5, [1]⟩ none), (.client, .work), (.client, .work),
    (.server, .receiveData ClientHello.id (clientHelloFormat.serialize
      ⟨trialUuid, trialTimestamp,
        trialPlatform.calculateChecksum trialKey saltClientHello trialUuid trialTimestamp, []⟩)),
    (.server, .receiveData 0x4005 [0xd6, 0x38, 0xea, 0x70, 0xa2, 0xcd, 0xf7, 0x43, 0xf1, 0xf4]),
    (.server, .work), (.server, .work), (.server, .work),
    (.server, .perform ⟨5, true, 1, [1]⟩ (.ok ⟨0, "", 6, [4]⟩)), (.server, .work),
    (.client, .receiveData ServerHello.id (serverHelloFormat.serialize
      ⟨trialPlatform.calculateChecksum trialKey saltServerHello trialUuid trialTimestamp, []⟩)),
    (.client, .receiveData 0x8006
      [0xcf, 0x37, 0x9c, 0xdd, 0x6d, 0x12, 0x46, 0x10, 0x54, 0x80, 0xb1, 0x15]),
    (.client, .work), (.client, .work)]

def trialNext (x : Duplex MessageFilter Unit) (e : Side × Event) :
    DuplexLabel × Duplex MessageFilter Unit :=
  x.next trialPlatform postsNothing e.1 e.2

/-- The history of some events between the two. -/
def trialHistory (events : List (Side × Event)) : List DuplexLabel :=
  Lts.trace trialNext trialDuplex events

theorem trialExchange_run :
    Lts.Run (Duplex.Step trialPlatform postsNothing) trialDuplex (trialHistory trialExchange)
      (Lts.final trialNext trialDuplex trialExchange) :=
  Lts.Run.of_admits trialNext (fun x e => x.Enabled e.1 e.2) (fun h => ⟨h, rfl, rfl⟩) trialDuplex
    trialExchange (by decide +kernel)

theorem Duplex.decoder_follows_encoder_trial :
    receivedBy .server (trialHistory trialExchange) <+:
      sentBy .client (trialHistory trialExchange) ∧
      (receivedBy .server (trialHistory trialExchange)).getLast? = some (0x4005, [1, 1]) :=
  ⟨(decoder_follows_encoder trialAes storedZlib trialPlatform postsNothing trialDuplex_started
    trialExchange_run .client).1, by decide +kernel⟩

end Circe.Common
