import Circe.Common.Duplex

/-!
# Common/HandshakeOptions — the options both ends hold after the handshake

The list given to `layer7_client_say_hello` goes to the server in the `Client_hello`, and back to
the client in the `Server_hello`.  On its way through `server_accept_hello` each value is moved into
the `Server_hello` before the list is kept: the client ends up with the list it was given, the
server with its keys and no values (`Agreed.step`).
-/

namespace Circe.Common

/-- The values of a key. -/
def OptionMap.values (options : OptionMap) (key : Bytes) : List Bytes :=
  (options.filter fun o => o.1 = key).map Prod.snd

/-- The same keys with the same values. -/
def OptionMap.Same (options options' : OptionMap) : Prop :=
  ∀ key, values options key = values options' key

/-- The list in a hello. -/
def keyValues (options : OptionMap) : List CommonKeyValue := options.map fun o => ⟨o.1, o.2⟩

theorem optionsOf_keyValues (options : OptionMap) :
    InterserverConnection.optionsOf (keyValues options) = options :=
  (List.map_map ..).trans (List.map_id _)

/-- The list with its values moved away. -/
def movedFrom (options : OptionMap) : OptionMap := options.map fun o => (o.1, [])

/-- **A list with its values moved away is the same only if there were none.** -/
theorem same_movedFrom_iff (options : OptionMap) :
    OptionMap.Same (movedFrom options) options ↔ ∀ o ∈ options, o.2 = [] := by
  constructor
  · intro h o ho
    have hmem : o.2 ∈ OptionMap.values options o.1 :=
      List.mem_map.mpr ⟨o, List.mem_filter.mpr ⟨ho, by simp⟩, rfl⟩
    rw [← h o.1] at hmem
    obtain ⟨o', ho', hvalue⟩ := List.mem_map.mp hmem
    obtain ⟨o'', -, rfl⟩ := List.mem_map.mp (List.mem_filter.mp ho').1
    exact hvalue.symm
  · intro h key
    have hsame : movedFrom options = options := by
      refine (List.map_congr_left fun o ho => ?_).trans (List.map_id _)
      exact Prod.ext rfl (h o ho).symm
    rw [hsame]

namespace InterserverConnection

variable {Φ σ : Type} {P : Platform Φ} (post : Uuid → σ → Except Exception Unit × σ)

/-- `get_option`, `get` being what `Option_map::get` makes of the values of a key. -/
def getOption (get : List Bytes → Bytes) (key : Bytes) (c : InterserverConnection Φ) :
    Except Exception Bytes :=
  if c.isConnectionUuidSet then .ok (get (c.options.values key))
  else .error (.exception "Interserver_connection has not been fully established")

/-! ## What goes out -/

/-- The `Server_hello` that answers a `Client_hello`. -/
def answerTo (P : Platform Φ) (applicationKey : Bytes) (msg : ClientHello) : Frame :=
  (ServerHello.id, P.serverHello.serialize
    ⟨P.calculateChecksum applicationKey saltServerHello msg.connectionUuid msg.timestamp,
      keyValues (optionsOf msg.optionsReq)⟩)

/-- Where a message on its way out or just sent comes from. -/
inductive Launched (P : Platform Φ) (c : InterserverConnection Φ) (event : Event)
    (message : Frame) : Prop
  | waiting (h : message ∈ c.outgoing)
  | user (h : isUser message.1 = true)
  | answer (encodedPayload : Bytes) (msg : ClientHello)
      (hframe : c.handledFrame event = some (ClientHello.id, encodedPayload))
      (hverifies : c.VerifiesClientHello P encodedPayload msg)
      (hunset : c.isConnectionUuidSet = false)
      (h : message = answerTo P c.applicationKey msg)

theorem outgoing_of_workhorse {c : InterserverConnection Φ} {magicNumber : UInt16}
    {encodedPayload : Bytes} {rest : List Task}
    (hhead : c.workhorse = .inflateAndDispatch magicNumber encodedPayload :: rest) :
    ({ c with workhorse := rest }).outgoing = c.outgoing := by
  simp [outgoing, hhead]

/-- The messages on their way out after a frame was handled. -/
theorem outgoing_tryInflateAndDispatch (magicNumber : UInt16) (encodedPayload : Bytes)
    (c : InterserverConnection Φ) (s : σ) :
    sends (c.tryInflateAndDispatch P post magicNumber encodedPayload s).effects = [] ∧
      ((c.tryInflateAndDispatch P post magicNumber encodedPayload s).connection.outgoing
          = c.outgoing ∨
        magicNumber = ClientHello.id ∧ c.isConnectionUuidSet = false ∧
          ∃ msg, c.VerifiesClientHello P encodedPayload msg ∧
            (c.tryInflateAndDispatch P post magicNumber encodedPayload s).connection.outgoing
              = c.outgoing ++ [answerTo P c.applicationKey msg]) := by
  have hspec := tryInflateAndDispatch_spec P post magicNumber encodedPayload c s
  generalize c.tryInflateAndDispatch P post magicNumber encodedPayload s = o at hspec ⊢
  rcases hspec with ⟨hmagic, h⟩ | ⟨-, h⟩ | ⟨messageFilter, e, -⟩ | ⟨magicPayload, filter, -, -⟩
  · rcases h with ⟨e, effects, heffects⟩ | ⟨msg, hverifies, hunset, e⟩ |
      ⟨msg, hverifies, hunset, -, -⟩
    · exact ⟨(launches_of_hello (P := P) heffects).1, .inl rfl⟩
    · exact ⟨rfl, .inr ⟨hmagic, hunset, msg, hverifies, outgoing_launchDeflateAndSend c _ _⟩⟩
    · exact ⟨rfl, .inr ⟨hmagic, hunset, msg, hverifies, outgoing_launchDeflateAndSend c _ _⟩⟩
  · rcases h with ⟨e, effects, heffects⟩ | ⟨msg, -, -, e⟩ | ⟨msg, -, -, -⟩
    · exact ⟨(launches_of_hello (P := P) heffects).1, .inl rfl⟩
    · exact ⟨rfl, .inl rfl⟩
    · exact ⟨rfl, .inl rfl⟩
  · exact ⟨rfl, .inl rfl⟩
  · exact ⟨(sends_dispatch P magicNumber magicPayload _).1, .inl (outgoing_dispatch ..)⟩

/-- **Any event, on the messages on their way out and those just sent.** -/
theorem launched_handle {c : InterserverConnection Φ} {event : Event} {s : σ} {message : Frame}
    (h : message ∈ (sends (c.handle P post event s).1).map Prod.fst
      ++ (c.handle P post event s).2.1.outgoing) : Launched P c event message := by
  cases hquiet : isQuiet event with
  | true =>
    obtain ⟨hsends, hlaunched⟩ := launched_of_isQuiet P post c hquiet s
    rw [hsends, hlaunched, List.map_nil, List.nil_append] at h
    rcases List.mem_append.mp h with hold | hnew
    · exact .waiting hold
    · exact .user (isUser_of_mem_launches (valid_handle c event s) hnew)
  | false =>
    cases event with
    | receiveData magicNumber encodedPayload =>
      refine .waiting ?_
      simpa [handle, layer5OnReceiveData, outgoing, sends] using h
    | work =>
      cases hhead : c.workhorse with
      | nil =>
        refine .waiting ?_
        simpa [handle, work, hhead, sends] using h
      | cons task rest =>
        cases task with
        | deflateAndSend magicNumber magicPayload =>
          have houtgoing : c.outgoing
              = (magicNumber, magicPayload) :: ({ c with workhorse := rest }).outgoing := by
            simp [outgoing, hhead]
          obtain ⟨hrest, ⟨heffects, -⟩ | ⟨encodedPayload, heffects⟩⟩ :=
            deflateAndSend_cases (P := P) magicNumber magicPayload { c with workhorse := rest }
          · simp only [handle, work, hhead, heffects, hrest] at h
            exact .waiting (houtgoing ▸ List.mem_cons_of_mem _ h)
          · simp only [handle, work, hhead, heffects, hrest] at h
            exact .waiting (houtgoing ▸ h)
        | inflateAndDispatch magicNumber encodedPayload =>
          have houtgoing := outgoing_of_workhorse hhead
          cases hframe : c.handledFrame .work with
          | none =>
            have hdown : c.hasBeenShutdown = true := by simpa [handledFrame, hhead] using hframe
            refine .waiting (houtgoing ▸ ?_)
            simp only [handle, work, hhead, inflateAndDispatch] at h
            rwa [if_pos (by exact hdown)] at h
          | some frame =>
            obtain ⟨rest', -, -, hhead', hhandle⟩ := handle_of_handledFrame P post hframe s
            obtain ⟨hsends, hout⟩ := outgoing_tryInflateAndDispatch (P := P) post frame.1 frame.2
              { c with workhorse := rest' } s
            rw [hhandle _ rfl, hsends, outgoing_shutdownIfThrown, List.map_nil,
              List.nil_append] at h
            rw [outgoing_of_workhorse hhead'] at hout
            rcases hout with hsame | ⟨hmagic, hunset, msg, hverifies, hanswer⟩
            · exact .waiting (hsame ▸ h)
            · rw [hanswer] at h
              rcases List.mem_append.mp h with hold | hnew
              · exact .waiting hold
              · refine .answer frame.2 msg ?_ ⟨hverifies.reads, hverifies.checksum⟩ hunset
                  (List.mem_singleton.mp hnew)
                rw [hframe, ← hmagic]
    | _ => cases hquiet

end InterserverConnection

/-! ## What the two ends take from each other -/

open InterserverConnection

/-- What `layer7_client_say_hello` was called with, and what it drew. -/
structure Hello where
  applicationKey : Bytes
  connectionUuid : Uuid
  timestamp : UInt64
  optionsReq : OptionMap

namespace Hello

variable {Φ : Type} (P : Platform Φ) (hello : Hello)

def clientHello : ClientHello :=
  ⟨hello.connectionUuid, hello.timestamp,
    P.calculateChecksum hello.applicationKey saltClientHello hello.connectionUuid hello.timestamp,
    keyValues hello.optionsReq⟩

/-- The one hello each side sends. -/
def frame : Side → Frame
  | .client => (ClientHello.id, P.clientHello.serialize (hello.clientHello P))
  | .server => answerTo P hello.applicationKey (hello.clientHello P)

variable {P hello}

/-- A `Client_hello` that a side sent is the client's. -/
theorem eq_clientHello {side : Side} {encodedPayload : Bytes} {msg : ClientHello}
    {c : InterserverConnection Φ} (hframe : (ClientHello.id, encodedPayload) = hello.frame P side)
    (hverifies : c.VerifiesClientHello P encodedPayload msg) :
    side = .client ∧ msg = hello.clientHello P := by
  cases side with
  | server => exact absurd (congrArg Prod.fst hframe) (by simp only [frame, answerTo]; decide)
  | client =>
    have hpayload : encodedPayload = _ := congrArg Prod.snd hframe
    obtain ⟨rest, hread⟩ := hverifies.reads
    rw [hpayload, frame, Codec.deserialize_serialize_self] at hread
    exact ⟨rfl, (Prod.mk.inj (Except.ok.inj hread)).1.symm⟩

/-- A `Server_hello` that a side sent is the server's. -/
theorem options_of_serverHello {side : Side} {encodedPayload : Bytes} {msg : ServerHello}
    {c : InterserverConnection Φ} (hframe : (ServerHello.id, encodedPayload) = hello.frame P side)
    (hverifies : c.VerifiesServerHello P encodedPayload msg) :
    side = .server ∧ optionsOf msg.optionsResp = hello.optionsReq := by
  cases side with
  | client => exact absurd (congrArg Prod.fst hframe) (by simp only [frame]; decide)
  | server =>
    have hpayload : encodedPayload = _ := congrArg Prod.snd hframe
    obtain ⟨rest, hread⟩ := hverifies.reads
    rw [hpayload, frame, answerTo, Codec.deserialize_serialize_self] at hread
    obtain ⟨rfl, -⟩ := Prod.mk.inj (Except.ok.inj hread)
    refine ⟨rfl, ?_⟩
    simp only [clientHello, optionsOf_keyValues]

end Hello

namespace Duplex

variable {Φ σ : Type} {P : Platform Φ} {post : Side → Uuid → σ → Except Exception Unit × σ}
  {x y : Duplex Φ σ} {l : DuplexLabel} {history : List DuplexLabel} {hello : Hello}
  {InStep : Φ → Φ → Prop} {h : P.filter.KeepsInStep InStep}

/-- An acceptor's connection and one that said this hello. -/
structure SaidHello (P : Platform Φ) (hello : Hello) (x : Duplex Φ σ) : Prop where
  server : x.ends .server = .new hello.applicationKey
  isSet : hello.connectionUuid ≠ 0
  client : x.ends .client = ((new hello.applicationKey).layer7ClientSayHello P hello.connectionUuid
    hello.timestamp hello.optionsReq).2
  channels : ∀ side, x.channels side = []

theorem SaidHello.started (hx : x.SaidHello P hello) : x.Started P hello.applicationKey :=
  ⟨hx.server, ⟨_, _, _, hx.isSet, hx.client⟩, hx.channels⟩

/-- What a client holds. -/
structure ClientHolds (hello : Hello) (c : InterserverConnection Φ) : Prop where
  connectionUuid : c.connectionUuid = hello.connectionUuid
  timestamp : c.timestamp = hello.timestamp
  options : c.authenticated = true → c.options = hello.optionsReq

/-- What a server holds once it accepted the hello. -/
structure ServerHolds (hello : Hello) (c : InterserverConnection Φ) : Prop where
  connectionUuid : c.connectionUuid = hello.connectionUuid
  timestamp : c.timestamp = hello.timestamp
  options : c.options = movedFrom hello.optionsReq

/-- **The handshake so far**: each side sends no hello but its own, and holds what the other's
gave. -/
structure Agreed (P : Platform Φ) (hello : Hello) (history : List DuplexLabel) (x : Duplex Φ σ) :
    Prop where
  said : ∀ side, ∀ message ∈ sentBy side history ++ (x.ends side).outgoing,
    isUser message.1 = false → message = hello.frame P side
  client : ClientHolds hello (x.ends .client)
  server : (x.ends .server).authenticated = true → ServerHolds hello (x.ends .server)

theorem ClientHolds.of_standing {c c' : InterserverConnection Φ} (hc : ClientHolds hello c)
    (hstanding : c'.standing = c.standing) : ClientHolds hello c' :=
  ⟨(congrArg Standing.connectionUuid hstanding).trans hc.connectionUuid,
    (congrArg Standing.timestamp hstanding).trans hc.timestamp, fun hauthenticated =>
      (congrArg Standing.options hstanding).trans
        (hc.options ((congrArg Standing.authenticated hstanding).symm.trans hauthenticated))⟩

theorem ServerHolds.of_standing {c c' : InterserverConnection Φ} (hc : ServerHolds hello c)
    (hstanding : c'.standing = c.standing) : ServerHolds hello c' :=
  ⟨(congrArg Standing.connectionUuid hstanding).trans hc.connectionUuid,
    (congrArg Standing.timestamp hstanding).trans hc.timestamp,
    (congrArg Standing.options hstanding).trans hc.options⟩

/-- A hello that comes up is the other side's. -/
theorem Agreed.handled (hx : x.Agreed P hello history) {side : Side}
    (hconveys : Conveys h hello.applicationKey side.peer history x) {event : Event} {frame : Frame}
    (hframe : (x.ends side).handledFrame event = some frame)
    (hhello : frame.1 = ClientHello.id ∨ frame.1 = ServerHello.id) :
    frame = hello.frame P side.peer := by
  refine hx.said side.peer frame (List.mem_append_left _ ?_) ?_
  · have hframe : (x.ends side.peer.peer).handledFrame event = some frame := by
      rwa [Side.peer_peer]
    exact Conveyed.hello_mem_sent hconveys hframe hhello
  · rcases hhello with hclient | hserver
    · exact hclient ▸ not_isUser_clientHello
    · exact hserver ▸ not_isUser_serverHello

/-- No side sends another hello than its own. -/
theorem Agreed.said_step (hx : x.Agreed P hello history) (hhonest : x.Honest P hello.applicationKey)
    (hconveys : ∀ side, Conveys h hello.applicationKey side history x)
    (hstep : Step P post x l y) (side : Side) {message : Frame}
    (hmem : message ∈ sentBy side (history ++ [l]) ++ (y.ends side).outgoing)
    (huser : isUser message.1 = false) : message = hello.frame P side := by
  rcases Side.eq_or_eq_peer side l.side with rfl | rfl
  · rw [sentBy_concat_of_eq rfl, List.append_assoc] at hmem
    rcases List.mem_append.mp hmem with hold | hnew
    · exact hx.said _ message (List.mem_append_left _ hold) huser
    · have hlaunched : Launched P (x.ends l.side) l.event message := by
        refine launched_handle (post l.side) (s := x.surroundings) ?_
        rwa [hstep.handle]
      rcases hlaunched with hwaiting | huser' | ⟨encodedPayload, msg, hframe, hverifies, -, rfl⟩
      · exact hx.said _ message (List.mem_append_right _ hwaiting) huser
      · exact absurd (huser'.symm.trans huser) (by decide)
      · obtain ⟨hpeer, rfl⟩ := Hello.eq_clientHello
          (hx.handled (hconveys _) hframe (.inl rfl)) hverifies
        rw [(hhonest l.side).1, show l.side = .server by rw [← Side.peer_peer l.side, hpeer]; rfl]
        rfl
  · rw [sentBy_concat_of_ne (Side.peer_ne _).symm, hstep.ends_peer] at hmem
    exact hx.said _ message hmem huser

/-- **One step of the handshake.** -/
theorem Agreed.step (hset : hello.connectionUuid ≠ 0) (hx : x.Agreed P hello history)
    (hhonest : x.Honest P hello.applicationKey)
    (hconveys : ∀ side, Conveys h hello.applicationKey side history x)
    (hstep : Step P post x l y) : y.Agreed P hello (history ++ [l]) := by
  refine ⟨fun side message hmem huser => hx.said_step hhonest hconveys hstep side hmem
    huser, ?_, ?_⟩
  · rcases Side.eq_or_eq_peer .client l.side with hside | hside
    · have hgreeted := greeted_handle P (post l.side) (x.ends l.side) l.event x.surroundings
      rw [hstep.handle, ← hside] at hgreeted
      dsimp only at hgreeted
      generalize y.ends .client = c' at hgreeted ⊢
      generalize y.surroundings = s' at hgreeted
      rcases hgreeted with ⟨hstanding, -⟩ | ⟨_, _, -, -, hunset, -⟩ |
        ⟨encodedPayload, msg, hframe, hverifies, -, authenticated, hstanding, -⟩
      · exact hx.client.of_standing hstanding
      · rw [isConnectionUuidSet, hx.client.connectionUuid] at hunset
        exact absurd hunset (by simpa using hset)
      · have hoptions := (Hello.options_of_serverHello
          (hx.handled (hconveys _) hframe (.inr rfl)) hverifies).2
        exact ⟨(congrArg Standing.connectionUuid hstanding).trans hx.client.connectionUuid,
          (congrArg Standing.timestamp hstanding).trans hx.client.timestamp,
          fun _ => (congrArg Standing.options hstanding).trans hoptions⟩
    · rw [hside, hstep.ends_peer, ← hside]
      exact hx.client
  · rcases Side.eq_or_eq_peer .server l.side with hside | hside
    · have hgreeted := greeted_handle P (post l.side) (x.ends l.side) l.event x.surroundings
      rw [hstep.handle, ← hside] at hgreeted
      dsimp only at hgreeted
      generalize y.ends .server = c' at hgreeted ⊢
      generalize y.surroundings = s' at hgreeted
      rcases hgreeted with ⟨hstanding, -⟩ |
        ⟨encodedPayload, msg, hframe, hverifies, -, authenticated, hstanding, -⟩ |
        ⟨encodedPayload, msg, hframe, hverifies, -, -⟩
      · intro hauthenticated
        exact (hx.server ((congrArg Standing.authenticated hstanding).symm.trans
          hauthenticated)).of_standing hstanding
      · obtain ⟨-, rfl⟩ := Hello.eq_clientHello (hx.handled (hconveys _) hframe (.inl rfl))
          hverifies
        refine fun _ => ⟨congrArg Standing.connectionUuid hstanding,
          congrArg Standing.timestamp hstanding, (congrArg Standing.options hstanding).trans ?_⟩
        simp only [Hello.clientHello, optionsOf_keyValues]
        rfl
      · have hpeer := (Hello.options_of_serverHello
          (hx.handled (hconveys _) hframe (.inr rfl)) hverifies).1
        exact absurd hpeer (by decide)
    · rw [hside, hstep.ends_peer, ← hside]
      exact hx.server

theorem SaidHello.agreed (hx : x.SaidHello P hello) : x.Agreed P hello [] := by
  have hclient := hx.client
  rw [layer7ClientSayHello_new] at hclient
  refine ⟨fun side message hmem _ => ?_, ?_, ?_⟩
  · cases side with
    | server =>
      rw [hx.server] at hmem
      exact absurd hmem (List.not_mem_nil)
    | client =>
      rw [hclient] at hmem
      exact List.mem_singleton.mp hmem
  · rw [hclient]
    exact ⟨rfl, rfl, fun hauthenticated => absurd hauthenticated (by simp [new])⟩
  · rw [hx.server]
    exact fun hauthenticated => absurd hauthenticated (by simp [new])

/-- **The handshake along every run.** -/
theorem SaidHello.run (hx : x.SaidHello P hello) (h : P.filter.KeepsInStep InStep)
    (hrun : Lts.Run (Step P post) x history y) : y.Agreed P hello history := by
  induction hrun with
  | nil => exact hx.agreed
  | snoc hpre hlast ih =>
    obtain ⟨hhonest, hconveys⟩ := hx.started.run hpre (h := h)
    exact ih.step hx.isSet hhonest hconveys hlast

end Duplex

/-! ## Whether the two agree -/

/-- **Both ends hold the hello and the options** given to `layer7_client_say_hello`. -/
structure HandshakeAgrees {Φ : Type} (get : List Bytes → Bytes) (optionsReq : OptionMap)
    (client server : InterserverConnection Φ) : Prop where
  connectionUuid : server.connectionUuid = client.connectionUuid
  timestamp : server.timestamp = client.timestamp
  serverOptions : server.options.Same optionsReq
  clientOptions : client.options.Same optionsReq
  getOption : ∀ key, server.getOption get key = client.getOption get key

/-- **The two agree exactly on options without values.** -/
theorem handshakeAgrees_iff {σ : Type} (get : List Bytes → Bytes) (aes : AesEncrypt) (z : Zlib)
    (P : Platform MessageFilter) (post : Side → Uuid → σ → Except Exception Unit × σ)
    {x y : Duplex MessageFilter σ} {hello : Hello} (hx : x.SaidHello (P.withFilter aes z) hello)
    {history : List DuplexLabel}
    (hrun : Lts.Run (Duplex.Step (P.withFilter aes z) post) x history y)
    (hclient : (y.ends .client).authenticated = true)
    (hserver : (y.ends .server).authenticated = true) :
    HandshakeAgrees get hello.optionsReq (y.ends .client) (y.ends .server) ↔
      ∀ o ∈ hello.optionsReq, o.2 = [] := by
  obtain ⟨-, hclientHolds, hserverHolds⟩ := hx.run (MessageFilter.keepsInStep aes z) hrun
  have hserverHolds := hserverHolds hserver
  have hoptions := hclientHolds.options hclient
  constructor
  · intro h
    have hsame := h.serverOptions
    rw [hserverHolds.options] at hsame
    exact (same_movedFrom_iff hello.optionsReq).mp hsame
  · intro h
    have hsame := (same_movedFrom_iff hello.optionsReq).mpr h
    have huuid := hserverHolds.connectionUuid.trans hclientHolds.connectionUuid.symm
    refine ⟨huuid, hserverHolds.timestamp.trans hclientHolds.timestamp.symm, ?_, ?_, fun key => ?_⟩
    · rwa [hserverHolds.options]
    · rw [hoptions]
      exact fun _ => rfl
    · rw [getOption, getOption, isConnectionUuidSet, isConnectionUuidSet, huuid,
        hserverHolds.options, hoptions, hsame key]

/-! ## An option with a value -/

/-- A hello with some options. -/
def optionsHello (optionsReq : OptionMap) : Hello :=
  ⟨trialKey, trialUuid, trialTimestamp, optionsReq⟩

/-- A connection just made, and one that just said this hello. -/
def trialGreeting (optionsReq : OptionMap) : Duplex MessageFilter Unit where
  ends
    | .server => .new trialKey
    | .client => ((InterserverConnection.new trialKey).layer7ClientSayHello trialPlatform trialUuid
        trialTimestamp optionsReq).2
  channels _ := []
  surroundings := ()

theorem trialGreeting_saidHello (optionsReq : OptionMap) :
    (trialGreeting optionsReq).SaidHello trialPlatform (optionsHello optionsReq) :=
  ⟨rfl, (by decide : trialUuid ≠ 0), rfl, fun _ => rfl⟩

/-- The two hellos go to and fro. -/
def trialHandshake (optionsReq : OptionMap) : List (Side × Event) :=
  let answer := (optionsHello optionsReq).frame trialPlatform
  [(.client, .work), (.server, .receiveData (answer .client).1 (answer .client).2),
    (.server, .work), (.server, .work),
    (.client, .receiveData (answer .server).1 (answer .server).2), (.client, .work)]

def shaken (optionsReq : OptionMap) : Duplex MessageFilter Unit :=
  Lts.final trialNext (trialGreeting optionsReq) (trialHandshake optionsReq)

theorem shaken_run (optionsReq : OptionMap)
    (h : Lts.Admits trialNext (fun x e => x.Enabled e.1 e.2) (trialGreeting optionsReq)
      (trialHandshake optionsReq)) :
    Lts.Run (Duplex.Step trialPlatform postsNothing) (trialGreeting optionsReq)
      (Lts.trace trialNext (trialGreeting optionsReq) (trialHandshake optionsReq))
      (shaken optionsReq) :=
  Lts.Run.of_admits trialNext (fun x e => x.Enabled e.1 e.2) (fun h => ⟨h, rfl, rfl⟩)
    (trialGreeting optionsReq) (trialHandshake optionsReq) h

/-- One option with a value: the server does not have it. -/
def valuedOption : OptionMap := [(asciiBytes "a", asciiBytes "b")]

theorem not_handshakeAgrees :
    (∃ history, Lts.Run (Duplex.Step trialPlatform postsNothing) (trialGreeting valuedOption)
      history
        (shaken valuedOption)) ∧
      ((shaken valuedOption).ends .client).authenticated = true ∧
        ((shaken valuedOption).ends .server).authenticated = true ∧
          ¬ HandshakeAgrees (fun values => values.headD []) valuedOption
            ((shaken valuedOption).ends .client) ((shaken valuedOption).ends .server) := by
  refine ⟨⟨_, shaken_run _ (by decide +kernel)⟩, by decide +kernel, by decide +kernel, fun h => ?_⟩
  exact absurd (h.serverOptions (asciiBytes "a")) (by decide +kernel)

theorem handshakeAgrees_trial :
    HandshakeAgrees (fun values => values.headD []) [(asciiBytes "a", [])]
      ((shaken [(asciiBytes "a", [])]).ends .client)
      ((shaken [(asciiBytes "a", [])]).ends .server) :=
  (handshakeAgrees_iff (fun values => values.headD []) trialAes storedZlib trialPlatform
    postsNothing
    (trialGreeting_saidHello _) (shaken_run [(asciiBytes "a", [])] (by decide +kernel))
    (by decide +kernel) (by decide +kernel)).mpr (by simp [optionsHello])

end Circe.Common
