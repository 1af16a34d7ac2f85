import Circe.Foundations.FlatMap
import Circe.Common.Platform
import Circe.Websocket.Delivery

/-!
# Foyer/Broadcast — one notification for the clients of many gates

A box sends a list of clients and a list of messages to a foyer server, which sorts the clients by
gate and sends every gate one notification; the gate sends the messages to each of its clients.
`broadcast_reaches_once` says what the clients get, whatever throws.
-/

namespace Circe

namespace Protocol

/-- `Common_websocket_frame`. -/
structure CommonWebsocketFrame where
  opcode : Int64
  payload : Bytes
deriving DecidableEq

end Protocol

open Protocol

/-! ## The servlet of the gate -/

namespace Gate

open Websocket

/-- `Protocol::Gate::Websocket_packed_broadcast_notification`. -/
structure WebsocketPackedBroadcastNotification where
  clients : List Uuid
  messages : List CommonWebsocketFrame
deriving DecidableEq

/-- What the servlet meets on a gate: which clients have a WebSocket session, what
`boost::numeric_cast` makes of an opcode, and which sends throw, by client and by position. -/
structure Clients where
  getWebsocketSession : Uuid → Bool
  opcodeOf : Int64 → Except String ℕ
  throwSend : Uuid → ℕ → Option String

inductive ClientEffect
  | send (clientUuid : Uuid) (opcode : ℕ) (payload : Bytes)
  | shutdown (clientUuid : Uuid) (statusCode : ℕ) (reason : String)
deriving DecidableEq

/-- Sending one client the messages, of which `sent` are sent already. -/
def Clients.sendMessages (env : Clients) (clientUuid : Uuid) :
    ℕ → List CommonWebsocketFrame → List ClientEffect
  | _, [] => []
  | sent, message :: messages =>
    match env.opcodeOf message.opcode, env.throwSend clientUuid sent with
    | .ok opcode, none =>
      .send clientUuid opcode message.payload :: env.sendMessages clientUuid (sent + 1) messages
    | .error what, _ | _, some what => [.shutdown clientUuid statusInternalError what]

/-- The servlet of `Websocket_packed_broadcast_notification`. -/
def Clients.websocketPackedBroadcastNotification (env : Clients)
    (req : WebsocketPackedBroadcastNotification) : List ClientEffect :=
  req.clients.flatMap fun clientUuid =>
    if env.getWebsocketSession clientUuid then env.sendMessages clientUuid 0 req.messages else []

/-- What a client was sent, in order. -/
def sendsTo (clientUuid : Uuid) (effects : List ClientEffect) : List (ℕ × Bytes) :=
  effects.filterMap fun
    | .send clientUuid' opcode payload =>
      if clientUuid' = clientUuid then some (opcode, payload) else none
    | .shutdown .. => none

/-- The messages, with their opcodes converted. -/
def Clients.SentAs (env : Clients) (messages : List CommonWebsocketFrame)
    (sends : List (ℕ × Bytes)) :
    Prop :=
  List.Forall₂ (fun message send => env.opcodeOf message.opcode = .ok send.1 ∧
    send.2 = message.payload)
    messages sends

/-- Sending a client its `n`-th message does not throw. -/
def Clients.Accepts (env : Clients) (clientUuid : Uuid) (n : ℕ) (message : CommonWebsocketFrame) :
    Prop :=
  (∃ opcode, env.opcodeOf message.opcode = .ok opcode) ∧ env.throwSend clientUuid n = none

section Sends

variable {env : Clients} {clientUuid : Uuid}

theorem sendsTo_cons_self (opcode : ℕ) (payload : Bytes) (effects : List ClientEffect) :
    sendsTo clientUuid (.send clientUuid opcode payload :: effects)
      = (opcode, payload) :: sendsTo clientUuid effects := by
  simp [sendsTo]

theorem sendsTo_cons_of_ne {other : Uuid} (h : other ≠ clientUuid) (opcode : ℕ) (payload : Bytes)
    (effects : List ClientEffect) :
    sendsTo clientUuid (.send other opcode payload :: effects) = sendsTo clientUuid effects := by
  simp [sendsTo, h]

theorem sendsTo_append (effects effects' : List ClientEffect) :
    sendsTo clientUuid (effects ++ effects')
      = sendsTo clientUuid effects ++ sendsTo clientUuid effects' :=
  List.filterMap_append

theorem sendsTo_sendMessages_of_ne {other : Uuid} (h : other ≠ clientUuid) (sent : ℕ)
    (messages : List CommonWebsocketFrame) :
    sendsTo clientUuid (env.sendMessages other sent messages) = [] := by
  induction messages generalizing sent with
  | nil => rfl
  | cons message messages ih =>
    rw [Clients.sendMessages]
    split
    · rw [sendsTo_cons_of_ne h]
      exact ih (sent + 1)
    · rfl
    · rfl

/-- A client is sent the messages in order, up to the first one that throws; there it is shut
down. -/
theorem sentAs_take (env : Clients) (clientUuid : Uuid) (sent : ℕ)
    (messages : List CommonWebsocketFrame) :
    ∃ k, env.SentAs (messages.take k)
        (sendsTo clientUuid (env.sendMessages clientUuid sent messages)) ∧
      (messages.length ≤ k ∨ ∃ message reason, messages[k]? = some message ∧
        ¬ env.Accepts clientUuid (sent + k) message ∧
        .shutdown clientUuid statusInternalError reason
          ∈ env.sendMessages clientUuid sent messages) := by
  induction messages generalizing sent with
  | nil => exact ⟨0, List.Forall₂.nil, .inl le_rfl⟩
  | cons message messages ih =>
    rw [Clients.sendMessages]
    split
    case h_1 opcode hopcode hsend =>
      obtain ⟨k, hk, hend⟩ := ih (sent + 1)
      rw [sendsTo_cons_self]
      refine ⟨k + 1, List.Forall₂.cons ⟨hopcode, rfl⟩ hk, hend.imp Nat.succ_le_succ ?_⟩
      rintro ⟨message', reason, hmessage, hthrows, hshutdown⟩
      refine ⟨message', reason, hmessage, ?_, List.mem_cons_of_mem _ hshutdown⟩
      rwa [Nat.add_comm k 1, ← Nat.add_assoc]
    case h_2 what hopcode =>
      refine ⟨0, List.Forall₂.nil, .inr ⟨message, what, rfl, ?_, List.mem_singleton_self _⟩⟩
      rintro ⟨⟨opcode, hopcode'⟩, -⟩
      rw [hopcode] at hopcode'
      cases hopcode'
    case h_3 what hsend _ =>
      refine ⟨0, List.Forall₂.nil, .inr ⟨message, what, rfl, ?_, List.mem_singleton_self _⟩⟩
      rintro ⟨-, hnone⟩
      rw [Nat.add_zero, hsend] at hnone
      cases hnone

/-- What a client gets from a notification that names each client once. -/
theorem sendsTo_servlet {req : WebsocketPackedBroadcastNotification} (hnodup : req.clients.Nodup) :
    sendsTo clientUuid (env.websocketPackedBroadcastNotification req)
      = if clientUuid ∈ req.clients ∧ env.getWebsocketSession clientUuid = true then
          sendsTo clientUuid (env.sendMessages clientUuid 0 req.messages)
        else [] := by
  obtain ⟨clients, messages⟩ := req
  have hother {other : Uuid} (h : other ≠ clientUuid) :
      sendsTo clientUuid
        (if env.getWebsocketSession other then env.sendMessages other 0 messages else []) = [] := by
    split
    · exact sendsTo_sendMessages_of_ne h 0 messages
    · rfl
  dsimp only [Clients.websocketPackedBroadcastNotification] at hnodup ⊢
  induction clients with
  | nil => rfl
  | cons other clients ih =>
    obtain ⟨hnew, hclients⟩ := List.nodup_cons.mp hnodup
    rw [List.flatMap_cons, sendsTo_append, ih hclients]
    by_cases h : other = clientUuid
    · subst h
      simp only [hnew, false_and, if_false, List.append_nil, List.mem_cons_self, true_and]
      split <;> rfl
    · rw [hother h, List.nil_append]
      simp only [List.mem_cons, Ne.symm h, false_or]

end Sends

end Gate

/-! ## The servlet of the foyer server -/

namespace Foyer

structure BroadcastClient where
  gateUuid : Uuid
  clientUuid : Uuid
deriving DecidableEq

/-- `Protocol::Foyer::Websocket_packed_broadcast_notification_to_gate`. -/
structure WebsocketPackedBroadcastNotificationToGate where
  clients : List BroadcastClient
  messages : List CommonWebsocketFrame
deriving DecidableEq

/-- An entry of `gate_servers`: whether the gate is connected, and its clients. -/
structure GateServer where
  gateConn : Bool
  clients : FlatSet Uuid
deriving DecidableEq

/-- The statement of the `try` block that throws. -/
inductive SendFault
  | clients
  | sendNotification
deriving DecidableEq

/-- What the servlet meets: which gates are connected, and where sending to a gate throws. -/
structure Gates where
  getSession : Uuid → Bool
  throwSend : Uuid → Option (SendFault × String)

/-- What happens at a gate: `send_notification` is called and throws or returns, or the connection
is shut down. -/
inductive GateEffect
  | sendNotification (gateUuid : Uuid) (ntfy : Gate.WebsocketPackedBroadcastNotification)
      (thrown : Option String)
  | shutdown (gateUuid : Uuid) (errCode : Int64) (errMsg : String)
deriving DecidableEq

/-- Collecting the gate servers: one client. -/
def Gates.collect (gates : Gates) (gateServers : FlatMap Uuid GateServer)
    (client : BroadcastClient) :
    FlatMap Uuid GateServer :=
  (gateServers.insertNew client.gateUuid ⟨gates.getSession client.gateUuid, .empty⟩).modify
    client.gateUuid fun server =>
      if server.gateConn then { server with clients := server.clients.insert client.clientUuid }
      else server

def Gates.gateServers (gates : Gates) (clients : List BroadcastClient) : FlatMap Uuid GateServer :=
  clients.foldl gates.collect .empty

/-- Sending to the gates, with what is left in `ntfy.messages` and what is in
`gate_ntfy.messages`. -/
def Gates.sendAll (gates : Gates) :
    List CommonWebsocketFrame → List CommonWebsocketFrame → List (Uuid × GateServer) →
      List GateEffect
  | _, _, [] => []
  | ntfyMessages, gateMessages, (gateUuid, server) :: servers =>
    -- The messages are moved over once, to the first gate whose clients could be filled in.
    let gateMessages' := if ntfyMessages = [] then gateMessages else ntfyMessages
    if server.gateConn then
      match gates.throwSend gateUuid with
      | none =>
        .sendNotification gateUuid ⟨server.clients.elements, gateMessages'⟩ none ::
          gates.sendAll [] gateMessages' servers
      | some (.sendNotification, what) =>
        .sendNotification gateUuid ⟨server.clients.elements, gateMessages'⟩ (some what) ::
          .shutdown gateUuid errorInternalError what :: gates.sendAll [] gateMessages' servers
      | some (.clients, what) =>
        .shutdown gateUuid errorInternalError what :: gates.sendAll ntfyMessages
          gateMessages servers
    else gates.sendAll ntfyMessages gateMessages servers

/-- The servlet of `Websocket_packed_broadcast_notification_to_gate`. -/
def Gates.websocketPackedBroadcastNotificationToGate (gates : Gates)
    (ntfy : WebsocketPackedBroadcastNotificationToGate) : List GateEffect :=
  gates.sendAll ntfy.messages [] (gates.gateServers ntfy.clients).entries

/-- What `send_notification` was called with, and what it threw. -/
def attempts (effects : List GateEffect) :
    List (Uuid × Gate.WebsocketPackedBroadcastNotification × Option String) :=
  effects.filterMap fun
    | .sendNotification gateUuid ntfy thrown => some (gateUuid, ntfy, thrown)
    | .shutdown .. => none

variable {gates : Gates}

/-! ### Collecting the gate servers -/

/-- The table of gate servers, when the clients in `clients` have been gone through. -/
structure Grouped (gates : Gates) (clients : List BroadcastClient) (m : FlatMap Uuid GateServer) :
    Prop where
  conn : ∀ g server, (g, server) ∈ m.entries → server.gateConn = gates.getSession g
  named : ∀ g, (∃ server, (g, server) ∈ m.entries) ↔ ∃ c, ⟨g, c⟩ ∈ clients
  clients : ∀ g server, (g, server) ∈ m.entries → gates.getSession g = true →
    ∀ c, c ∈ server.clients.elements ↔ ⟨g, c⟩ ∈ clients

/-- **One client is sorted in.** -/
theorem Grouped.collect {clients : List BroadcastClient} {m : FlatMap Uuid GateServer}
    (h : Grouped gates clients m) (client : BroadcastClient) :
    Grouped gates (clients ++ [client]) (gates.collect m client) := by
  obtain ⟨gate, clientUuid⟩ := client
  -- The entry as it is before the client is put in.
  have hentry {g : Uuid} {server : GateServer}
      (hmem : (g, server) ∈ (m.insertNew gate ⟨gates.getSession gate, .empty⟩).entries) :
      server.gateConn = gates.getSession g ∧ (gates.getSession g = true →
        ∀ c, c ∈ server.clients.elements ↔ ⟨g, c⟩ ∈ clients) := by
    rcases FlatMap.mem_entries_insertNew.mp hmem with hold | ⟨heq, hnew⟩
    · exact ⟨h.conn g server hold, h.clients g server hold⟩
    · obtain ⟨rfl, rfl⟩ := Prod.mk.inj heq
      refine ⟨rfl, fun _ c => iff_of_false List.not_mem_nil fun hc => ?_⟩
      obtain ⟨server, hserver⟩ := (h.named g).mpr ⟨c, hc⟩
      exact hnew server hserver
  refine ⟨fun g server hmem => ?_, fun g => ⟨?_, ?_⟩, fun g server hmem hconn c => ?_⟩
  · obtain ⟨before, hbefore, heq⟩ := FlatMap.mem_entries_modify.mp hmem
    dsimp only at hbefore heq
    rw [← (hentry hbefore).1, heq]
    split_ifs <;> rfl
  · rintro ⟨server, hmem⟩
    obtain ⟨before, hbefore, -⟩ := FlatMap.mem_entries_modify.mp hmem
    rcases FlatMap.mem_entries_insertNew.mp hbefore with hold | ⟨heq, -⟩
    · obtain ⟨c, hc⟩ := (h.named g).mp ⟨before, hold⟩
      exact ⟨c, List.mem_append_left _ hc⟩
    · obtain rfl := (Prod.mk.inj heq).1
      exact ⟨clientUuid, List.mem_append_right _ (List.mem_singleton_self _)⟩
  · rintro ⟨c, hc⟩
    have hbefore : ∃ before,
        (g, before) ∈ (m.insertNew gate ⟨gates.getSession gate, .empty⟩).entries := by
      by_cases hold : ∃ server, (g, server) ∈ m.entries
      · obtain ⟨server, hserver⟩ := hold
        exact ⟨server, FlatMap.mem_entries_insertNew.mpr (.inl hserver)⟩
      · rcases List.mem_append.mp hc with hc | hc
        · exact absurd ((h.named g).mpr ⟨c, hc⟩) hold
        · obtain ⟨rfl, -⟩ := BroadcastClient.mk.inj (List.mem_singleton.mp hc)
          exact ⟨_, FlatMap.mem_entries_insertNew.mpr
            (.inr ⟨rfl, fun server hserver => hold ⟨server, hserver⟩⟩)⟩
    obtain ⟨before, hbefore⟩ := hbefore
    exact ⟨_, List.mem_map_of_mem hbefore⟩
  · obtain ⟨before, hbefore, heq⟩ := FlatMap.mem_entries_modify.mp hmem
    dsimp only at hbefore heq
    obtain ⟨hsame, hclients⟩ := hentry hbefore
    rw [heq, List.mem_append, List.mem_singleton, BroadcastClient.mk.injEq]
    by_cases hgate : g = gate
    · rw [if_pos hgate, if_pos (hsame.trans hconn), FlatSet.mem_insert, hclients hconn]
      simp only [hgate, true_and, or_comm]
    · rw [if_neg hgate, hclients hconn]
      simp only [hgate, false_and, or_false]

theorem grouped_gateServers (gates : Gates) (clients : List BroadcastClient) :
    Grouped gates clients (gates.gateServers clients) := by
  induction clients using List.reverseRecOn with
  | nil =>
    refine ⟨fun g server h => absurd h List.not_mem_nil, fun g => ?_,
      fun g server h => absurd h List.not_mem_nil⟩
    simp [Gates.gateServers]
  | append_singleton clients client ih =>
    rw [Gates.gateServers, List.foldl_concat]
    exact ih.collect client

/-! ### Sending -/

/-- What is sent to an entry of the table. -/
def Gates.attempt (gates : Gates) (messages : List CommonWebsocketFrame)
    (entry : Uuid × GateServer) :
    Option (Uuid × Gate.WebsocketPackedBroadcastNotification × Option String) :=
  if entry.2.gateConn then
    match gates.throwSend entry.1 with
    | none => some (entry.1, ⟨entry.2.clients.elements, messages⟩, none)
    | some (.sendNotification, what) =>
      some (entry.1, ⟨entry.2.clients.elements, messages⟩, some what)
    | some (.clients, _) => none
  else none

theorem fst_of_attempt {messages : List CommonWebsocketFrame} {entry : Uuid × GateServer}
    {a : Uuid × Gate.WebsocketPackedBroadcastNotification × Option String}
    (h : gates.attempt messages entry = some a) : a.1 = entry.1 := by
  rw [Gates.attempt] at h
  split at h
  case isFalse => cases h
  case isTrue =>
    split at h
    case h_3 => cases h
    all_goals
      obtain rfl := Option.some.inj h
      rfl

/-- **Every gate is sent the whole list**, the first one and those after it. -/
theorem attempts_sendAll {messages ntfyMessages gateMessages : List CommonWebsocketFrame}
    (h : ntfyMessages = messages ∧ gateMessages = [] ∨ ntfyMessages = [] ∧ gateMessages = messages)
    (servers : List (Uuid × GateServer)) :
    attempts (gates.sendAll ntfyMessages gateMessages servers)
      = servers.filterMap (gates.attempt messages) := by
  have hmoved : (if ntfyMessages = [] then gateMessages else ntfyMessages) = messages := by
    split_ifs with hempty
    · exact h.elim (fun h => h.2.trans (hempty ▸ h.1)) fun h => h.2
    · exact h.elim (fun h => h.1) fun h => absurd h.1 hempty
  induction servers generalizing ntfyMessages gateMessages with
  | nil => rfl
  | cons entry servers ih =>
    obtain ⟨gateUuid, server⟩ := entry
    have hfilled : attempts (gates.sendAll [] messages servers)
        = servers.filterMap (gates.attempt messages) := ih (.inr ⟨rfl, rfl⟩) (if_pos rfl)
    have hleft := ih h hmoved
    simp only [Gates.sendAll, hmoved]
    cases hconn : server.gateConn with
    | false =>
      rw [if_neg Bool.false_ne_true, List.filterMap_cons_none (by simp [Gates.attempt, hconn])]
      exact hleft
    | true =>
      rw [if_pos rfl]
      split
      case h_1 hthrow =>
        have hentry : gates.attempt messages (gateUuid, server)
            = some (gateUuid, ⟨server.clients.elements, messages⟩, none) := by
          simp [Gates.attempt, hconn, hthrow]
        rw [List.filterMap_cons_some hentry]
        exact congrArg _ hfilled
      case h_2 what hthrow =>
        have hentry : gates.attempt messages (gateUuid, server)
            = some (gateUuid, ⟨server.clients.elements, messages⟩, some what) := by
          simp [Gates.attempt, hconn, hthrow]
        rw [List.filterMap_cons_some hentry]
        exact congrArg _ hfilled
      case h_3 hthrow =>
        rw [List.filterMap_cons_none (by simp [Gates.attempt, hconn, hthrow])]
        exact hleft

/-- Whom a notification is sent to, and what it holds. -/
theorem mem_attempts {ntfy : WebsocketPackedBroadcastNotificationToGate} {g : Uuid}
    {req : Gate.WebsocketPackedBroadcastNotification} {thrown : Option String}
    (h : (g, req, thrown) ∈ attempts (gates.websocketPackedBroadcastNotificationToGate ntfy)) :
    gates.getSession g = true ∧ (∃ c, ⟨g, c⟩ ∈ ntfy.clients) ∧ req.clients.Nodup ∧
      (∀ c, c ∈ req.clients ↔ ⟨g, c⟩ ∈ ntfy.clients) ∧ req.messages = ntfy.messages := by
  have hgrouped := grouped_gateServers gates ntfy.clients
  rw [Gates.websocketPackedBroadcastNotificationToGate, attempts_sendAll (.inl ⟨rfl, rfl⟩),
    List.mem_filterMap] at h
  obtain ⟨⟨gate, server⟩, hmem, hattempt⟩ := h
  rw [Gates.attempt] at hattempt
  split at hattempt
  case isFalse => cases hattempt
  case isTrue hconn =>
    have hreq : gate = g ∧ req = ⟨server.clients.elements, ntfy.messages⟩ := by
      split at hattempt
      case h_3 => cases hattempt
      all_goals
        obtain ⟨hgate, hreq, -⟩ := by simpa using hattempt
        exact ⟨hgate, hreq.symm⟩
    obtain ⟨rfl, rfl⟩ := hreq
    have hsession : gates.getSession gate = true :=
      (hgrouped.conn gate server hmem).symm.trans hconn
    exact ⟨hsession, (hgrouped.named gate).mp ⟨server, hmem⟩, FlatSet.nodup_elements _,
      hgrouped.clients gate server hmem hsession, rfl⟩

/-! ## The property -/

/-- **A broadcast reaches every client once**: at most one notification is sent to a gate, with all
its clients and all messages; and a client with a session is sent the messages in order, all of them
or those before the first one that throws for this client, which is then shut down. -/
structure ReachesOnce (gates : Gates) (clientsOf : Uuid → Gate.Clients)
    (ntfy : WebsocketPackedBroadcastNotificationToGate) (effects : List GateEffect) : Prop where
  atMostOnce : ((attempts effects).map Prod.fst).Nodup
  onlyNamed : ∀ g req thrown, (g, req, thrown) ∈ attempts effects →
    gates.getSession g = true ∧ ∃ c, ⟨g, c⟩ ∈ ntfy.clients
  reached : ∀ g, gates.getSession g = true → (∃ c, ⟨g, c⟩ ∈ ntfy.clients) →
    gates.throwSend g = none → ∃ req, (g, req, none) ∈ attempts effects
  whole : ∀ g req thrown, (g, req, thrown) ∈ attempts effects → req.clients.Nodup ∧
    (∀ c, c ∈ req.clients ↔ ⟨g, c⟩ ∈ ntfy.clients) ∧ req.messages = ntfy.messages
  sentInOrder : ∀ g req thrown, (g, req, thrown) ∈ attempts effects → ∀ c, ⟨g, c⟩ ∈ ntfy.clients →
    (clientsOf g).getWebsocketSession c = true → ∃ k,
      (clientsOf g).SentAs (ntfy.messages.take k)
        (Gate.sendsTo c ((clientsOf g).websocketPackedBroadcastNotification req)) ∧
      (ntfy.messages.length ≤ k ∨ ∃ message reason, ntfy.messages[k]? = some message ∧
        ¬ (clientsOf g).Accepts c k message ∧ .shutdown c Websocket.statusInternalError reason
          ∈ (clientsOf g).websocketPackedBroadcastNotification req)
  noOthers : ∀ g req thrown, (g, req, thrown) ∈ attempts effects → ∀ c, ⟨g, c⟩ ∉ ntfy.clients →
    Gate.sendsTo c ((clientsOf g).websocketPackedBroadcastNotification req) = []

/-- **Every broadcast reaches every client once**, whatever throws at other gates and clients. -/
theorem broadcast_reaches_once (gates : Gates) (clientsOf : Uuid → Gate.Clients)
    (ntfy : WebsocketPackedBroadcastNotificationToGate) :
    ReachesOnce gates clientsOf ntfy (gates.websocketPackedBroadcastNotificationToGate ntfy) := by
  have hgrouped := grouped_gateServers gates ntfy.clients
  refine ⟨?_, fun g req thrown h => ?_, fun g hsession hnamed hthrow => ?_,
    fun g req thrown h => ?_,
    fun g req thrown h c hnamed hws => ?_, fun g req thrown h c hnot => ?_⟩
  · rw [Gates.websocketPackedBroadcastNotificationToGate, attempts_sendAll (.inl ⟨rfl, rfl⟩)]
    refine List.pairwise_map.mpr (List.pairwise_filterMap.mpr ?_)
    refine (gates.gateServers ntfy.clients).sorted.imp fun hlt a ha b hb heq => hlt.ne ?_
    rw [← fst_of_attempt ha, ← fst_of_attempt hb, heq]
  · obtain ⟨hsession, hnamed, -⟩ := mem_attempts h
    exact ⟨hsession, hnamed⟩
  · obtain ⟨server, hmem⟩ := (hgrouped.named g).mpr hnamed
    rw [Gates.websocketPackedBroadcastNotificationToGate, attempts_sendAll (.inl ⟨rfl, rfl⟩)]
    refine ⟨⟨server.clients.elements, ntfy.messages⟩, List.mem_filterMap.mpr ⟨_, hmem, ?_⟩⟩
    simp [Gates.attempt, (hgrouped.conn g server hmem).trans hsession, hthrow]
  · obtain ⟨-, -, hwhole⟩ := mem_attempts h
    exact hwhole
  · obtain ⟨-, -, hnodup, hclients, hmessages⟩ := mem_attempts h
    have hc := (hclients c).mpr hnamed
    obtain ⟨k, hsent, hend⟩ := Gate.sentAs_take (clientsOf g) c 0 ntfy.messages
    rw [Gate.sendsTo_servlet hnodup, if_pos ⟨hc, hws⟩, hmessages]
    refine ⟨k, hsent, hend.imp_right ?_⟩
    rintro ⟨message, reason, hmessage, hthrows, hshutdown⟩
    refine ⟨message, reason, hmessage, by rwa [Nat.zero_add] at hthrows, ?_⟩
    refine List.mem_flatMap.mpr ⟨c, hc, ?_⟩
    rwa [if_pos hws, hmessages]
  · obtain ⟨-, -, hnodup, hclients, -⟩ := mem_attempts h
    rw [Gate.sendsTo_servlet hnodup, if_neg fun hboth => hnot ((hclients c).mp hboth.1)]

/-! ## A message that is none -/

/-- Everything is connected and nothing throws, but for opcodes beyond 32 bits. -/
def broadcastGates : Gates := ⟨fun _ => true, fun _ => none⟩

def broadcastClients : Gate.Clients where
  getWebsocketSession _ := true
  opcodeOf opcode :=
    if opcode < 0 then .error "bad numeric conversion: negative overflow"
    else if opcode < 2 ^ 32 then .ok opcode.toNatClampNeg
    else .error "bad numeric conversion: positive overflow"
  throwSend _ _ := none

/-- Two messages for one client, the first of which has an opcode that no conversion accepts. -/
def broadcastFailing : WebsocketPackedBroadcastNotificationToGate :=
  ⟨[⟨1, 2⟩], [⟨2 ^ 40, []⟩, ⟨1, [104, 105]⟩]⟩

theorem not_sent_all :
    ¬ ∀ g req thrown,
      (g, req, thrown) ∈
        attempts (broadcastGates.websocketPackedBroadcastNotificationToGate broadcastFailing) →
      ∀ c, ⟨g, c⟩ ∈ broadcastFailing.clients → broadcastClients.getWebsocketSession c = true →
        broadcastClients.SentAs broadcastFailing.messages
          (Gate.sendsTo c (broadcastClients.websocketPackedBroadcastNotification req)) := by
  intro h
  have hsent := h 1 ⟨[2], broadcastFailing.messages⟩ none (by decide +kernel) 2
    (by decide +kernel) rfl
  have hnone : Gate.sendsTo 2 (broadcastClients.websocketPackedBroadcastNotification
      ⟨[2], broadcastFailing.messages⟩) = [] := by decide +kernel
  rw [hnone] at hsent
  exact absurd hsent.length_eq (by decide)

end Foyer

end Circe
