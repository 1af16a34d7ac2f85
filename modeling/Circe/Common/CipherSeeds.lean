import Circe.Common.Handshake
import Circe.Common.MessageFilter

/-!
# Common/CipherSeeds — the seeds that the two directions of a connection use

A filter starts with one seed for both directions, the same on every connection.  A `Client_hello`
reseeds the direction from client to server, on both sides, with the checksum of the connection's
UUID and timestamp; a `Server_hello` reseeds nothing.  So the direction from server to client goes
on with the seed that every connection of the application key uses (`cipherSeed_of_run`).
-/

namespace Circe.Common

/-! ## Keys of a filter -/

@[simp] theorem StreamCipher.key_filter (aes : AesEncrypt) (c : StreamCipher) (input : UInt8)
    (toEncrypt : Bool) : (c.filter aes input toEncrypt).2.key = c.key := by
  simp only [filter, refill]
  split <;> rfl

@[simp] theorem StreamCipher.key_filterAll (aes : AesEncrypt) (toEncrypt : Bool) (c : StreamCipher)
    (bytes : Bytes) : (filterAll aes toEncrypt c bytes).2.key = c.key := by
  induction bytes generalizing c with
  | nil => rfl
  | cons input rest ih => exact (ih _).trans (key_filter aes c input toEncrypt)

/-! ## What a seed is the checksum of -/

theorem bigEndian_inj {width m n : ℕ} (hm : m < 256 ^ width) (hn : n < 256 ^ width)
    (h : bigEndian width m = bigEndian width n) : m = n := by
  rw [← ofBigEndian_bigEndian hm, h, ofBigEndian_bigEndian hn]

/-- The input of a checksum gives the UUID and the timestamp back. -/
theorem checksumInput_inj {applicationKey : Bytes} {salt : String} {uuid uuid' : Uuid}
    {timestamp timestamp' : UInt64}
    (h : checksumInput applicationKey salt uuid timestamp
      = checksumInput applicationKey salt uuid' timestamp') :
    uuid = uuid' ∧ timestamp = timestamp' := by
  simp only [checksumInput, List.append_assoc, List.append_cancel_left_eq, List.cons_append,
    List.cons.injEq, true_and] at h
  obtain ⟨huuid, htimestamp⟩ := List.append_inj h (by rw [length_bigEndian, length_bigEndian])
  simp only [List.cons.injEq, true_and, List.append_cancel_right_eq] at htimestamp
  refine ⟨Fin.ext (bigEndian_inj ?_ ?_ huuid), UInt64.toNat_inj.mp (bigEndian_inj ?_ ?_ htimestamp)⟩
  · exact uuid.isLt.trans_le (by norm_num)
  · exact uuid'.isLt.trans_le (by norm_num)
  · exact timestamp.toNat_lt.trans_le (by norm_num)
  · exact timestamp'.toNat_lt.trans_le (by norm_num)

namespace MessageFilter

variable (aes : AesEncrypt) (z : Zlib) (f : MessageFilter)

theorem keys_decode (encodedPayload : Bytes) :
    (f.decode aes z encodedPayload).2.decryptor.key = f.decryptor.key ∧
      (f.decode aes z encodedPayload).2.encryptor = f.encryptor :=
  ⟨StreamCipher.key_filterAll aes false f.decryptor encodedPayload, rfl⟩

theorem keys_encode (magicPayload : Bytes) :
    (f.encode aes z magicPayload).2.decryptor = f.decryptor ∧
      (f.encode aes z magicPayload).2.encryptor.key = f.encryptor.key := by
  simp only [encode]
  split
  case h_1 => exact ⟨rfl, rfl⟩
  case h_2 => exact ⟨rfl, StreamCipher.key_filterAll ..⟩

end MessageFilter

namespace InterserverConnection

variable {σ : Type} (P : Platform MessageFilter)

/-- The seed of what a connection receives, and the seed of what it sends. -/
def decoderSeed (c : InterserverConnection MessageFilter) : Sha256 :=
  (c.requireMessageFilter P).decryptor.key

def encoderSeed (c : InterserverConnection MessageFilter) : Sha256 :=
  (c.requireMessageFilter P).encryptor.key

/-- **The cipher seed in use** at one side for the direction from `origin`. -/
def cipherSeed (side origin : Side) (c : InterserverConnection MessageFilter) : Sha256 :=
  if origin = side then c.encoderSeed P else c.decoderSeed P

/-- The seed that every connection of an application key starts with. -/
def initialSeed (c : InterserverConnection MessageFilter) : Sha256 :=
  P.calculateChecksum c.applicationKey saltAuthentication 0 0

/-! ## What an event does to the seeds -/

variable (aes : AesEncrypt) (z : Zlib) {P}

/-- **Only a `Client_hello` changes a seed**: sent, the encoder's; accepted, the decoder's. -/
inductive Reseeded (P : Platform MessageFilter) (c : InterserverConnection MessageFilter)
    (event : Event) (c' : InterserverConnection MessageFilter) : Prop
  | kept (hunset : KeepsUnset c c') (hdecoder : c'.decoderSeed P = c.decoderSeed P)
      (hencoder : c'.encoderSeed P = c.encoderSeed P)
  | encoder (hset : c.isConnectionUuidSet = true) (magicPayload : Bytes)
      (hsent : event = .work ∧ ∃ rest,
        c.workhorse = .deflateAndSend ClientHello.id magicPayload :: rest)
      (hdecoder : c'.decoderSeed P = c.decoderSeed P)
      (hencoder : c'.encoderSeed P = c.normalDataSeed P)
  | decoder (hunset : c.isConnectionUuidSet = false)
      (hdecoder : c'.decoderSeed P = c'.normalDataSeed P)
      (hencoder : c'.encoderSeed P = c.encoderSeed P)

theorem reseeded_handle (post : Uuid → σ → Except Exception Unit × σ)
    (c : InterserverConnection MessageFilter) (event : Event) (s : σ) :
    Reseeded (P.withFilter aes z) c event (c.handle (P.withFilter aes z) post event s).2.1 := by
  rcases filterMoved_handle (P := P.withFilter aes z) post c event s with ⟨hunset, h⟩ |
    ⟨hunset, payload, h⟩ | ⟨hunset, payload, h⟩ | ⟨hset, payload, hsent, h⟩ | ⟨hunset, h⟩
  · exact .kept hunset (congrArg (·.decryptor.key) h) (congrArg (·.encryptor.key) h)
  · obtain ⟨hdecryptor, hencryptor⟩ := MessageFilter.keys_decode aes z
      (c.requireMessageFilter (P.withFilter aes z)) payload
    exact .kept hunset ((congrArg (·.decryptor.key) h).trans hdecryptor)
      ((congrArg (·.encryptor.key) h).trans (congrArg StreamCipher.key hencryptor))
  · obtain ⟨hdecryptor, hencryptor⟩ := MessageFilter.keys_encode aes z
      (c.requireMessageFilter (P.withFilter aes z)) payload
    exact .kept hunset ((congrArg (·.decryptor.key) h).trans (congrArg StreamCipher.key hdecryptor))
      ((congrArg (·.encryptor.key) h).trans hencryptor)
  · exact .encoder hset payload hsent (congrArg (·.decryptor.key) h) (congrArg (·.encryptor.key) h)
  · exact .decoder hunset (congrArg (·.decryptor.key) h) (congrArg (·.encryptor.key) h)

/-! ## The two sides -/

variable (P) (post : Uuid → σ → Except Exception Unit × σ) {c : InterserverConnection MessageFilter}

/-- A `Client_hello` that leaves reseeds the encoder. -/
theorem encoderSeed_work {magicPayload : Bytes} {rest : List Task}
    (hset : c.isConnectionUuidSet = true) (hup : c.hasBeenShutdown = false)
    (hhead : c.workhorse = .deflateAndSend ClientHello.id magicPayload :: rest) (s : σ) :
    ((c.handle (P.withFilter aes z) post .work s).2.1).encoderSeed (P.withFilter aes z)
      = c.normalDataSeed (P.withFilter aes z) := by
  simp only [handle, work, hhead, deflateAndSend]
  rw [if_neg (by exact fun h => absurd (h.symm.trans hup) (by decide)), tryDeflateAndSend,
    if_pos rfl,
    if_pos (by exact hset)]
  rfl

theorem initialSeed_handle (event : Event) (s : σ) :
    (c.handle P post event s).2.1.initialSeed P = c.initialSeed P := by
  rw [initialSeed, initialSeed, applicationKey_handle]

theorem normalDataSeed_handle (hset : c.isConnectionUuidSet = true) (event : Event) (s : σ) :
    (c.handle P post event s).2.1.normalDataSeed P = c.normalDataSeed P := by
  obtain ⟨hkey, huuid, htimestamp⟩ := sameHello_handle P post hset event s
  rw [normalDataSeed, normalDataSeed, hkey, huuid, htimestamp]

/-- A connection that was shut down is as authenticated as before. -/
theorem authenticated_of_hasBeenShutdown (hdown : c.hasBeenShutdown = true) (event : Event)
    (s : σ) : (c.handle P post event s).2.1.authenticated = c.authenticated :=
  congrArg Standing.authenticated
    (standing_handle P post (handledFrame_of_hasBeenShutdown hdown event) s)

/-- A server encodes with the seed it started with, and decodes with the one of its hello. -/
structure ServerSeeds (c : InterserverConnection MessageFilter) : Prop where
  encoder : c.encoderSeed P = c.initialSeed P
  noHello : ∀ message ∈ c.outgoing, message.1 ≠ ClientHello.id
  decoder : c.authenticated = true → c.decoderSeed P = c.normalDataSeed P

/-- A client decodes with the seed it started with, and encodes with the one of its hello, once
that is sent. -/
structure ClientSeeds (c : InterserverConnection MessageFilter) : Prop where
  decoder : c.decoderSeed P = c.initialSeed P
  encoder : c.encoderSeed P = c.normalDataSeed P ∨ c.authenticated = false ∧
    (c.hasBeenShutdown = true ∨
      ∃ magicPayload rest, c.workhorse = .deflateAndSend ClientHello.id magicPayload :: rest)

theorem ServerSeeds.handle (h : c.ServerSeeds (P.withFilter aes z)) (hside : c.SideInv .server)
    (hset : c.authenticated = true → c.isConnectionUuidSet = true) (event : Event) (s : σ) :
    (c.handle (P.withFilter aes z) post event s).2.1.ServerSeeds (P.withFilter aes z) := by
  have hreseeded := reseeded_handle (P := P) aes z post c event s
  have hinitial := initialSeed_handle (P.withFilter aes z) post (c := c) event s
  have hnoHello : ∀ message ∈ (c.handle (P.withFilter aes z) post event s).2.1.outgoing,
      message.1 ≠ ClientHello.id := fun message hmem hclient =>
    h.noHello message (mem_outgoing_handle (P.withFilter aes z) post hmem hclient) hclient
  rcases hreseeded with ⟨hunset, hdecoder, hencoder⟩ |
    ⟨-, magicPayload, ⟨-, rest, hhead⟩, -, -⟩ | ⟨-, hdecoder, hencoder⟩
  · refine ⟨(hencoder.trans h.encoder).trans hinitial.symm, hnoHello, fun hauthenticated => ?_⟩
    have hold : c.authenticated = true := by
      cases huuid : c.isConnectionUuidSet with
      | false => exact (hunset huuid).symm.trans hauthenticated
      | true =>
        rcases hside huuid with hold | hdown
        · exact hold
        · exact (authenticated_of_hasBeenShutdown (P.withFilter aes z) post hdown event
            s).symm.trans
            hauthenticated
    rw [hdecoder, h.decoder hold, normalDataSeed_handle (P.withFilter aes z) post (hset hold)]
  · have hmem : (ClientHello.id, magicPayload) ∈ c.outgoing := by
      rw [outgoing, hhead]
      exact List.mem_cons_self
    exact absurd rfl (h.noHello _ hmem)
  · exact ⟨(hencoder.trans h.encoder).trans hinitial.symm, hnoHello, fun _ => hdecoder⟩

theorem ClientSeeds.handle (h : c.ClientSeeds (P.withFilter aes z))
    (hset : c.isConnectionUuidSet = true)
    (event : Event) (s : σ) :
    (c.handle (P.withFilter aes z) post event s).2.1.ClientSeeds (P.withFilter aes z) := by
  have hreseeded := reseeded_handle (P := P) aes z post c event s
  have hinitial := initialSeed_handle (P.withFilter aes z) post (c := c) event s
  have hnormal := normalDataSeed_handle (P.withFilter aes z) post hset event s
  generalize hafter : c.handle (P.withFilter aes z) post event s = after
    at hreseeded hinitial hnormal ⊢
  have hkept : after.2.1.decoderSeed (P.withFilter aes z) = c.decoderSeed (P.withFilter aes z) ∧
      (after.2.1.encoderSeed (P.withFilter aes z) = c.encoderSeed (P.withFilter aes z) ∨
        after.2.1.encoderSeed (P.withFilter aes z) = c.normalDataSeed (P.withFilter aes z)) := by
    rcases hreseeded with ⟨-, hdecoder, hencoder⟩ | ⟨-, _, -, hdecoder, hencoder⟩ | ⟨hunset, -, -⟩
    · exact ⟨hdecoder, .inl hencoder⟩
    · exact ⟨hdecoder, .inr hencoder⟩
    · exact absurd (hunset.symm.trans hset) (by decide)
  refine ⟨(hkept.1.trans h.decoder).trans hinitial.symm, ?_⟩
  rcases hkept.2 with hencoder | hencoder
  case inr => exact .inl (hencoder.trans hnormal.symm)
  rcases h.encoder with hseed | ⟨hunauthenticated, hwaiting⟩
  · exact .inl ((hencoder.trans hseed).trans hnormal.symm)
  subst hafter
  cases hdown : c.hasBeenShutdown with
  | true =>
    exact .inr ⟨(authenticated_of_hasBeenShutdown (P.withFilter aes z) post hdown event s).trans
      hunauthenticated, .inl (hasBeenShutdown_handle _ post hdown event s)⟩
  | false =>
    obtain ⟨magicPayload, rest, hhead⟩ := hwaiting.resolve_left (by simp [hdown])
    by_cases hwork : event = .work
    · subst hwork
      exact .inl ((encoderSeed_work P aes z post hset hdown hhead s).trans hnormal.symm)
    · -- The hello is still the first job, and no frame is handled.
      have hframe : c.handledFrame event = none := by
        cases event with
        | work => exact absurd rfl hwork
        | _ => rfl
      obtain ⟨later, hlater⟩ := workhorse_handle (P.withFilter aes z) post (c := c) hwork s
      refine .inr ⟨?_, .inr ⟨magicPayload, rest ++ later, ?_⟩⟩
      · exact (congrArg Standing.authenticated
          (standing_handle (P.withFilter aes z) post hframe s)).trans hunauthenticated
      · rw [← hlater, hhead]
        rfl

end InterserverConnection

/-! ## Runs -/

open InterserverConnection

variable {σ : Type} {P : Platform MessageFilter} {aes : AesEncrypt} {z : Zlib}
  {post : Uuid → σ → Except Exception Unit × σ}
  {x y x' y' : InterserverConnection MessageFilter × σ} {ls ls' : List Label} {side side' : Side}

theorem serverSeeds_of_run (hstarted : x.1.Started (P.withFilter aes z) .server)
    (hrun : Lts.Run (Step (P.withFilter aes z) post) x ls y) :
    y.1.ServerSeeds (P.withFilter aes z) := by
  induction hrun with
  | nil =>
    obtain ⟨applicationKey, hnew⟩ := hstarted
    rw [hnew]
    exact ⟨rfl, by simp [outgoing, new], by simp [new]⟩
  | @snoc y t ls l hpre hlast ih =>
    have h := ih.handle P aes z post (authenticates_of_run hstarted hpre).1
      (isConnectionUuidSet_of_run hstarted hpre) l.event y.2
    rwa [hlast.2] at h

theorem clientSeeds_of_run (hstarted : x.1.Started (P.withFilter aes z) .client)
    (hrun : Lts.Run (Step (P.withFilter aes z) post) x ls y) :
    y.1.ClientSeeds (P.withFilter aes z) := by
  induction hrun with
  | nil =>
    obtain ⟨applicationKey, connectionUuid, timestamp, optionsReq, -, hhello⟩ := hstarted
    rw [hhello]
    exact ⟨rfl, .inr ⟨rfl, .inr ⟨_, [], rfl⟩⟩⟩
  | @snoc y t ls l hpre hlast ih =>
    have h := ih.handle P aes z post (authenticates_of_run hstarted hpre).1 l.event y.2
    rwa [hlast.2] at h

/-- **The seeds of an authenticated connection**: what the client sends goes under the seed of the
hello, what the server sends under the one that every connection of the key starts with. -/
theorem cipherSeed_of_run (hstarted : x.1.Started (P.withFilter aes z) side)
    (hrun : Lts.Run (Step (P.withFilter aes z) post) x ls y)
    (hauthenticated : y.1.authenticated = true) :
    y.1.cipherSeed (P.withFilter aes z) side .client = y.1.normalDataSeed (P.withFilter aes z) ∧
      y.1.cipherSeed (P.withFilter aes z) side .server = y.1.initialSeed (P.withFilter aes z) := by
  cases side with
  | server =>
    have h := serverSeeds_of_run hstarted hrun
    exact ⟨h.decoder hauthenticated, h.encoder⟩
  | client =>
    have h := clientSeeds_of_run hstarted hrun
    refine ⟨h.encoder.resolve_right fun hwaiting => ?_, h.decoder⟩
    exact absurd (hwaiting.1.symm.trans hauthenticated) (by decide)

/-- **Per-connection keys**: in each direction two connections use different seeds, so the first
chunk of their keystreams differs. -/
def PerConnectionKeys (P : Platform MessageFilter) (aes : AesEncrypt) (side side' : Side)
    (c c' : InterserverConnection MessageFilter) : Prop :=
  ∀ origin, c.cipherSeed P side origin ≠ c'.cipherSeed P side' origin ∧
    aes (c.cipherSeed P side origin) (StreamCipher.reset (c.cipherSeed P side origin)).chunk
      ≠ aes (c'.cipherSeed P side' origin) (StreamCipher.reset (c'.cipherSeed P side' origin)).chunk

/-- What the seed of a hello is the checksum of. -/
def seedInput (c : InterserverConnection MessageFilter) : Bytes :=
  checksumInput c.applicationKey saltNormalData c.connectionUuid c.timestamp

/-- **No two connections of an application key have keys of their own in both directions.** Those
from client to server differ, unless SHA-256 collides; those from server to client are the same. -/
theorem not_perConnectionKeys_of_run (hstarted : x.1.Started (P.withFilter aes z) side)
    (hrun : Lts.Run (Step (P.withFilter aes z) post) x ls y)
    (hauthenticated : y.1.authenticated = true)
    (hstarted' : x'.1.Started (P.withFilter aes z) side')
    (hrun' : Lts.Run (Step (P.withFilter aes z) post) x' ls' y')
    (hauthenticated' : y'.1.authenticated = true)
    (hkey : y.1.applicationKey = y'.1.applicationKey)
    (hhello : (y.1.connectionUuid, y.1.timestamp) ≠ (y'.1.connectionUuid, y'.1.timestamp))
    (hsha : Set.InjOn P.sha256 {seedInput y.1, seedInput y'.1}) :
    ¬ PerConnectionKeys (P.withFilter aes z) aes side side' y.1 y'.1 ∧
      y.1.cipherSeed (P.withFilter aes z) side .client
        ≠ y'.1.cipherSeed (P.withFilter aes z) side' .client ∧
      y.1.cipherSeed (P.withFilter aes z) side .server
        = y'.1.cipherSeed (P.withFilter aes z) side' .server := by
  obtain ⟨hclient, hserver⟩ := cipherSeed_of_run hstarted hrun hauthenticated
  obtain ⟨hclient', hserver'⟩ := cipherSeed_of_run hstarted' hrun' hauthenticated'
  have hsame : y.1.cipherSeed (P.withFilter aes z) side .server
      = y'.1.cipherSeed (P.withFilter aes z) side' .server := by
    rw [hserver, hserver', initialSeed, initialSeed, hkey]
  refine ⟨fun h => (h .server).1 hsame, fun hseeds => hhello ?_, hsame⟩
  rw [hclient, hclient'] at hseeds
  have hinput : seedInput y.1 = seedInput y'.1 :=
    hsha (Set.mem_insert _ _) (Set.mem_insert_of_mem _ rfl) hseeds
  rw [seedInput, seedInput, hkey] at hinput
  obtain ⟨huuid, htimestamp⟩ := checksumInput_inj hinput
  rw [huuid, htimestamp]

/-! ## Two connections of one key -/

def otherUuid : Uuid := 0xffeeddccbbaa99887766554433221100

/-- The checksums of a second connection as well. -/
def twoSha256 (input : Bytes) : Sha256 :=
  if input = checksumInput trialKey saltNormalData otherUuid trialTimestamp then
    digest 0x73df5afc17823a716b7d1d15b4be209bd317e797626c804b8d6a4d123fc5041d
  else if input = checksumInput trialKey saltClientHello otherUuid trialTimestamp then
    digest 0x1ca4bbdd033ed290e373ea38bbf70ac3954960545379a620f4ccbcc09fed3c6b
  else trialSha256 input

def twoPlatform : Platform MessageFilter := { trialPlatform with sha256 := twoSha256 }

/-- A server's connection on which a client has said hello. -/
def greetedServer (connectionUuid : Uuid) : List Event :=
  [.receiveData ClientHello.id (clientHelloFormat.serialize
    ⟨connectionUuid, trialTimestamp,
      twoPlatform.calculateChecksum trialKey saltClientHello connectionUuid trialTimestamp, []⟩),
    .work, .work]

def greeted (connectionUuid : Uuid) : InterserverConnection MessageFilter :=
  (Lts.final (next twoPlatform takesAll) (.new trialKey, ()) (greetedServer connectionUuid)).1

theorem greeted_run (connectionUuid : Uuid)
    (h : Lts.Admits (next twoPlatform takesAll) (fun x event => x.1.Enabled event)
      (.new trialKey, ()) (greetedServer connectionUuid)) :
    Lts.Run (Step (twoPlatform.withFilter trialAes storedZlib) takesAll) (.new trialKey, ())
      (Lts.trace (next twoPlatform takesAll) (.new trialKey, ()) (greetedServer connectionUuid))
      (greeted connectionUuid, ()) :=
  Lts.Run.of_admits (next twoPlatform takesAll) (fun x event => x.1.Enabled event) (step_next _ _)
    (.new trialKey, ()) (greetedServer connectionUuid) h

theorem newServer_started : (new trialKey : InterserverConnection MessageFilter).Started
    (twoPlatform.withFilter trialAes storedZlib) .server := ⟨trialKey, rfl⟩

theorem not_perConnectionKeys :
    (∀ connectionUuid ∈ [trialUuid, otherUuid], (greeted connectionUuid).authenticated = true ∧
      ∃ ls, Lts.Run (Step (twoPlatform.withFilter trialAes storedZlib) takesAll) (.new trialKey, ())
        ls (greeted connectionUuid, ())) ∧
      (greeted trialUuid).connectionUuid ≠ (greeted otherUuid).connectionUuid ∧
        ¬ PerConnectionKeys twoPlatform trialAes .server .server (greeted trialUuid)
          (greeted otherUuid) := by
  refine ⟨?_, by decide +kernel, fun h => absurd (h .server).1 (by decide +kernel)⟩
  intro connectionUuid hmem
  rcases List.mem_pair.mp hmem with rfl | rfl
  · exact ⟨by decide +kernel, _, greeted_run _ (by decide +kernel)⟩
  · exact ⟨by decide +kernel, _, greeted_run _ (by decide +kernel)⟩

theorem not_perConnectionKeys_of_run_trial :
    (greeted trialUuid).cipherSeed twoPlatform .server .server
      = (greeted otherUuid).cipherSeed twoPlatform .server .server :=
  (not_perConnectionKeys_of_run newServer_started (greeted_run trialUuid (by decide +kernel))
    (by decide +kernel) newServer_started (greeted_run otherUuid (by decide +kernel))
    (by decide +kernel) (by decide +kernel) (by decide +kernel)
    (Set.injOn_pair.mpr fun h => absurd h (by decide +kernel))).2.2

end Circe.Common
