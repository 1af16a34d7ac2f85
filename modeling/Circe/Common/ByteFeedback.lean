import Circe.Common.MessageFilter
import Circe.Foundations.CipherFeedback

/-!
# Common/ByteFeedback — the byte-wise cipher of a connection is block cipher feedback

Inside a block the chunk of a `StreamCipher` is ciphertext below `count` and keystream from there on
(`filterAll_of_le`); at the end of the block it is the ciphertext block, which the next byte has
encrypted (`filterAll_refill`).  So the bytes come out as `CipherFeedback.encrypt` has them
(`filterAll_eq_encrypt`), and where the messages end does not matter (`filterEach_eq_filterAll`).
-/

namespace Circe.Common

namespace StreamCipher

/-- The messages of a connection in turn, each through the loop of `decode` or `encode`. -/
def filterEach (aes : AesEncrypt) (toEncrypt : Bool) :
    StreamCipher → List Bytes → List Bytes × StreamCipher
  | c, [] => ([], c)
  | c, message :: rest =>
    let (output, c) := c.filterAll aes toEncrypt message
    let (outputs, c) := filterEach aes toEncrypt c rest
    (output :: outputs, c)

variable {aes : AesEncrypt} {toEncrypt : Bool} {c : StreamCipher}

theorem filterAll_cons (input : UInt8) (rest : Bytes) :
    c.filterAll aes toEncrypt (input :: rest)
      = ((c.filter aes input toEncrypt).1
          :: ((c.filter aes input toEncrypt).2.filterAll aes toEncrypt rest).1,
        ((c.filter aes input toEncrypt).2.filterAll aes toEncrypt rest).2) :=
  rfl

theorem filterAll_append (front back : Bytes) :
    c.filterAll aes toEncrypt (front ++ back)
      = ((c.filterAll aes toEncrypt front).1
          ++ ((c.filterAll aes toEncrypt front).2.filterAll aes toEncrypt back).1,
        ((c.filterAll aes toEncrypt front).2.filterAll aes toEncrypt back).2) := by
  induction front generalizing c with
  | nil => rfl
  | cons input rest ih =>
    rw [List.cons_append, filterAll_cons, ih, filterAll_cons, List.cons_append]

/-- **The cuts between messages do not matter.** -/
theorem filterEach_eq_filterAll (messages : List Bytes) :
    ((c.filterEach aes toEncrypt messages).1.flatten, (c.filterEach aes toEncrypt messages).2)
      = c.filterAll aes toEncrypt messages.flatten := by
  induction messages generalizing c with
  | nil => rfl
  | cons message rest ih =>
    rw [List.flatten_cons, filterAll_append, ← ih]
    rfl

/-! ## Within a block -/

/-- The chunk of a cipher: ciphertext that came out, then keystream that is left. -/
structure InBlock (c : StreamCipher) (key : Sha256) (ciphertext keystream : Bytes) : Prop where
  key : c.key = key
  chunk : c.chunk.toList = ciphertext ++ keystream
  count : c.count = ciphertext.length

theorem inBlock_reset (seed : Sha256) :
    (reset seed).InBlock seed (Vector.replicate 16 42).toList [] :=
  ⟨rfl, rfl, rfl⟩

variable {key : Sha256} {ciphertext keystream left : Bytes}

/-- **A used up chunk is encrypted** for the next byte. -/
theorem InBlock.refill {prev : Vector UInt8 16} (h : c.InBlock key prev.toList []) :
    (c.refill aes).1.InBlock key [] (aes key prev).toList := by
  have hcount : c.count = 16 := h.count.trans prev.length_toList
  have hprev : c.chunk = prev := Vector.toList_inj.mp (h.chunk.trans (List.append_nil _))
  rw [StreamCipher.refill, dif_pos hcount, h.key, hprev]
  exact ⟨rfl, rfl, rfl⟩

/-- A cipher with keystream left is not refilled. -/
theorem InBlock.lt {k : UInt8} (h : c.InBlock key ciphertext (k :: keystream)) :
    c.count < 16 := by
  have hlen : (ciphertext ++ k :: keystream).length = 16 := h.chunk ▸ c.chunk.length_toList
  rw [List.length_append, List.length_cons] at hlen
  have := h.count
  omega

/-- **One byte within a block**: it meets the first byte of the keystream, and what comes out is
the next byte of the ciphertext. -/
theorem InBlock.filter {k : UInt8} (h : c.InBlock key ciphertext (k :: keystream)) (input : UInt8) :
    (c.filter aes input true).1 = input ^^^ k ∧
      (c.filter aes input true).2.InBlock key (ciphertext ++ [input ^^^ k]) keystream := by
  have hlt : c.count < 16 := h.lt
  have hrefill : c.refill aes = ⟨c, hlt⟩ := by rw [StreamCipher.refill, dif_neg hlt.ne]
  have hmask : c.chunk[c.count] = k := by
    have hindex : c.count < c.chunk.toList.length := by rw [Vector.length_toList]; exact hlt
    rw [← Vector.getElem_toList hindex, List.getElem_of_eq h.chunk]
    simp [h.count]
  have hset : (c.chunk.set c.count (k ^^^ input)).toList
      = ciphertext ++ [input ^^^ k] ++ keystream := by
    rw [Vector.toList_set, h.chunk, h.count, UInt8.xor_comm]
    simp
  rw [StreamCipher.filter, hrefill]
  dsimp only
  rw [hmask]
  refine ⟨UInt8.xor_comm k input, h.key, hset, ?_⟩
  simp [h.count]

/-- **The bytes within a block** come out mixed with its keystream. -/
theorem InBlock.filterAll {plain : Bytes} (h : c.InBlock key ciphertext keystream)
    (hle : plain.length ≤ keystream.length) :
    (c.filterAll aes true plain).1 = List.zipWith (· ^^^ ·) plain keystream ∧
      (c.filterAll aes true plain).2.InBlock key
        (ciphertext ++ List.zipWith (· ^^^ ·) plain keystream) (keystream.drop plain.length) := by
  induction plain generalizing c ciphertext keystream with
  | nil =>
    refine ⟨rfl, ?_⟩
    rw [List.zipWith_nil_left, List.append_nil]
    exact h
  | cons input rest ih =>
    cases keystream with
    | nil => exact absurd hle (Nat.not_succ_le_zero _)
    | cons k keystream =>
      obtain ⟨hout, hnext⟩ : (c.filter aes input true).1 = _ ∧ _ := h.filter input
      obtain ⟨houts, hrest⟩ := ih hnext (Nat.le_of_succ_le_succ hle)
      rw [filterAll_cons, hout, houts]
      refine ⟨rfl, ?_⟩
      rw [List.append_assoc] at hrest
      exact hrest

/-! ## From block to block -/

/-- The next byte would have the chunk encrypted anyway. -/
theorem filterAll_refill {bytes : Bytes} (h : bytes ≠ []) :
    (c.refill aes).1.filterAll aes toEncrypt bytes = c.filterAll aes toEncrypt bytes := by
  have hrefill : (c.refill aes).1.refill aes = c.refill aes := by
    rw [StreamCipher.refill, dif_neg (c.refill aes).2.ne]
  obtain ⟨input, rest, rfl⟩ := List.exists_cons_of_ne_nil h
  have hfilter : (c.refill aes).1.filter aes input toEncrypt = c.filter aes input toEncrypt := by
    rw [StreamCipher.filter, hrefill, StreamCipher.filter]
  rw [filterAll_cons, hfilter, ← filterAll_cons]

/-- **Byte by byte is block by block.** -/
theorem filterAll_eq_encrypt {prev : Vector UInt8 16} (h : c.InBlock key prev.toList [])
    (plain : Bytes) :
    (c.filterAll aes true plain).1 = CipherFeedback.encrypt (· ^^^ ·) (aes key) prev plain := by
  induction hn : plain.length using Nat.strong_induction_on generalizing c prev plain with
  | _ n ih =>
  by_cases hnil : plain = []
  · subst hnil
    rw [CipherFeedback.encrypt_of_lt _ _ _ (by decide)]
    rfl
  have hkeystream : (aes key prev).toList.length = 16 := Vector.length_toList
  rw [← filterAll_refill hnil]
  rcases lt_or_ge plain.length 16 with hlt | hge
  case inl =>
    have hle : plain.length ≤ (aes key prev).toList.length := hlt.le.trans_eq hkeystream.symm
    rw [(h.refill.filterAll hle).1, CipherFeedback.encrypt_of_lt _ _ _ hlt]
  case inr =>
    -- A whole block goes out, and the rest starts from it.
    obtain ⟨first, rest, rfl, hlen⟩ : ∃ first rest, plain = first ++ rest ∧ first.length = 16 :=
      ⟨plain.take 16, plain.drop 16, (List.take_append_drop 16 plain).symm,
        List.length_take_of_le hge⟩
    obtain ⟨block, hblock, hencrypt⟩ :=
      CipherFeedback.encrypt_append (· ^^^ ·) (aes key) prev hlen rest
    have hrefill : (c.refill aes).1.InBlock key [] (aes key prev).toList := h.refill
    obtain ⟨hout, hnext⟩ : ((c.refill aes).1.filterAll aes true first).1 = _ ∧ _ :=
      hrefill.filterAll (hlen.trans hkeystream.symm).le
    rw [← hblock] at hout hnext
    rw [hlen, List.drop_of_length_le hkeystream.le, List.nil_append] at hnext
    have hlt : rest.length < n := by
      rw [← hn, List.length_append, hlen]
      omega
    rw [filterAll_append, hout, hencrypt, ih rest.length hlt hnext rest rfl]

/-! ## Whole runs of a cipher -/

/-- The index at which the next byte meets the chunk. -/
def index (aes : AesEncrypt) (c : StreamCipher) : ℕ := (c.refill aes).1.count

theorem index_eq : c.index aes = c.count % 16 := by
  rw [index, refill]
  split
  case isTrue h => rw [h]
  case isFalse h => exact (Nat.mod_eq_of_lt (lt_of_le_of_ne c.count_le h)).symm

/-- **The index goes round**: byte after byte, block after block. -/
theorem index_filterAll (bytes : Bytes) :
    (c.filterAll aes toEncrypt bytes).2.index aes = (c.count + bytes.length) % 16 := by
  induction bytes generalizing c with
  | nil => exact index_eq
  | cons input rest ih =>
    have hcount : (c.filter aes input toEncrypt).2.count = c.count % 16 + 1 := by
      have hindex : c.index aes = c.count % 16 := index_eq
      rw [← hindex]
      rfl
    rw [filterAll_cons, ih, hcount, List.length_cons]
    omega

/-- **Messages decrypt to what was encrypted**, each to its own. -/
theorem filterEach_filterEach (messages : List Bytes) :
    c.filterEach aes false (c.filterEach aes true messages).1
      = (messages, (c.filterEach aes true messages).2) := by
  induction messages generalizing c with
  | nil => rfl
  | cons message rest ih =>
    simp only [filterEach, filterAll_filterAll]
    rw [ih]

/-- **The stream cipher of a connection is block cipher feedback**, however its bytes are cut into
messages: the same ciphertext comes out, it decrypts message by message and in any other pieces, and
byte `j` meets the chunk at `j` modulo the block. -/
theorem filterEach_eq_cipherFeedback (aes : AesEncrypt) (seed : Sha256) (messages : List Bytes) :
    ((reset seed).filterEach aes true messages).1.flatten
        = CipherFeedback.encrypt (· ^^^ ·) (aes seed) (Vector.replicate 16 42) messages.flatten ∧
      ((reset seed).filterEach aes false ((reset seed).filterEach aes true messages).1).1
        = messages ∧
      (∀ pieces : List Bytes,
        pieces.flatten = ((reset seed).filterEach aes true messages).1.flatten →
          ((reset seed).filterEach aes false pieces).1.flatten = messages.flatten) ∧
      ∀ (toEncrypt : Bool) (earlier : Bytes),
        ((reset seed).filterAll aes toEncrypt earlier).2.index aes = earlier.length % 16 := by
  have hflatten : ∀ (toEncrypt : Bool) (messages : List Bytes),
      ((reset seed).filterEach aes toEncrypt messages).1.flatten
        = ((reset seed).filterAll aes toEncrypt messages.flatten).1 :=
    fun _ messages => congrArg Prod.fst (filterEach_eq_filterAll messages)
  refine ⟨?_, ?_, ?_, ?_⟩
  · rw [hflatten, filterAll_eq_encrypt (inBlock_reset seed)]
  · rw [filterEach_filterEach]
  · intro pieces hpieces
    rw [hflatten, hpieces, hflatten, filterAll_filterAll]
  · intro toEncrypt earlier
    rw [index_filterAll, reset, Nat.add_mod_left]

end StreamCipher

namespace MessageFilter

variable (aes : AesEncrypt) (z : Zlib)

/-- Payloads encoded one after the other, as long as each goes through. -/
def encodeEach : MessageFilter → List Bytes → Except Exception (List Bytes × MessageFilter)
  | f, [] => .ok ([], f)
  | f, magicPayload :: rest =>
    match f.encode aes z magicPayload with
    | (.error e, _) => .error e
    | (.ok encodedPayload, f) =>
      (encodeEach f rest).map fun (encodedPayloads, f) => (encodedPayload :: encodedPayloads, f)

/-- What goes out is what the deflator gave, without the ends of the flushes, encrypted. -/
theorem encodeEach_ok {f f' : MessageFilter} {magicPayloads encodedPayloads : List Bytes}
    (h : f.encodeEach aes z magicPayloads = .ok (encodedPayloads, f')) :
    ∃ temps : List Bytes,
      flushesFrom z.deflate f.deflated magicPayloads = temps.map (· ++ syncFlushEnd) ∧
      encodedPayloads = (f.encryptor.filterEach aes true temps).1 := by
  induction magicPayloads generalizing f encodedPayloads with
  | nil =>
    cases h
    exact ⟨[], rfl, rfl⟩
  | cons magicPayload rest ih =>
    rw [encodeEach] at h
    split at h
    case h_1 => cases h
    case h_2 encodedPayload f₁ hencode =>
      obtain ⟨temp, hdeflate, rfl, rfl⟩ := encode_ok aes z hencode
      cases hrest : encodeEach aes z _ rest with
      | error e => rw [hrest] at h; cases h
      | ok out =>
        rw [hrest] at h
        cases h
        obtain ⟨temps, hflushes, hout⟩ := ih hrest
        refine ⟨temp :: temps, ?_, ?_⟩
        · rw [flushesFrom, hdeflate, hflushes, List.map_cons]
        · rw [hout]
          rfl

/-- **The bytes a new connection sends** are the cipher feedback of its deflated stream. -/
theorem encodeEach_make {seed : Sha256} {f : MessageFilter}
    {magicPayloads encodedPayloads : List Bytes}
    (h : (make seed).encodeEach aes z magicPayloads = .ok (encodedPayloads, f)) :
    ∃ temps : List Bytes, z.flushes magicPayloads = temps.map (· ++ syncFlushEnd) ∧
      encodedPayloads.flatten
        = CipherFeedback.encrypt (· ^^^ ·) (aes seed) (Vector.replicate 16 42) temps.flatten := by
  obtain ⟨temps, hflushes, rfl⟩ := encodeEach_ok aes z h
  refine ⟨temps, hflushes, ?_⟩
  rw [← StreamCipher.filterAll_eq_encrypt (StreamCipher.inBlock_reset seed),
    ← StreamCipher.filterEach_eq_filterAll]
  rfl

end MessageFilter

end Circe.Common
