import Circe.Common.Platform
import Mathlib.Data.UInt
import Mathlib.Data.List.Basic

/-!
# Common/MessageFilter — the cipher and the compressor of one connection

`StreamCipher` is cipher feedback byte by byte, over any block function; `MessageFilter` puts it
behind a streaming deflator.  What a filter encodes, a filter *in step* with it decodes, and the two
stay in step (`MessageFilter.decode_of_encode`): whatever was sent before, wherever in a block a
message begins.
-/

namespace Circe.Common

/-! ## `Stream_cipher` -/

/-- `AES_encrypt` under the key schedule of a seed. -/
abbrev AesEncrypt := Sha256 → Vector UInt8 16 → Vector UInt8 16

/-- A cipher is `count` bytes into its chunk; at `16` the chunk is used up. -/
structure StreamCipher where
  key : Sha256
  chunk : Vector UInt8 16
  count : ℕ
  count_le : count ≤ 16
deriving DecidableEq

namespace StreamCipher

/-- `Stream_cipher::reset`. -/
def reset (seed : Sha256) : StreamCipher := ⟨seed, Vector.replicate 16 42, 16, le_rfl⟩

/-- The cipher with a byte of its chunk left: a used up chunk is encrypted first. -/
def refill (aes : AesEncrypt) (c : StreamCipher) : {c : StreamCipher // c.count < 16} :=
  if h : c.count = 16 then ⟨⟨c.key, aes c.key c.chunk, 0, Nat.zero_le 16⟩, Nat.zero_lt_succ 15⟩
  else ⟨c, lt_of_le_of_ne c.count_le h⟩

/-- `Stream_cipher::filter`: one byte of cipher feedback. -/
def filter (aes : AesEncrypt) (c : StreamCipher) (input : UInt8) (toEncrypt : Bool) :
    UInt8 × StreamCipher :=
  let ⟨c, h⟩ := c.refill aes
  let output := c.chunk[c.count] ^^^ input
  let mask := if toEncrypt then output else input
  (output, ⟨c.key, c.chunk.set c.count mask, c.count + 1, h⟩)

/-- The loops of `decode` and `encode`: every byte of a buffer in turn. -/
def filterAll (aes : AesEncrypt) (toEncrypt : Bool) : StreamCipher → Bytes → Bytes × StreamCipher
  | c, [] => ([], c)
  | c, input :: rest =>
    let (output, c) := c.filter aes input toEncrypt
    let (outputs, c) := filterAll aes toEncrypt c rest
    (output :: outputs, c)

variable (aes : AesEncrypt)

/-- **A byte decrypts to what was encrypted**, and leaves the decryptor like the encryptor. -/
theorem filter_filter (c : StreamCipher) (input : UInt8) :
    c.filter aes (c.filter aes input true).1 false = (input, (c.filter aes input true).2) := by
  simp only [filter, if_true]
  refine Prod.ext ?_ rfl
  dsimp only
  rw [← UInt8.xor_assoc, UInt8.xor_self, UInt8.zero_xor]

theorem filterAll_filterAll (c : StreamCipher) (plain : Bytes) :
    filterAll aes false c (filterAll aes true c plain).1
      = (plain, (filterAll aes true c plain).2) := by
  induction plain generalizing c with
  | nil => rfl
  | cons input rest ih =>
    simp only [filterAll, filter_filter]
    rw [ih]

end StreamCipher

/-! ## zlib -/

/-- The bytes a sync flush ends in. -/
def syncFlushEnd : Bytes := [0x00, 0x00, 0xFF, 0xFF]

/-- What each flush of a deflator gives, `deflate earlier input` being the one of `input` after the
inputs `earlier`. -/
def flushesFrom (deflate : List Bytes → Bytes → Bytes) : List Bytes → List Bytes → List Bytes
  | _, [] => []
  | earlier, input :: inputs =>
    deflate earlier input :: flushesFrom deflate (earlier ++ [input]) inputs

/-- `Poseidon::Deflator` and `Poseidon::Inflator`: deterministic streams, so what one gives is a
function of what it was fed before. -/
structure Zlib where
  deflate : List Bytes → Bytes → Bytes
  inflate : List Bytes → Bytes → Except Exception Bytes
  /-- A sync flush of a non-empty input ends in `00 00 FF FF`. -/
  deflate_end : ∀ earlier input, input ≠ [] → syncFlushEnd <:+ deflate earlier input
  /-- Fed the same bytes, the inflator gives the inputs back. -/
  inflate_deflate : ∀ earlier input,
    (∀ flush ∈ flushesFrom deflate [] (earlier ++ [input]), syncFlushEnd <:+ flush) →
      inflate (flushesFrom deflate [] earlier) (deflate earlier input) = .ok input

namespace Zlib

/-- What a deflator gave for `inputs`. -/
def flushes (z : Zlib) (inputs : List Bytes) : List Bytes := flushesFrom z.deflate [] inputs

theorem flushesFrom_concat (deflate : List Bytes → Bytes → Bytes) (earlier inputs : List Bytes)
    (input : Bytes) :
    flushesFrom deflate earlier (inputs ++ [input])
      = flushesFrom deflate earlier inputs ++ [deflate (earlier ++ inputs) input] := by
  induction inputs generalizing earlier with
  | nil => simp [flushesFrom]
  | cons first rest ih => simp [flushesFrom, ih]

theorem flushes_concat (z : Zlib) (inputs : List Bytes) (input : Bytes) :
    z.flushes (inputs ++ [input]) = z.flushes inputs ++ [z.deflate inputs input] :=
  flushesFrom_concat z.deflate [] inputs input

end Zlib

/-! ## `Message_filter` -/

/-- A decoder, with all its inflator was fed, and an encoder, with all its deflator was fed. -/
structure MessageFilter where
  decryptor : StreamCipher
  inflated : List Bytes
  encryptor : StreamCipher
  deflated : List Bytes
deriving DecidableEq

/-- `POSEIDON_THROW_ASSERT(temp.unput() == byte)`. -/
def unput (byte : UInt8) (expr : String) (temp : Bytes) : Except Exception Bytes :=
  if temp.getLast? = some byte then .ok temp.dropLast else .error (.assertion expr)

namespace MessageFilter

variable (aes : AesEncrypt) (z : Zlib)

def make (seed : Sha256) : MessageFilter := ⟨.reset seed, [], .reset seed, []⟩

def decode (f : MessageFilter) (encodedPayload : Bytes) : Except Exception Bytes × MessageFilter :=
  let (temp, decryptor) := f.decryptor.filterAll aes false encodedPayload
  let temp := temp ++ syncFlushEnd
  (z.inflate f.inflated temp,
    { f with decryptor := decryptor, inflated := f.inflated ++ [temp] })

def reseedDecoderPrng (f : MessageFilter) (seed : Sha256) : MessageFilter :=
  { f with decryptor := .reset seed }

def encode (f : MessageFilter) (magicPayload : Bytes) : Except Exception Bytes × MessageFilter :=
  let temp := z.deflate f.deflated magicPayload
  let f := { f with deflated := f.deflated ++ [magicPayload] }
  let dropped := do
    let temp ← unput 0xFF "temp.unput() == 0xFF" temp
    let temp ← unput 0xFF "temp.unput() == 0xFF" temp
    let temp ← unput 0x00 "temp.unput() == 0x00" temp
    unput 0x00 "temp.unput() == 0x00" temp
  match dropped with
  | .error e => (.error e, f)
  | .ok temp =>
    let (encodedPayload, encryptor) := f.encryptor.filterAll aes true temp
    (.ok encodedPayload, { f with encryptor := encryptor })

def reseedEncoderPrng (f : MessageFilter) (seed : Sha256) : MessageFilter :=
  { f with encryptor := .reset seed }

/-- The filter the program has. -/
def interface : FilterInterface MessageFilter where
  make := make
  decode := decode aes z
  reseedDecoderPrng := reseedDecoderPrng
  encode := encode aes z
  reseedEncoderPrng := reseedEncoderPrng

/-! ### Two filters in step -/

/-- The receiver's cipher is where the sender's is, and its inflator was fed what the sender's
deflator gave, every flush of which came to its end. -/
structure InStep (sender receiver : MessageFilter) : Prop where
  cipher : receiver.decryptor = sender.encryptor
  stream : receiver.inflated = z.flushes sender.deflated
  ended : ∀ flush ∈ z.flushes sender.deflated, syncFlushEnd <:+ flush

theorem unput_ok {byte : UInt8} {expr : String} {temp rest : Bytes} :
    unput byte expr temp = .ok rest ↔ temp = rest ++ [byte] := by
  rw [unput]
  split
  case isTrue h =>
    obtain ⟨front, rfl⟩ := List.getLast?_eq_some_iff.mp h
    simp [eq_comm]
  case isFalse h =>
    refine iff_of_false (by simp) ?_
    rintro rfl
    exact h (by simp)

/-- A chain of throwing calls that comes to its end. -/
theorem bind_ok {α β : Type} {x : Except Exception α} {f : α → Except Exception β} {b : β}
    (h : (x >>= f) = .ok b) : ∃ a, x = .ok a ∧ f a = .ok b := by
  cases x with
  | error e => exact absurd h (by simp [bind, Except.bind])
  | ok a => exact ⟨a, rfl, h⟩

/-- An encoding that goes through drops the end of a flush and encrypts the rest. -/
theorem encode_ok {f f' : MessageFilter} {magicPayload encodedPayload : Bytes}
    (h : f.encode aes z magicPayload = (.ok encodedPayload, f')) :
    ∃ temp, z.deflate f.deflated magicPayload = temp ++ syncFlushEnd ∧
      encodedPayload = (f.encryptor.filterAll aes true temp).1 ∧
      f' = { f with
        encryptor := (f.encryptor.filterAll aes true temp).2
        deflated := f.deflated ++ [magicPayload] } := by
  simp only [encode] at h
  split at h
  case h_1 => simp at h
  case h_2 temp hdropped =>
    obtain ⟨t₁, h₁, hdropped⟩ := bind_ok hdropped
    obtain ⟨t₂, h₂, hdropped⟩ := bind_ok hdropped
    obtain ⟨t₃, h₃, h₄⟩ := bind_ok hdropped
    rw [unput_ok] at h₁ h₂ h₃ h₄
    cases h
    refine ⟨temp, ?_, rfl, rfl⟩
    rw [h₁, h₂, h₃, h₄]
    simp [syncFlushEnd]

/-- **What one filter encodes, a filter in step with it decodes**, and they stay in step. -/
theorem decode_of_encode {s s' r : MessageFilter} {magicPayload encodedPayload : Bytes}
    (hstep : InStep z s r) (h : s.encode aes z magicPayload = (.ok encodedPayload, s')) :
    ∃ r', r.decode aes z encodedPayload = (.ok magicPayload, r') ∧ InStep z s' r' := by
  obtain ⟨temp, hdeflate, rfl, rfl⟩ := encode_ok aes z h
  have hended : ∀ flush ∈ z.flushes (s.deflated ++ [magicPayload]), syncFlushEnd <:+ flush := by
    intro flush hflush
    rw [z.flushes_concat, List.mem_append, List.mem_singleton] at hflush
    rcases hflush with hflush | rfl
    · exact hstep.ended flush hflush
    · exact ⟨temp, hdeflate.symm⟩
  have hinflate : z.inflate r.inflated (temp ++ syncFlushEnd) = .ok magicPayload := by
    rw [hstep.stream, ← hdeflate]
    exact z.inflate_deflate s.deflated magicPayload hended
  have hdecode : r.decode aes z (s.encryptor.filterAll aes true temp).1
      = (.ok magicPayload, { r with
          decryptor := (s.encryptor.filterAll aes true temp).2
          inflated := r.inflated ++ [temp ++ syncFlushEnd] }) := by
    simp only [decode, hstep.cipher, StreamCipher.filterAll_filterAll, hinflate]
  refine ⟨_, hdecode, rfl, ?_, hended⟩
  rw [z.flushes_concat, ← hstep.stream, hdeflate]

/-- **The filter of the program keeps in step.** -/
theorem keepsInStep : (interface aes z).KeepsInStep (InStep z) where
  make _ := ⟨rfl, rfl, by simp [interface, make, Zlib.flushes, flushesFrom]⟩
  decode_of_encode := decode_of_encode aes z
  reseed _ h := ⟨rfl, h.stream, h.ended⟩
  sender_decode _ h := ⟨h.cipher, h.stream, h.ended⟩
  sender_reseed _ h := ⟨h.cipher, h.stream, h.ended⟩
  receiver_encode := by
    intro s r magicPayload h
    simp only [interface, encode]
    split <;> exact ⟨h.cipher, h.stream, h.ended⟩
  receiver_reseed _ h := ⟨h.cipher, h.stream, h.ended⟩

/-- A non-empty payload is encoded. -/
theorem encode_of_ne_nil (f : MessageFilter) {magicPayload : Bytes} (h : magicPayload ≠ []) :
    ∃ encodedPayload f', f.encode aes z magicPayload = (.ok encodedPayload, f') := by
  obtain ⟨temp, htemp⟩ := z.deflate_end f.deflated magicPayload h
  refine ⟨(f.encryptor.filterAll aes true temp).1, _, Prod.ext ?_ rfl⟩
  simp only [encode, ← htemp]
  have hunput : ∀ (byte : UInt8) (expr : String) (rest : Bytes),
      unput byte expr (rest ++ [byte]) = .ok rest := fun _ _ _ => unput_ok.mpr rfl
  have hend : temp ++ syncFlushEnd = ((temp ++ [0x00] ++ [0x00]) ++ [0xFF]) ++ [0xFF] := by
    simp [syncFlushEnd]
  rw [hend, hunput]
  simp only [bind, Except.bind, hunput]

end MessageFilter

/-- A platform with the filter of the program. -/
def Platform.withFilter (P : Platform MessageFilter) (aes : AesEncrypt) (z : Zlib) :
    Platform MessageFilter :=
  { P with filter := MessageFilter.interface aes z }

end Circe.Common
