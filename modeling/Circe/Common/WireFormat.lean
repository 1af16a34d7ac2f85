import Circe.Common.MessageFilter
import Mathlib.Tactic.Ring

/-!
# Common/WireFormat — the message formats, field by field

`FIELD_VUINT`, `FIELD_VINT`, `FIELD_STRING`, `FIELD_FIXED` and `FIELD_REPEATED` as codecs, and the
formats of the four messages of a connection put together from them.  A connection is proved correct
for any formats; these are the ones it is run with.
-/

namespace Circe

/-! ## Fields of a fixed size -/

/-- The number that bytes spell, the most significant first. -/
def ofBigEndian (bytes : Bytes) : ℕ := bytes.foldl (fun n b => n * 256 + b.toNat) 0

theorem length_bigEndian (width n : ℕ) : (bigEndian width n).length = width := by
  induction width with
  | zero => rfl
  | succ width ih => rw [bigEndian, List.length_cons, ih]

theorem foldl_bigEndian (width n start : ℕ) :
    (bigEndian width n).foldl (fun n b => n * 256 + b.toNat) start
      = start * 256 ^ width + n % 256 ^ width := by
  induction width generalizing start with
  | zero => simp [bigEndian, Nat.mod_one]
  | succ width ih =>
    have hbyte : (UInt8.ofNat (n / 256 ^ width)).toNat = n / 256 ^ width % 256 :=
      UInt8.toNat_ofNat'
    rw [bigEndian, List.foldl_cons, ih, hbyte, pow_succ, Nat.mod_mul]
    ring

theorem ofBigEndian_bigEndian {width n : ℕ} (h : n < 256 ^ width) :
    ofBigEndian (bigEndian width n) = n := by
  rw [ofBigEndian, foldl_bigEndian, Nat.zero_mul, Nat.zero_add, Nat.mod_eq_of_lt h]

namespace Codec

variable {ε α : Type}

/-- The next `width` bytes, as they are. -/
def fixed (width : ℕ) (e : ε) : Codec ε (Vector UInt8 width) where
  serialize v := v.toList
  deserialize bytes :=
    if h : width ≤ bytes.length then
      .ok (⟨(bytes.take width).toArray, by simpa using h⟩, bytes.drop width)
    else .error e
  deserialize_serialize := by
    intro v rest
    rw [dif_pos (by simp)]
    congr 1
    refine Prod.ext (Vector.toList_inj.mp ?_) (by simp)
    simp [Vector.toList]

end Codec

namespace Common

/-! ## Fields -/

def endOfStream : Exception := .exception "End of stream encountered"

/-- `FIELD_VUINT`. -/
def vuintField : Codec Exception UInt64 :=
  (Codec.nat endOfStream).ofEquiv UInt64.toNat UInt64.ofNat fun n => by simp

/-- `FIELD_VINT`: the sign is the lowest bit. -/
def vintField : Codec Exception Int64 :=
  (Codec.nat endOfStream).ofEquiv
    (fun i => if i.toInt < 0 then 2 * i.toInt.natAbs - 1 else 2 * i.toInt.natAbs)
    (fun n => Int64.ofInt (if n % 2 = 1 then -(n / 2 + 1 : ℕ) else (n / 2 : ℕ))) fun i => by
      have hi : Int64.ofInt i.toInt = i := Int64.ofInt_toInt i
      conv_rhs => rw [← hi]
      congr 1
      split <;> split <;> omega

/-- `FIELD_STRING`, of bytes. -/
def bytesField : Codec Exception Bytes :=
  ((Codec.fixed 1 endOfStream).ofEquiv (fun b => Vector.singleton b) (fun v => v[0])
    fun _ => rfl).list endOfStream

/-- `FIELD_STRING`, of a text. -/
def textField : Codec Exception String :=
  ((Codec.nat endOfStream).ofEquiv Char.toNat Char.ofNat Char.ofNat_toNat).list endOfStream
    |>.ofEquiv String.toList String.ofList fun _ => String.ofList_toList

/-- `FIELD_FIXED` of a UUID. -/
def uuidField : Codec Exception Uuid :=
  (Codec.fixed 16 endOfStream).ofEquiv
    (fun u => ⟨(bigEndian 16 u.val).toArray, by simp [length_bigEndian]⟩)
    (fun v => Fin.ofNat (2 ^ 128) (ofBigEndian v.toList)) fun u => by
      have hu : u.val < 256 ^ 16 := by have := u.isLt; omega
      apply Fin.ext
      simp [ofBigEndian_bigEndian hu]

/-- `FIELD_REPEATED` of `Protocol::Common_key_value`. -/
def optionsField : Codec Exception (List CommonKeyValue) :=
  ((bytesField.prod bytesField).ofEquiv (fun o => (o.key, o.value)) (fun o => ⟨o.1, o.2⟩)
    fun _ => rfl).list endOfStream

/-! ## Messages -/

def clientHelloFormat : Codec Exception ClientHello :=
  (uuidField.prod (vuintField.prod ((Codec.fixed 32 endOfStream).prod optionsField))).ofEquiv
    (fun m => (m.connectionUuid, m.timestamp, m.checksumReq, m.optionsReq))
    (fun x => ⟨x.1, x.2.1, x.2.2.1, x.2.2.2⟩) fun _ => rfl

def serverHelloFormat : Codec Exception ServerHello :=
  ((Codec.fixed 32 endOfStream).prod optionsField).ofEquiv
    (fun m => (m.checksumResp, m.optionsResp)) (fun x => ⟨x.1, x.2⟩) fun _ => rfl

def userRequestHeaderFormat : Codec Exception UserRequestHeader :=
  vuintField.ofEquiv (fun h => h.serial) (fun n => ⟨n⟩) fun _ => rfl

def userResponseHeaderFormat : Codec Exception UserResponseHeader :=
  (vuintField.prod (vintField.prod textField)).ofEquiv
    (fun h => (h.serial, h.errCode, h.errMsg)) (fun x => ⟨x.1, x.2.1, x.2.2⟩) fun _ => rfl

/-! ## A platform to run with

zlib at level 0 (stored blocks), and SHA-256 and AES as tables of their values at one application
key, UUID and time. -/

/-- One stored block, the header of the stream before the first, and the empty block of the
flush. -/
def storedDeflate (earlier : List Bytes) (input : Bytes) : Bytes :=
  (if earlier = [] then [0x78, 0x01] else []) ++
    0x00 :: UInt8.ofNat input.length :: UInt8.ofNat (input.length / 256) ::
      UInt8.ofNat (255 - input.length) :: UInt8.ofNat (255 - input.length / 256) ::
        input ++ 0x00 :: syncFlushEnd

/-- Accepts exactly what `storedDeflate` gives. -/
def storedInflate (earlier : List Bytes) (chunk : Bytes) : Except Exception Bytes :=
  let block := chunk.drop (if earlier = [] then 7 else 5)
  let input := block.take (block.length - 5)
  if storedDeflate earlier input = chunk then .ok input
  else .error (.exception "Inflator failed")

def storedZlib : Zlib where
  deflate := storedDeflate
  inflate := storedInflate
  deflate_end earlier input _ := by
    refine ⟨(if earlier = [] then [0x78, 0x01] else []) ++ 0x00 :: UInt8.ofNat input.length ::
      UInt8.ofNat (input.length / 256) :: UInt8.ofNat (255 - input.length) ::
        UInt8.ofNat (255 - input.length / 256) :: input ++ [0x00], ?_⟩
    simp [storedDeflate]
  inflate_deflate earlier input _ := by
    have hstart : flushesFrom storedDeflate [] earlier = [] ↔ earlier = [] := by
      cases earlier <;> simp [flushesFrom]
    have hblock : (storedDeflate earlier input).drop (if earlier = [] then 7 else 5)
        = input ++ 0x00 :: syncFlushEnd := by
      rw [storedDeflate]
      split <;> simp
    have hsame : storedDeflate (flushesFrom storedDeflate [] earlier) input
        = storedDeflate earlier input := by
      simp only [storedDeflate, hstart]
    simp only [storedInflate, hstart, hblock]
    have hinput : (input ++ 0x00 :: syncFlushEnd).take
        ((input ++ 0x00 :: syncFlushEnd).length - 5) = input := by
      simp [syncFlushEnd]
    rw [hinput, if_pos hsame]

/-- The 32 bytes of a number. -/
def digest (n : ℕ) : Sha256 := Vector.ofFn fun i => UInt8.ofNat (n / 256 ^ (31 - i.val))

/-- The 16 bytes of a number. -/
def chunk (n : ℕ) : Vector UInt8 16 := Vector.ofFn fun i => UInt8.ofNat (n / 256 ^ (15 - i.val))

def trialKey : Bytes := asciiBytes "k"
def trialUuid : Uuid := 0x00112233445566778899aabbccddeeff
def trialTimestamp : UInt64 := 1500000000000

def trialAuthenticationSeed : Sha256 :=
  digest 0xbde50ce024590c5a78e24fd46bd839e4a8b561df1d010081e66870d3ec3dadf6

def trialNormalDataSeed : Sha256 :=
  digest 0x9e6a1d4b91e0ac552351472f8e594b33eebc994dd9aa9e71944a21c558449272

def trialSha256 (input : Bytes) : Sha256 :=
  if input = checksumInput trialKey saltAuthentication 0 0 then trialAuthenticationSeed
  else if input = checksumInput trialKey saltNormalData trialUuid trialTimestamp then
    trialNormalDataSeed
  else if input = checksumInput trialKey saltClientHello trialUuid trialTimestamp then
    digest 0x226ff1b9457d7de9d65ea47ce31eecdb10dae53d42ef4a1637ad4a85918a1458
  else if input = checksumInput trialKey saltServerHello trialUuid trialTimestamp then
    digest 0x940c0db936a72c7163c97ff8febf55b741f9097feb722c28c4338a75dbece992
  else digest 0

def trialAes (key : Sha256) (block : Vector UInt8 16) : Vector UInt8 16 :=
  if key = trialAuthenticationSeed ∧ block = Vector.replicate 16 42 then
    chunk 0xb7369cd96de9b9115480b51570b6422b
  else if key = trialAuthenticationSeed ∧ block = chunk 0xcf379cdd6d1246105480b11570b442d6 then
    chunk 0x52ac770f733703ba3866299c50cead81
  else if key = trialNormalDataSeed ∧ block = Vector.replicate 16 42 then
    chunk 0xae39ea72a2300842f0f437b279bbb2ba
  else if key = trialNormalDataSeed ∧ block = chunk 0xd638ea70a2cdf743f1f437b379454db3 then
    chunk 0xfa13cc666cf67b556077b3adb5a82ec4
  else block

def trialPlatform : Platform MessageFilter where
  sha256 := trialSha256
  statusShutdown := -1000
  statusPing := -1001
  statusPong := -1002
  clientHello := clientHelloFormat
  serverHello := serverHelloFormat
  userRequestHeader := userRequestHeaderFormat
  userResponseHeader := userResponseHeaderFormat
  filter := MessageFilter.interface trialAes storedZlib

end Common

end Circe
