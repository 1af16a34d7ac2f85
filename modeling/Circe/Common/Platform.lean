import Circe.Foundations.Codec
import Circe.Foundations.FlatMap
import Circe.Protocol.Basic

/-!
# Common/Platform — what an interserver connection is built from

The exceptions and responses of the `Common` library, the messages of `interserver_connection.cpp`,
and the parts that come from elsewhere: SHA-256, the message formats of Poseidon, and the message
filter of a connection.  A connection uses its filter through `FilterInterface` only;
`Common/MessageFilter` gives the one the program has.
-/

namespace Circe

instance uint8LinearOrder : LinearOrder UInt8 where
  le_refl := UInt8.le_refl
  le_trans _ _ _ := UInt8.le_trans
  le_antisymm _ _ := UInt8.le_antisymm
  le_total := UInt8.le_total
  lt_iff_le_not_ge _ _ := by simp only [UInt8.le_iff_toNat_le, UInt8.lt_iff_toNat_lt]; omega
  toDecidableLE := inferInstance

instance uint64LinearOrder : LinearOrder UInt64 where
  le_refl := UInt64.le_refl
  le_trans _ _ _ := UInt64.le_trans
  le_antisymm _ _ := UInt64.le_antisymm
  le_total := UInt64.le_total
  lt_iff_le_not_ge _ _ := by simp only [UInt64.le_iff_toNat_le, UInt64.lt_iff_toNat_lt]; omega
  toDecidableLE := inferInstance

/-- The `width` low bytes of a number, the most significant first (`Poseidon::store_be`). -/
def bigEndian : ℕ → ℕ → Bytes
  | 0, _ => []
  | width + 1, n => UInt8.ofNat (n / 256 ^ width) :: bigEndian width n

/-- The bytes of an ASCII text. -/
def asciiBytes (text : String) : Bytes := text.toList.map fun c => UInt8.ofNat c.toNat

/-- The text of some bytes, one character a byte. -/
def textOfBytes (bytes : Bytes) : String := .ofList (bytes.map fun b => Char.ofNat b.toNat)

namespace Common

/-! ## Exceptions and responses -/

/-- What can be thrown: a `Protocol::Exception`, which has a status code, or another
`std::exception`, a failed assertion among them. -/
inductive Exception
  | protocol (statusCode : Int64) (what : String)
  | exception (what : String)
  | assertion (expr : String)
deriving DecidableEq

/-- The status code the `catch` clauses go on with. -/
def Exception.statusCode : Exception → Int64
  | .protocol statusCode _ => statusCode
  | .exception _ | .assertion _ => Protocol.errorInternalError

def Exception.what : Exception → String
  | .protocol _ what | .exception what | .assertion what => what

/-- `Interserver_response`. -/
structure InterserverResponse where
  errCode : Int64
  errMsg : String
  messageId : UInt64
  payload : Bytes
deriving DecidableEq

/-- `Interserver_response(long, std::string)`: no payload. -/
def InterserverResponse.ofError (errCode : Int64) (errMsg : String) : InterserverResponse :=
  ⟨errCode, errMsg, 0, []⟩

/-- The response for what `layer7_on_sync_message` returned or threw. -/
def InterserverResponse.ofHandled : Except Exception InterserverResponse → InterserverResponse
  | .ok resp => resp
  | .error e => .ofError e.statusCode e.what

/-! ## Messages -/

/-- `Protocol::Common_key_value`. -/
structure CommonKeyValue where
  key : Bytes
  value : Bytes
deriving DecidableEq

structure ClientHello where
  connectionUuid : Uuid
  timestamp : UInt64
  checksumReq : Sha256
  optionsReq : List CommonKeyValue
deriving DecidableEq

structure ServerHello where
  checksumResp : Sha256
  optionsResp : List CommonKeyValue
deriving DecidableEq

structure UserRequestHeader where
  serial : UInt64
deriving DecidableEq

structure UserResponseHeader where
  serial : UInt64
  errCode : Int64
  errMsg : String
deriving DecidableEq

/-- `Poseidon::Option_map`: values under keys, those of one key in the order they were appended. -/
abbrev OptionMap := List (Bytes × Bytes)

/-! ### Magic numbers -/

def magicFlagIsResponse : UInt16 := 0x8000
def magicFlagWantsResponse : UInt16 := 0x4000
def magicFlagPredefined : UInt16 := 0x2000
def magicFlagReserved : UInt16 := 0x1000

def ClientHello.id : UInt16 := magicFlagPredefined + 1
def ServerHello.id : UInt16 := magicFlagPredefined + 2

def messageIdMin : UInt64 := 0x0001
def messageIdMax : UInt64 := 0x0FFF

def isMessageIdValid (messageId : UInt64) : Bool :=
  messageIdMin ≤ messageId && messageId ≤ messageIdMax

def hasAnyFlagsOf (magicNumber flags : UInt16) : Bool := magicNumber &&& flags != 0

def hasNoneFlagsOf (magicNumber flags : UInt16) : Bool := magicNumber &&& flags == 0

/-! ## The parts -/

/-- What a connection asks of a `Message_filter`. -/
structure FilterInterface (Φ : Type) where
  make : Sha256 → Φ
  decode : Φ → Bytes → Except Exception Bytes × Φ
  reseedDecoderPrng : Φ → Sha256 → Φ
  encode : Φ → Bytes → Except Exception Bytes × Φ
  reseedEncoderPrng : Φ → Sha256 → Φ

/-- **`InStep sender receiver`**: the filter `receiver` is about to decode what `sender` is about to
encode.  Each side's filter is the sender of one direction and the receiver of the other; what it
does for one direction does not disturb the other. -/
structure FilterInterface.KeepsInStep {Φ : Type} (F : FilterInterface Φ) (InStep : Φ → Φ → Prop) :
    Prop where
  make : ∀ seed, InStep (F.make seed) (F.make seed)
  decode_of_encode : ∀ {s s' r : Φ} {magicPayload encodedPayload : Bytes}, InStep s r →
    F.encode s magicPayload = (.ok encodedPayload, s') →
      ∃ r', F.decode r encodedPayload = (.ok magicPayload, r') ∧ InStep s' r'
  reseed : ∀ {s r : Φ} (seed : Sha256), InStep s r →
    InStep (F.reseedEncoderPrng s seed) (F.reseedDecoderPrng r seed)
  sender_decode : ∀ {s r : Φ} (encodedPayload : Bytes), InStep s r →
    InStep (F.decode s encodedPayload).2 r
  sender_reseed : ∀ {s r : Φ} (seed : Sha256), InStep s r → InStep (F.reseedDecoderPrng s seed) r
  receiver_encode : ∀ {s r : Φ} (magicPayload : Bytes), InStep s r →
    InStep s (F.encode r magicPayload).2
  receiver_reseed : ∀ {s r : Φ} (seed : Sha256), InStep s r → InStep s (F.reseedEncoderPrng r seed)

/-- The parts a connection is built from; the status codes are those of `Poseidon::Cbpp`. -/
structure Platform (Φ : Type) where
  sha256 : Bytes → Sha256
  statusShutdown : Int64
  statusPing : Int64
  statusPong : Int64
  clientHello : Codec Exception ClientHello
  serverHello : Codec Exception ServerHello
  userRequestHeader : Codec Exception UserRequestHeader
  userResponseHeader : Codec Exception UserResponseHeader
  filter : FilterInterface Φ

/-! ### Checksums -/

def saltAuthentication : String := "G_AUTH"
def saltNormalData : String := "G_DATA"
def saltClientHello : String := "C_HELLO"
def saltServerHello : String := "S_HELLO"

/-- What `calculate_checksum` writes to its `Sha256_ostream`. -/
def checksumInput (applicationKey : Bytes) (salt : String) (connectionUuid : Uuid)
    (timestamp : UInt64) : Bytes :=
  applicationKey ++ 0 :: asciiBytes salt ++ 0 :: bigEndian 16 connectionUuid.val ++
    0 :: bigEndian 8 timestamp.toNat ++ [0]

def Platform.calculateChecksum {Φ : Type} (P : Platform Φ) (applicationKey : Bytes) (salt : String)
    (connectionUuid : Uuid) (timestamp : UInt64) : Sha256 :=
  P.sha256 (checksumInput applicationKey salt connectionUuid timestamp)

end Common

end Circe
