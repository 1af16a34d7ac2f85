import Mathlib.Order.Fin.Basic
import Mathlib.Algebra.NeZero
import Mathlib.Algebra.Order.Ring.Nat

/-!
# Protocol/Basic — what every server shares

Byte strings, UUIDs, digests and the status codes of `protocol/error_codes.hpp`.
-/

namespace Circe

/-- `std::string` and `Poseidon::Stream_buffer`: any bytes, of any length. -/
abbrev Bytes := List UInt8

/-- `Poseidon::Uuid`.  Sixteen bytes compared as bytes order as the number they spell; the nil UUID
is `0`. -/
abbrev Uuid := Fin (2 ^ 128)

instance (priority := 2000) Uuid.neZero : NeZero (2 ^ 128 : ℕ) := ⟨by decide⟩

/-- `Poseidon::Sha256`. -/
abbrev Sha256 := Vector UInt8 32

namespace Protocol

/-! ## `protocol/error_codes.hpp` -/

def errorSuccess : Int64 := 0
def errorInternalError : Int64 := -1
def errorNotFound : Int64 := -3
def errorAuthorizationFailure : Int64 := -8
def errorInvalidArgument : Int64 := -13
def errorGateConnectionLost : Int64 := 50001
def errorBoxConnectionLost : Int64 := 50004

end Protocol

end Circe
