import Circe.Common.Platform

/-!
# Common/MagicNumber — message ids and flags in one number

The id of a user-defined message takes the twelve low bits, the flags the four high ones: neither is
lost when they are put together (`and_messageIdMax`, `and_flags`), so a request, a notification
and a response are told apart by what their senders put in.
-/

namespace Circe.Common

/-- No flag is set that user-defined messages do not have. -/
def isUser (magicNumber : UInt16) : Bool :=
  hasNoneFlagsOf magicNumber (magicFlagPredefined ||| magicFlagReserved)

theorem not_isUser_clientHello : isUser ClientHello.id = false := by decide

theorem not_isUser_serverHello : isUser ServerHello.id = false := by decide

theorem ne_hello_of_isUser {magicNumber : UInt16} (h : isUser magicNumber = true) :
    magicNumber ≠ ClientHello.id ∧ magicNumber ≠ ServerHello.id := by
  constructor
  · rintro rfl
    exact absurd h (by decide)
  · rintro rfl
    exact absurd h (by decide)

/-! ## Twelve bits and four -/

theorem or_and_distrib (x y z : UInt16) : (x ||| y) &&& z = (x &&& z) ||| (y &&& z) :=
  UInt16.toBitVec_inj.mp BitVec.and_or_distrib_right

theorem and_low {x : UInt16} (h : x.toNat < 4096) : x &&& 0x0FFF = x := by
  apply UInt16.toNat_inj.mp
  have hmask : (0x0FFF : UInt16).toNat = 2 ^ 12 - 1 := rfl
  rw [UInt16.toNat_and, hmask, Nat.and_two_pow_sub_one_eq_mod, Nat.mod_eq_of_lt h]

theorem and_high {x mask : UInt16} (h : x.toNat < 4096) (hmask : mask &&& 0x0FFF = 0) :
    x &&& mask = 0 := by
  rw [← and_low h]
  apply UInt16.toBitVec_inj.mp
  have hbits : mask.toBitVec &&& (0x0FFF : UInt16).toBitVec = 0 := congrArg UInt16.toBitVec hmask
  change x.toBitVec &&& (0x0FFF : UInt16).toBitVec &&& mask.toBitVec = 0
  rw [BitVec.and_assoc, BitVec.and_comm _ mask.toBitVec, hbits]
  simp

/-- The id is read back from under the flags. -/
theorem and_messageIdMax {x flags : UInt16} (h : x.toNat < 4096) (hflags : flags &&& 0x0FFF = 0) :
    (x ||| flags) &&& 0x0FFF = x := by
  rw [or_and_distrib, and_low h, hflags]
  simp

/-- The flags are read back from over the id. -/
theorem and_flags {x flags mask : UInt16} (h : x.toNat < 4096) (hmask : mask &&& 0x0FFF = 0) :
    (x ||| flags) &&& mask = flags &&& mask := by
  rw [or_and_distrib, and_high h hmask]
  simp

theorem toNat_toUInt16_of_isMessageIdValid {messageId : UInt64}
    (h : isMessageIdValid messageId = true) : messageId.toUInt16.toNat = messageId.toNat ∧
      messageId.toNat < 4096 := by
  obtain ⟨-, hmax⟩ := Bool.and_eq_true_iff.mp h
  have hle : messageId.toNat ≤ 0x0FFF := UInt64.le_iff_toNat_le.mp (of_decide_eq_true hmax)
  refine ⟨?_, by omega⟩
  rw [UInt64.toNat_toUInt16]
  omega

/-! ## The three kinds of user-defined messages -/

variable {x : UInt16}

theorem isUser_notification (h : x.toNat < 4096) : isUser x = true := by
  rw [isUser, hasNoneFlagsOf, and_high h (by decide)]
  rfl

theorem isUser_request (h : x.toNat < 4096) : isUser (x ||| magicFlagWantsResponse) = true := by
  rw [isUser, hasNoneFlagsOf, and_flags h (by decide)]
  rfl

theorem isUser_response (h : x.toNat < 4096) : isUser (x ||| magicFlagIsResponse) = true := by
  rw [isUser, hasNoneFlagsOf, and_flags h (by decide)]
  rfl

theorem hasAnyFlagsOf_notification (h : x.toNat < 4096) :
    hasAnyFlagsOf x magicFlagIsResponse = false ∧
      hasAnyFlagsOf x magicFlagWantsResponse = false := by
  rw [hasAnyFlagsOf, hasAnyFlagsOf, and_high h (by decide), and_high h (by decide)]
  exact ⟨rfl, rfl⟩

theorem hasAnyFlagsOf_request (h : x.toNat < 4096) :
    hasAnyFlagsOf (x ||| magicFlagWantsResponse) magicFlagIsResponse = false ∧
      hasAnyFlagsOf (x ||| magicFlagWantsResponse) magicFlagWantsResponse = true := by
  rw [hasAnyFlagsOf, hasAnyFlagsOf, and_flags h (by decide), and_flags h (by decide)]
  exact ⟨rfl, rfl⟩

theorem hasAnyFlagsOf_response (h : x.toNat < 4096) :
    hasAnyFlagsOf (x ||| magicFlagIsResponse) magicFlagIsResponse = true := by
  rw [hasAnyFlagsOf, and_flags h (by decide)]
  rfl

end Circe.Common
