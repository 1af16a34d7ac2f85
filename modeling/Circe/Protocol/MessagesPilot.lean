import Circe.Protocol.Basic

/-!
# Protocol/MessagesPilot — `protocol/messages_pilot.hpp`

The requests a pilot server answers and what it sends back.
-/

namespace Circe.Protocol.Pilot

/-! ## `lock_disposition` -/

def lockLeaveAlone : ℕ := 0
def lockTryAcquireShared : ℕ := 11
def lockTryAcquireExclusive : ℕ := 12
def lockReleaseShared : ℕ := 21
def lockReleaseExclusive : ℕ := 22

/-! ## `lock_state` -/

def lockFreeForAcquisition : ℕ := 0
def lockSharedByMe : ℕ := 30
def lockSharedByOthers : ℕ := 31
def lockExclusiveByMe : ℕ := 40
def lockExclusiveByOthers : ℕ := 41

/-! ## Messages -/

/-- One element of `Compare_exchange_request::criteria`. -/
structure Criterion where
  valueCmp : Bytes
  valueNew : Bytes
deriving DecidableEq

structure CompareExchangeRequest where
  key : Bytes
  criteria : List Criterion
  lockDisposition : UInt64
deriving DecidableEq

structure CompareExchangeResponse where
  valueOld : Bytes
  versionOld : UInt64
  succeeded : Bool
  criterionIndex : ℕ
  lockState : ℕ
deriving DecidableEq

structure ExchangeRequest where
  key : Bytes
  valueNew : Bytes
  lockDisposition : UInt64
deriving DecidableEq

structure ExchangeResponse where
  valueOld : Bytes
  versionOld : UInt64
  succeeded : Bool
  lockState : ℕ
deriving DecidableEq

structure AddWatchRequest where
  key : Bytes
deriving DecidableEq

structure AddWatchResponse where
  watcherUuid : Uuid
deriving DecidableEq

structure RemoveWatchNotification where
  key : Bytes
  watcherUuid : Uuid
deriving DecidableEq

structure ValueChangeNotification where
  watcherUuid : Uuid
  valueNew : Bytes
deriving DecidableEq

end Circe.Protocol.Pilot
