import Circe.Protocol.Basic

/-!
# Pilot/CompassKey — the forty characters a compass is found under

`from_hash_of` writes the SHA-256 digest of a key in base 85: eight big-endian words of four bytes,
five digits each, the most significant digit first.
-/

namespace Circe.Pilot

/-- `s_table`, the characters of RFC 1924. -/
def sTable : List UInt8 :=
  ("0123456789ABCDEFGHIJKLMNOPQRSTUVWXYZabcdefghijklmnopqrstuvwxyz" ++
    "!#$%&()*+-;<=>?@^_`\x7b|\x7d~").toList.map fun ch => ch.toNat.toUInt8

structure CompassKey where
  chars : Vector UInt8 40
deriving DecidableEq

namespace CompassKey

/-- The inner loop that reads one word of the digest. -/
def readWord (sha256 : Sha256) (i : ℕ) : UInt32 :=
  (List.range 4).foldl (fun word j => word * 256 + (sha256[i * 4 + j]!).toUInt32) 0

/-- The inner loop that writes the five digits of a word, the least significant one first. -/
def writeWord (i : ℕ) (word : UInt32) (chars : Vector UInt8 40) : Vector UInt8 40 × UInt32 :=
  (List.range 5).foldl
    (fun (chars, word) j =>
      (chars.setIfInBounds (i * 5 + (4 - j)) (sTable.getD (word % 85).toNat 0), word / 85))
    (chars, word)

/-- `Compass_key::from_hash_of`, over the hash the platform provides. -/
def fromHashOf (sha256 : Bytes → Sha256) (data : Bytes) : CompassKey :=
  let digest := sha256 data
  ⟨(List.range 8).foldl (fun chars i => (writeWord i (readWord digest i) chars).1)
    (Vector.replicate 40 0)⟩

end CompassKey

end Circe.Pilot
