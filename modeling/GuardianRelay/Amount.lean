import GuardianRelay.Bytes

/-!
# Amounts

Payloads carry amounts of 256 bits. A bridge carries at most eight decimals of a token: a sender with more divides
the surplus away, a receiver multiplies it back, and what survives both is the truncated amount. Native amounts
have 64 bits; a product that does not fit is the largest of them.
-/

namespace GuardianRelay

/-- An amount as it is written in a payload. -/
@[ext]
structure Amount where
  /-- The octets, most significant first. -/
  bytes : FixedBytes 32
deriving DecidableEq

namespace Amount

instance : Inhabited Amount := ⟨⟨default⟩⟩

/-- The amount of a 64-bit number. -/
def ofUInt64 (v : UInt64) : Amount := ⟨FixedBytes.ofNat v.toNat⟩

/-- The number, if it fits 64 bits. -/
def toUInt64? (a : Amount) : Option UInt64 :=
  if Bytes.allZero (a.bytes.toList.take 24) then some (UInt64.ofNat (Bytes.toNatBE (a.bytes.toList.drop 24)))
  else none

/-- Whether the amount is zero. -/
def isZero (a : Amount) : Bool := a.bytes.isZero

/-- Decimals that bridges carry. -/
def maxBridgedDecimals : Nat := 8

/-- `10` to the surplus of `decimals` over what bridges carry. -/
def scale (decimals : UInt8) : Nat := Nat.pow 10 (decimals.toNat - maxBridgedDecimals)

/-- The amount that a bridge carries of a native one: the surplus decimals are dropped. -/
def normalize (amount : UInt64) (decimals : UInt8) : UInt64 :=
  UInt64.ofNat (amount.toNat / scale decimals)

/-- The native amount of one that a bridge carried, at most the largest native amount. Where the scale itself
exceeds 64 bits, every amount, zero too, becomes the largest. -/
def denormalize (amount : UInt64) (decimals : UInt8) : UInt64 :=
  if UInt64.size ≤ scale decimals then UInt64.ofNat (UInt64.size - 1)
  else UInt64.ofNat (min (amount.toNat * scale decimals) (UInt64.size - 1))

/-- What is left of a native amount on the other side of a bridge. -/
def truncate (amount : UInt64) (decimals : UInt8) : UInt64 :=
  denormalize (normalize amount decimals) decimals

end Amount

end GuardianRelay
