/-! Floating-point words of 64 and 32 bits, read by their fields. A finite word is a sign and
a whole significand times a power of two, so no rounding ever happens here. -/

namespace PreparedSql.Number

/-- A double-precision number, as its 64 bits: sign, 11 bits of exponent, 52 of fraction. -/
structure Binary64 where
  bits : UInt64
  deriving DecidableEq, Repr, Inhabited

/-- A single-precision number, as its 32 bits: sign, 8 bits of exponent, 23 of fraction. -/
structure Binary32 where
  bits : UInt32
  deriving DecidableEq, Repr, Inhabited

namespace Binary64

def isNegative (number : Binary64) : Bool :=
  Nat.pow 2 63 ≤ number.bits.toNat

def exponentField (number : Binary64) : Nat :=
  number.bits.toNat / Nat.pow 2 52 % Nat.pow 2 11

def fraction (number : Binary64) : Nat :=
  number.bits.toNat % Nat.pow 2 52

def isFinite (number : Binary64) : Bool :=
  number.exponentField != 2047

def isNaN (number : Binary64) : Bool :=
  number.exponentField == 2047 && number.fraction != 0

/-- The magnitude of a finite number is `significand * 2 ^ scale` times 2⁻¹⁰⁷⁴. -/
def significand (number : Binary64) : Nat :=
  if number.exponentField = 0 then number.fraction else Nat.pow 2 52 + number.fraction

def scale (number : Binary64) : Nat :=
  number.exponentField - 1

def ofFields (negative : Bool) (exponentField fraction : Nat) : Binary64 :=
  ⟨UInt64.ofNat ((if negative then Nat.pow 2 63 else 0) + exponentField * Nat.pow 2 52 + fraction)⟩

/-- The one NaN that widening produces. -/
def nan : Binary64 := ofFields false 2047 (Nat.pow 2 51)

end Binary64

namespace Binary32

def isNegative (number : Binary32) : Bool :=
  Nat.pow 2 31 ≤ number.bits.toNat

def exponentField (number : Binary32) : Nat :=
  number.bits.toNat / Nat.pow 2 23 % Nat.pow 2 8

def fraction (number : Binary32) : Nat :=
  number.bits.toNat % Nat.pow 2 23

/-- The magnitude of a finite number is `significand * 2 ^ scale` times 2⁻¹⁴⁹. -/
def significand (number : Binary32) : Nat :=
  if number.exponentField = 0 then number.fraction else Nat.pow 2 23 + number.fraction

def scale (number : Binary32) : Nat :=
  number.exponentField - 1

/-- The same number in double precision. A finite magnitude is shifted until its leading bit
stands in front of the fraction; every single-precision number but zero is normal there. -/
def widen (number : Binary32) : Binary64 :=
  if number.exponentField = 255 then
    if number.fraction = 0 then .ofFields number.isNegative 2047 0 else .nan
  else if number.significand = 0 then
    .ofFields number.isNegative 0 0
  else
    let leading := number.significand.log2
    .ofFields number.isNegative (leading + number.scale + 874)
      (number.significand * Nat.pow 2 (52 - leading) - Nat.pow 2 52)

end Binary32

end PreparedSql.Number
