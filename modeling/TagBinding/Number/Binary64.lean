/-!
# Floating-point numbers of sixty-four bits

A number is kept as its bits: the sign, eleven bits of exponent and fifty-two of fraction. All
questions are answered exactly from the integer `significand` and the power of two `exponent`
whose product is the size of the number, so nothing here rounds.
-/
namespace TagBinding

/-- A binary floating-point number, given by its sixty-four bits. -/
structure Binary64 where
  /-- Sign, exponent and fraction, from the highest bit down. -/
  bits : UInt64
  deriving DecidableEq, Inhabited

namespace Binary64

/-- Whether the sign bit is set. -/
def isNegative (number : Binary64) : Bool := Nat.pow 2 63 ≤ number.bits.toNat

/-- The eleven bits of the exponent. -/
def exponentField (number : Binary64) : Nat := number.bits.toNat / Nat.pow 2 52 % Nat.pow 2 11

/-- The fifty-two bits of the fraction. -/
def fractionField (number : Binary64) : Nat := number.bits.toNat % Nat.pow 2 52

/-- Whether the bits stand for a number, and not for an infinity or for no number at all. -/
def isFinite (number : Binary64) : Bool := number.exponentField ≠ Nat.pow 2 11 - 1

/-- The integer factor of the size. -/
def significand (number : Binary64) : Nat :=
  if number.exponentField = 0 then number.fractionField else Nat.pow 2 52 + number.fractionField

/-- The power of two of the size. -/
def exponent (number : Binary64) : Int := (max number.exponentField 1 : Nat) - 1075

/-- Whether the number is zero, of either sign. -/
def isZero (number : Binary64) : Bool := number.isFinite && number.significand == 0

/-- The number as an integer, when it is one. -/
def toInt? (number : Binary64) : Option Int :=
  let signed (size : Nat) : Int := if number.isNegative then -size else size
  if !number.isFinite then none
  else if 0 ≤ number.exponent then
    some (signed (number.significand * Nat.pow 2 number.exponent.toNat))
  else
    let unit := Nat.pow 2 (-number.exponent).toNat
    if number.significand % unit = 0 then some (signed (number.significand / unit)) else none

end Binary64

end TagBinding
