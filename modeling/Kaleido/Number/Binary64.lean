import Kaleido.Number.Decimal

/-!
# Binary floating-point numbers

Numbers of the 64-bit binary format: a sign bit, eleven bits of exponent and fifty-two bits of
fraction. A finite number is a whole number of units of `2 ^ -1074`, the least positive number,
and a ratio is rounded to the nearest number, a tie to the even one.
-/
namespace Kaleido

/-- A number of the 64-bit binary format, as its bits. -/
structure Binary64 where
  bits : UInt64
deriving Repr, DecidableEq

namespace Binary64

/-- The number of units in one: the least positive number is `1 / unitsInOne`. -/
def unitsInOne : Nat := 1 <<< 1074

/-- The number of fractions that one exponent has, and the weight of the exponent bits. -/
def fractionCount : Nat := 1 <<< 52

/-- The number of exponents. -/
def exponentCount : Nat := 1 <<< 11

/-- The weight of the sign bit. -/
def signWeight : Nat := 1 <<< 63

/-- The bits of positive infinity, above those of every finite number. -/
def infinityBits : Nat := 0x7ff0000000000000

/-- Positive infinity. -/
def infinity : Binary64 := ⟨0x7ff0000000000000⟩

/-- The value that is not a number. -/
def nan : Binary64 := ⟨0x7ff8000000000000⟩

/-- The eleven exponent bits. -/
def exponent (x : Binary64) : Nat := x.bits.toNat / fractionCount % exponentCount

/-- The fifty-two fraction bits. -/
def fraction (x : Binary64) : Nat := x.bits.toNat % fractionCount

/-- Whether the sign bit is set. -/
def isNegative (x : Binary64) : Bool := signWeight ≤ x.bits.toNat

/-- Whether the number is neither infinite nor undefined. -/
def isFinite (x : Binary64) : Bool := x.exponent ≠ 2047

/-- Whether the value is not a number. -/
def isNaN (x : Binary64) : Bool := x.exponent = 2047 && x.fraction ≠ 0

/-- The number without its sign. -/
def magnitude (x : Binary64) : Binary64 := ⟨UInt64.ofNat (x.bits.toNat % signWeight)⟩

/-- The size of a finite number, in units of the least positive number. -/
def units (x : Binary64) : Nat :=
  if x.exponent = 0 then x.fraction else (fractionCount + x.fraction) <<< (x.exponent - 1)

/-- The whole number nearest to a ratio, a half going to the even neighbour. -/
def roundHalfEven (numerator denominator : Nat) : Nat :=
  let below := numerator / denominator
  let rest := numerator % denominator
  if 2 * rest < denominator ∨ (2 * rest = denominator ∧ below % 2 = 0) then below else below + 1

/-- The number nearest to a ratio. Fifty-three significant bits are kept, fewer only where the
unit is too coarse for them, and what is too large for every finite number is infinite. A
mantissa that rounds up to the next power of two carries into the exponent. -/
def ofRatio (numerator denominator : Nat) : Binary64 :=
  let scaled := numerator * unitsInOne
  let shift := Nat.log2 (scaled / denominator) - 52
  let mantissa := roundHalfEven scaled (denominator <<< shift)
  ⟨UInt64.ofNat (min (shift * fractionCount + mantissa) infinityBits)⟩

/-- The number nearest to a decimal fraction. -/
def ofDecimal (d : Decimal) : Binary64 := ofRatio d.mantissa (Decimal.tenTo d.scale)

/-- Reads a numeral: a decimal fraction, or one of the words for the values that have none, in
letters of either case. -/
def ofText? (text : String) : Option Binary64 :=
  match Decimal.ofText? text.toList with
  | some d => some (ofDecimal d)
  | none =>
    let word := String.ofList (text.toList.map Char.toLower)
    if word = "inf" ∨ word = "infinity" then some infinity
    else if word = "nan" then some nan
    else none

end Binary64

end Kaleido
