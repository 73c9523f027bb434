/-!
# Decimal fractions

A decimal fraction is a whole number of units of some power of one tenth. It is written in
positions, never with an exponent, and reading what is written gives the same fraction.
-/
namespace Kaleido

/-- The fraction `mantissa / tenTo scale`. -/
structure Decimal where
  mantissa : Nat
  scale : Nat
deriving Repr, DecidableEq

namespace Decimal

/-- A power of ten. -/
def tenTo (n : Nat) : Nat := Nat.pow 10 n

/-- The decimal digits of a number. -/
def digits (n : Nat) : List Char := Nat.toDigits 10 n

/-- The decimal digits of a number, filled up with zeros on the left to a given width. -/
def paddedDigits (width n : Nat) : List Char :=
  List.replicate (width - (digits n).length) '0' ++ digits n

/-- The number that a word of decimal digits stands for. -/
def digitsValue (word : List Char) : Nat :=
  word.foldl (fun value c => 10 * value + (c.toNat - '0'.toNat)) 0

/-- The fraction in positions: its whole part and, unless the scale is zero, a point and as
many digits as the scale says. -/
def text (d : Decimal) : List Char :=
  digits (d.mantissa / tenTo d.scale) ++
    if d.scale = 0 then [] else '.' :: paddedDigits d.scale (d.mantissa % tenTo d.scale)

/-- Reads digits with at most one point among them; there has to be a digit on one side of it. -/
def ofText? (text : List Char) : Option Decimal :=
  let whole := text.takeWhile Char.isDigit
  match text.dropWhile Char.isDigit with
  | [] => if whole.isEmpty then none else some ⟨digitsValue whole, 0⟩
  | c :: fraction =>
    if c = '.' ∧ fraction.all Char.isDigit ∧ ¬(whole.isEmpty ∧ fraction.isEmpty) then
      some ⟨digitsValue (whole ++ fraction), fraction.length⟩
    else none

end Decimal

end Kaleido
