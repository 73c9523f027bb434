import Kaleido.Number.Binary64

/-!
# Shortest decimals

The text of a number is the decimal fraction with the fewest significant digits that reads back
as the number; of two such fractions the nearer is taken. Such a fraction lies on the coarsest
decimal grid that holds one, next to the number, so the grids are tried from the coarsest on.
-/
namespace Kaleido.Binary64

/-- The neighbour of a number on a decimal grid that reads back as the number, the nearer one if
both do. The grid has the multiples of `step` at the given scale. -/
def onGrid? (x : Binary64) (step scale : Nat) : Option Decimal :=
  let scaled := x.units * Decimal.tenTo scale
  let low := scaled / unitsInOne / step * step
  let high := low + step
  let below : Decimal := ⟨low, scale⟩
  let above : Decimal := ⟨high, scale⟩
  let belowFits := ofDecimal below = x.magnitude
  let aboveFits := ofDecimal above = x.magnitude
  if belowFits ∧ aboveFits then
    if scaled - low * unitsInOne < high * unitsInOne - scaled then some below else some above
  else if belowFits then some below
  else if aboveFits then some above
  else none

/-- The decimal grids from one coarser than the number on: the powers of ten down to ten, then
the powers of one tenth. -/
def grids (x : Binary64) : List (Nat × Nat) :=
  let places := (Decimal.digits (x.units / unitsInOne)).length
  ((List.range places).map fun i => (Decimal.tenTo (places - i), 0)) ++
    (List.range 1075).map fun scale => (1, scale)

/-- All the digits of a finite number. The division has no remainder, since a unit is a whole
number of parts at this scale. -/
def exact (x : Binary64) : Decimal := ⟨x.units * Decimal.tenTo 1074 / unitsInOne, 1074⟩

/-- The shortest decimal fraction that reads back as the magnitude of a finite number. The
finest grid holds every number exactly, so the search does not fail. -/
def shortest (x : Binary64) : Decimal :=
  (x.grids.findSome? fun grid => x.onGrid? grid.1 grid.2).getD x.exact

/-- The text of a number: always in positions, with a sign also for a negative zero. -/
def text (x : Binary64) : String :=
  if x.isNaN then "NaN"
  else
    (if x.isNegative then "-" else "") ++
      if x.isFinite then String.ofList x.shortest.text else "inf"

end Kaleido.Binary64
