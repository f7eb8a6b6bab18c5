import PreparedSql.Number.Binary
import PreparedSql.Number.Decimal

/-! The shortest decimal text of a floating-point number that reads back as the same number.

Every double and both ends of the interval of reals that round to it are whole multiples of
2⁻¹⁰⁷⁶ · 10⁻³²⁴, and so is every power of ten from 10⁻³²⁴ up. In that unit the search for the
coarsest decimal grid with a point in the interval is arithmetic on natural numbers. -/

namespace PreparedSql.Number

/-- The reals that round to one double, and the double itself, in units of 2⁻¹⁰⁷⁶ · 10⁻³²⁴.
The ends belong to the interval when `closed`. -/
structure RoundingInterval where
  low : Nat
  middle : Nat
  high : Nat
  closed : Bool
  deriving DecidableEq, Repr

namespace RoundingInterval

/-- Half the gap to each neighbour; the gap below a power of two is half the gap above it. -/
def ofFinite (number : Binary64) : RoundingInterval :=
  let quarter := Nat.pow 2 number.scale * Nat.pow 10 324
  let below := if number.fraction = 0 ∧ 1 < number.exponentField then 1 else 2
  { low := (4 * number.significand - below) * quarter
    middle := 4 * number.significand * quarter
    high := (4 * number.significand + 2) * quarter
    closed := number.significand % 2 == 0 }

def contains (interval : RoundingInterval) (point : Nat) : Bool :=
  (interval.low < point && point < interval.high) ||
    (interval.closed && (point == interval.low || point == interval.high))

/-- The step from one point of the grid of multiples of 10 ^ (level - 324) to the next. -/
def gridStep (level : Nat) : Nat :=
  Nat.pow 10 level * Nat.pow 2 1076

/-- The grid point nearest to the middle among its two neighbours on the grid that lie in the
interval, as a multiple of the step. Of two equally near ones it is the greater. -/
def nearestOnGrid (interval : RoundingInterval) (level : Nat) : Option Nat :=
  let step := gridStep level
  let below := interval.middle / step
  let above := below + 1
  match interval.contains (below * step), interval.contains (above * step) with
  | true, true =>
      if interval.middle - below * step < above * step - interval.middle then some below
      else some above
  | true, false => some below
  | false, true => some above
  | false, false => none

/-- The first hit among the grids from the given level down to the finest one, together with
its level. -/
def coarsest (interval : RoundingInterval) : Nat → Nat × Nat
  | 0 => ((interval.nearestOnGrid 0).getD 0, 0)
  | level + 1 =>
      match interval.nearestOnGrid (level + 1) with
      | some multiple => (multiple, level + 1)
      | none => interval.coarsest level

end RoundingInterval

/-- Digits for `multiple * 10 ^ (level - 324)` without exponent: zeros are added behind, or a
point is set with zeros in front. -/
def positional (multiple level : Nat) : List Char :=
  let written := digits multiple
  if 324 ≤ level then written ++ List.replicate (level - 324) '0'
  else
    let places := 324 - level
    if places < written.length then
      written.take (written.length - places) ++ '.' :: written.drop (written.length - places)
    else
      '0' :: '.' :: List.replicate (places - written.length) '0' ++ written

namespace Binary64

def magnitudeText (number : Binary64) : List Char :=
  if number.significand = 0 then ['0']
  else
    let (multiple, level) := (RoundingInterval.ofFinite number).coarsest 632
    positional multiple level

/-- The text of a number: the fewest digits that read back, written without exponent. -/
def text (number : Binary64) : String :=
  if number.isNaN then "NaN"
  else
    let sign := if number.isNegative then ['-'] else []
    let magnitude := if number.isFinite then number.magnitudeText else ['i', 'n', 'f']
    String.ofList (sign ++ magnitude)

end Binary64

end PreparedSql.Number
