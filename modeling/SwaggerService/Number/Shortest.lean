import SwaggerService.Number.Binary64

/-! # Shortest decimal digits

The fewest decimal digits that still read back to the same binary64 number and, among those, the ones
nearest to it. The search is exact: for 1, 2, … 17 digits it tests the two neighbours of the number on
that decimal grid against the interval of reals that round to the number. -/

namespace SwaggerService.Binary64

/-- A positive decimal `digits · 10 ^ exponent`. -/
structure Decimal where
  digits : Nat
  exponent : Int
  deriving DecidableEq, Repr

/-- The reals that round to a positive count of steps, in quarter steps. The ends belong to it when the
significand is even. -/
structure Interval where
  low : Nat
  high : Nat
  closed : Bool
  deriving DecidableEq, Repr

/-- Half a spacing above, and half a spacing below; below a power of two the numbers lie twice as
dense. -/
def interval (steps : Nat) : Interval :=
  let grain := Nat.pow 2 (spacing steps)
  let dense := steps == Nat.pow 2 52 * grain && spacing steps != 0
  { low := 4 * steps - (if dense then grain else 2 * grain)
    high := 4 * steps + 2 * grain
    closed := steps / grain % 2 == 0 }

/-- The two factors that bring `10 ^ exponent` and one quarter step to a common unit. -/
def scales (exponent : Int) : Nat × Nat :=
  (4 * one * Nat.pow 10 exponent.toNat, Nat.pow 10 (-exponent).toNat)

/-- Whether `digits · 10 ^ exponent` lies in the interval. -/
def Interval.contains (i : Interval) (d : Decimal) : Bool :=
  let (point, quarter) := scales d.exponent
  let value := d.digits * point
  if i.closed then i.low * quarter ≤ value && value ≤ i.high * quarter
  else i.low * quarter < value && value < i.high * quarter

/-- The neighbours of the number on the grid of multiples of `10 ^ exponent`, the nearer one first. -/
def neighbours (steps : Nat) (exponent : Int) : List Decimal :=
  let (point, quarter) := scales exponent
  let value := 4 * steps * quarter
  let below := value / point
  let down : Decimal := ⟨below, exponent⟩
  let up : Decimal := ⟨below + 1, exponent⟩
  let twice := 2 * (value % point)
  if twice < point || (twice == point && below % 2 == 0) then [down, up] else [up, down]

/-- The decimal exponent of the leading digit of a positive number. -/
def leadingExponent (steps : Nat) : Int :=
  let estimate := (((steps.log2 : Int) - 1074) * 30103).fdiv 100000
  let reaches := fun (exponent : Int) =>
    let (point, quarter) := scales exponent
    point ≤ 4 * steps * quarter
  if reaches (estimate + 1) then estimate + 1 else if reaches estimate then estimate else estimate - 1

/-- The shortest decimal that reads back as a positive count of steps. -/
def shortest (steps : Nat) : Decimal :=
  let range := interval steps
  let leading := leadingExponent steps
  let grid := fun (count : Nat) => (neighbours steps (leading - count)).find? range.contains
  ((List.range 17).findSome? grid).getD ⟨steps, -1074⟩

end SwaggerService.Binary64
