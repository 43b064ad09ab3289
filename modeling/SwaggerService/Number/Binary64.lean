/-! # Finite binary64 numbers

A number is held exactly, as a sign and a count of steps of `2 ^ -1074`, the spacing of the smallest
numbers of the format. Every operation computes in natural numbers and rounds once, to the nearest
representable count. -/

namespace SwaggerService

/-- A finite binary64 number: `±steps · 2 ^ -1074`. Zero keeps its sign. -/
structure Binary64 where
  negative : Bool
  steps : Nat
  deriving DecidableEq, Repr, Inhabited

namespace Binary64

/-- The steps of the number one. -/
def one : Nat := Nat.pow 2 1074

/-- The first count of steps beyond the largest finite number. -/
def overflow : Nat := Nat.pow 2 2098

/-- Two adjacent representable counts around `steps` differ by `2 ^ spacing`: 53 binary digits are kept. -/
def spacing (steps : Nat) : Nat := steps.log2 + 1 - 53

/-- The integer nearest to `num / den`, a half going to the even neighbour. -/
def roundHalfEven (num den : Nat) : Nat :=
  let quotient := num / den
  let twice := 2 * (num % den)
  if twice > den || (twice == den && quotient % 2 == 1) then quotient + 1 else quotient

/-- The representable count nearest to `num / den` steps. -/
def nearest (num den : Nat) : Nat :=
  let grain := Nat.pow 2 (spacing (num / den))
  roundHalfEven num (den * grain) * grain

/-- The number nearest to `num / den` steps, unless it is too large to be finite. -/
def ofSteps? (negative : Bool) (num den : Nat) : Option Binary64 :=
  let steps := nearest num den
  if steps < overflow then some ⟨negative, steps⟩ else none

/-- The nearest number to a natural number, when that is finite. -/
def ofNat? (negative : Bool) (n : Nat) : Option Binary64 := ofSteps? negative (n * one) 1

/-- The rounded product, when it is finite. -/
def mul? (x y : Binary64) : Option Binary64 :=
  ofSteps? (x.negative != y.negative) (x.steps * y.steps) one

/-- The rounded quotient by a number other than zero, when it is finite. -/
def div? (x y : Binary64) : Option Binary64 :=
  if y.steps = 0 then none else ofSteps? (x.negative != y.negative) (x.steps * one) y.steps

/-- The zero of either sign. -/
def zero (negative : Bool) : Binary64 := ⟨negative, 0⟩

/-- The number nearest to `digits · 10 ^ exponent`, when that is finite. Far outside the range of the
format the answer is zero or absent at once, so that no huge power of ten is computed. -/
def ofDecimal? (negative : Bool) (digits : Nat) (exponent : Int) : Option Binary64 :=
  let width : Int := (Nat.toDigits 10 digits).length
  if digits = 0 || width + exponent < -400 then some (zero negative)
  else if width + exponent > 400 then none
  else if exponent < 0 then ofSteps? negative (digits * one) (Nat.pow 10 exponent.natAbs)
  else ofSteps? negative (digits * Nat.pow 10 exponent.natAbs * one) 1

end Binary64

end SwaggerService
