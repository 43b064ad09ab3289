import SwaggerService.Number.Shortest

/-! # Numbers of a document

An integer literal stays an integer; every other number is a finite binary64. Numbers are written
plainly when they are integers and with their shortest digits otherwise. -/

namespace SwaggerService

/-- A number as a document gives it. -/
inductive Number where
  | int (value : Int)
  | float (value : Binary64)
  deriving DecidableEq, Repr, Inhabited

namespace Number

/-- How floating point numbers are written: positional from the least to the greatest exponent of the
leading digit, scientific outside. -/
structure FloatFormat where
  leastPositional : Int
  greatestPositional : Int
  plusSign : Bool
  deriving Repr

/-- Numbers from `0.00001` up to below `1e+16` are written positionally. -/
def format : FloatFormat := ⟨-5, 15, true⟩

/-- Drops the zeros at the end of a digit string, but keeps its first digit. -/
def trimZeros : List Char → List Char
  | [] => []
  | d :: rest => d :: (rest.reverse.dropWhile (· == '0')).reverse

/-- Digits with a point behind the first `whole` of them, filled up with zeros on either side. -/
def positional (digits : List Char) (exponent : Int) : List Char :=
  if exponent < 0 then
    '0' :: '.' :: (List.replicate (exponent.natAbs - 1) '0' ++ digits)
  else
    let whole := exponent.natAbs + 1
    let filled := digits ++ List.replicate (whole - digits.length) '0'
    let fraction := filled.drop whole
    filled.take whole ++ '.' :: (if fraction.isEmpty then ['0'] else fraction)

/-- One digit before the point, and the exponent after an `e`. -/
def scientific (f : FloatFormat) (digits : List Char) (exponent : Int) : List Char :=
  let fraction := digits.drop 1
  let mark := if exponent < 0 then ['e', '-'] else if f.plusSign then ['e', '+'] else ['e']
  digits.take 1 ++ (if fraction.isEmpty then [] else '.' :: fraction) ++ mark
    ++ Nat.toDigits 10 exponent.natAbs

/-- The text of a finite binary64 number, always with a point or an exponent. -/
def floatChars (f : FloatFormat) (x : Binary64) : List Char :=
  let magnitude :=
    if x.steps = 0 then ['0', '.', '0']
    else
      let decimal := Binary64.shortest x.steps
      let digits := Nat.toDigits 10 decimal.digits
      let exponent := decimal.exponent + digits.length - 1
      let digits := trimZeros digits
      if f.leastPositional ≤ exponent && exponent ≤ f.greatestPositional then
        positional digits exponent
      else scientific f digits exponent
  if x.negative then '-' :: magnitude else magnitude

/-- The written form of a number. -/
def text : Number → String
  | .int n => toString n
  | .float x => String.ofList (floatChars format x)

end Number

/-! ## Reading decimal literals -/

/-- The parts of a decimal literal: its sign, whole digits, fraction digits and exponent. -/
structure DecimalLiteral where
  negative : Bool
  whole : List Nat
  fraction : Option (List Nat)
  exponent : Option Int
  deriving DecidableEq, Repr

namespace DecimalLiteral

/-- The number that a list of decimal digits spells, most significant first. -/
def ofDigits (digits : List Nat) : Nat := digits.foldl (fun n d => n * 10 + d) 0

/-- Appends digits to a significand as long as it stays below `2 ^ 64`, and says how many were taken. -/
def fill : Nat → List Nat → Nat × Nat
  | significand, [] => (significand, 0)
  | significand, d :: rest =>
    if significand * 10 + d < UInt64.size then
      let (filled, taken) := fill (significand * 10 + d) rest
      (filled, taken + 1)
    else (significand, 0)

/-- The nearest number to `10 ^ exponent`; such a power is finite up to 308. -/
def power (exponent : Nat) : Binary64 :=
  (Binary64.ofNat? false (Nat.pow 10 exponent)).getD (.zero false)

/-- The significand scaled by a power of ten, in binary64 arithmetic: one rounded product or quotient
by a rounded power, and two quotients below `10 ^ -308`. Absent when it is not finite. -/
def scale (x : Binary64) (exponent : Int) : Option Binary64 :=
  if 0 ≤ exponent then
    if exponent ≤ 308 then x.mul? (power exponent.natAbs)
    else if x.steps = 0 then some x
    else none
  else if -308 ≤ exponent then x.div? (power exponent.natAbs)
  else if -616 ≤ exponent then do (← x.div? (power 308)).div? (power (exponent.natAbs - 308))
  else some (.zero x.negative)

/-- The value of a literal: an integer when it has neither point nor exponent and fits 64 bits, signed
or unsigned. Otherwise the leading digits that fit 64 bits are scaled: further whole digits count only
by their number and further fraction digits not at all. Absent when the number is not finite. -/
def value (l : DecimalLiteral) : Option Number :=
  let (significand, taken) := fill 0 l.whole
  let dropped := l.whole.length - taken
  if l.fraction.isNone && l.exponent.isNone && dropped == 0 then
    if !l.negative then some (.int significand)
    else if 0 < significand && significand ≤ Nat.pow 2 63 then some (.int (-significand))
    else (Binary64.ofNat? true significand).map .float
  else
    let (significand, places) := fill significand (l.fraction.getD [])
    let exponent : Int := (dropped : Int) - places + l.exponent.getD 0
    ((Binary64.ofNat? l.negative significand).bind (scale · exponent)).map .float

end DecimalLiteral

end SwaggerService
