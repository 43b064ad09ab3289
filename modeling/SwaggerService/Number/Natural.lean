/-! # Natural numbers in texts

A bounded natural number is written with ASCII digits, leading zeros allowed, and may have a plus sign. -/

namespace SwaggerService

/-- Reads decimal digits as a number. -/
def digitsValue (digits : List Char) : Nat := digits.foldl (fun n c => n * 10 + (c.toNat - 48)) 0

/-- Reads a natural number below a bound. -/
def readNatural? (bound : Nat) (s : String) : Option Nat :=
  let digits :=
    match s.toList with
    | '+' :: rest => rest
    | cs => cs
  if !digits.isEmpty && digits.all Char.isDigit && digitsValue digits < bound then
    some (digitsValue digits)
  else none

end SwaggerService
