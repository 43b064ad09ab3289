import SwaggerService.Json.Token
import SwaggerService.Number.Natural

/-! # The values of YAML scalars

A plain scalar without a tag stands for nothing, a truth value, an integer, a floating point number or,
when it looks like none of these, its own text. A tag can ask for one of the kinds. -/

namespace SwaggerService.Yaml

/-- Whether a text is a word for nothing. -/
def isNullWord (text : String) : Bool := ["~", "null", "Null", "NULL"].contains text

/-- The truth value of a word. -/
def boolWord? (text : String) : Option Bool :=
  if ["true", "True", "TRUE"].contains text then some true
  else if ["false", "False", "FALSE"].contains text then some false
  else none

/-- Removes one plus sign from the start. -/
def dropPlus : List Char → List Char
  | '+' :: cs => cs
  | cs => cs

/-- Removes one sign from the start. -/
def dropSign : List Char → List Char
  | '+' :: cs => cs
  | '-' :: cs => cs
  | cs => cs

/-- Whether a text starts with a sign. -/
def startsWithSign (cs : List Char) : Bool := cs.head?.any fun c => c = '+' || c = '-'

/-- Whether a text consists of digits of which the first is a superfluous zero: such a text is no
number. -/
def isPaddedDigits (cs : List Char) : Bool :=
  match dropSign cs with
  | '0' :: d :: rest => (d :: rest).all Char.isDigit
  | _ => false

/-- The number that digits of a radix spell. -/
def radixValue? (radix : Nat) (cs : List Char) : Option Nat := do
  let digits ← cs.mapM Json.hexValue?
  if digits.isEmpty || digits.any (radix ≤ ·) then none
  return digits.foldl (fun n d => n * radix + d) 0

/-- The number whose radix is given by a mark. -/
def markedValue? : List Char → Option Nat
  | '0' :: 'x' :: cs => radixValue? 16 cs
  | '0' :: 'o' :: cs => radixValue? 8 cs
  | '0' :: 'b' :: cs => radixValue? 2 cs
  | _ => none

/-- The number of digits in any of the radices. -/
def magnitude? (cs : List Char) : Option Nat :=
  (markedValue? cs).or (if isPaddedDigits cs then none else radixValue? 10 cs)

/-- An integer of any size. -/
def integer? : List Char → Option Int
  | '-' :: cs => (magnitude? cs).map fun n => -n
  | cs => (magnitude? (dropPlus cs)).map fun n => n

/-- The digits at the start of a text. -/
def digitRun (cs : List Char) : List Char × List Char :=
  (cs.takeWhile Char.isDigit, cs.dropWhile Char.isDigit)

/-- An exponent up to the end of a text; it may be missing. -/
def exponent? : List Char → Option Int
  | [] => some 0
  | c :: cs =>
    let digits := dropSign cs
    if (c = 'e' || c = 'E') && !digits.isEmpty && digits.all Char.isDigit then
      some (if cs.head? = some '-' then -(digitsValue digits : Int) else digitsValue digits)
    else none

/-- A decimal number with a point or an exponent, rounded to the nearest binary64 number, when that is
finite. -/
def decimal? (cs : List Char) : Option Binary64 := do
  let (whole, rest) := digitRun (dropSign cs)
  let (fraction, rest) :=
    match rest with
    | '.' :: rest => digitRun rest
    | rest => ([], rest)
  let exponent ← exponent? rest
  if whole.isEmpty && fraction.isEmpty then none
  Binary64.ofDecimal? (cs.head? = some '-') (digitsValue (whole ++ fraction))
    (exponent - fraction.length)

/-- A floating point number; what is not finite becomes nothing. -/
def float? (text : String) : Option Json :=
  let cs := text.toList
  let unsigned := dropPlus cs
  if unsigned != cs && startsWithSign unsigned then none
  else if [".inf", ".Inf", ".INF"].contains (String.ofList unsigned)
      || ["-.inf", "-.Inf", "-.INF", ".nan", ".NaN", ".NAN"].contains text then some .null
  else (decimal? unsigned).map fun x => .number (.float x)

/-- An integer must fit 64 bits, and one that does not fit 128 bits either is none. The answer tells
apart what is no integer and what is too large. -/
def integerValue? (text : String) : Option (Option Json) :=
  (integer? text.toList).bind fun n =>
    if -Int.pow 2 63 ≤ n && n < Int.pow 2 64 then some (some (.int n))
    else if -Int.pow 2 127 ≤ n && n < Int.pow 2 128 then some none
    else none

/-- The value of a plain scalar without a tag. -/
def plainValue? (text : String) : Option Json :=
  if text.isEmpty || isNullWord text then some .null
  else
    match boolWord? text with
    | some b => some (.bool b)
    | none =>
      match integerValue? text with
      | some value => value
      | none =>
        if isPaddedDigits text.toList then some (.string text)
        else some ((float? text).getD (.string text))

/-- The bytes of a tag of the language's own. -/
def coreTag (name : String) : List UInt8 := ("tag:yaml.org,2002:" ++ name).toUTF8.toList

/-- The value of a scalar. There is none when its tag asks for another kind, or for a type of its own. -/
def scalarValue? (tag : Option (List UInt8)) (plain : Bool) (text : String) : Option Json :=
  match tag with
  | none => if plain then plainValue? text else some (.string text)
  | some tag =>
    if tag = coreTag "bool" then (boolWord? text).map .bool
    else if tag = coreTag "int" then (integerValue? text).getD none
    else if tag = coreTag "float" then float? text
    else if tag = coreTag "null" then if isNullWord text then some .null else none
    else if tag.head? = some 33 then
      if (tag.drop 1).toByteArray.validateUTF8 then none
      else if plain then plainValue? text
      else some (.string text)
    else some (.string text)

end SwaggerService.Yaml
