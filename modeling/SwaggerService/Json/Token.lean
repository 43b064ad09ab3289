import SwaggerService.Json

/-! # Tokens of a JSON text

A text is a list of tokens that ends with `finish`, or with a `broken` token that names the first
malformed one. -/

namespace SwaggerService.Json

/-- What can be wrong with the syntax of a JSON text. -/
inductive SyntaxFault where
  | unfinishedValue
  | unfinishedList
  | unfinishedObject
  | unfinishedString
  | expectedValue
  | expectedIdent
  | expectedColon
  | expectedListEnd
  | expectedObjectEnd
  | keyNotString
  | trailingComma
  | trailingCharacters
  | invalidNumber
  | numberOutOfRange
  | invalidEscape
  | unfinishedEscape
  | loneSurrogate
  | controlCharacter
  | tooDeep
  deriving DecidableEq, Repr

/-- The text of a syntax fault. -/
def SyntaxFault.message : SyntaxFault → String
  | .unfinishedValue => "EOF while parsing a value"
  | .unfinishedList => "EOF while parsing a list"
  | .unfinishedObject => "EOF while parsing an object"
  | .unfinishedString => "EOF while parsing a string"
  | .expectedValue => "expected value"
  | .expectedIdent => "expected ident"
  | .expectedColon => "expected \x60:\x60"
  | .expectedListEnd => "expected \x60,\x60 or \x60]\x60"
  | .expectedObjectEnd => "expected \x60,\x60 or \x60\x7d\x60"
  | .keyNotString => "key must be a string"
  | .trailingComma => "trailing comma"
  | .trailingCharacters => "trailing characters"
  | .invalidNumber => "invalid number"
  | .numberOutOfRange => "number out of range"
  | .invalidEscape => "invalid escape"
  | .unfinishedEscape => "unexpected end of hex escape"
  | .loneSurrogate => "lone leading surrogate in hex escape"
  | .controlCharacter => "control character (\\u0000-\\u001F) found while parsing a string"
  | .tooDeep => "recursion limit exceeded"

/-- A token. A `broken` one remembers whether it began as a string. -/
inductive Token where
  | listOpen
  | listClose
  | objectOpen
  | objectClose
  | comma
  | colon
  | string (text : String)
  | scalar (value : Json)
  | broken (quoted : Bool) (fault : SyntaxFault)
  | finish
  deriving Repr, Inhabited

/-! ## Strings -/

/-- The value of a hexadecimal digit of either case. -/
def hexValue? (c : Char) : Option Nat :=
  if '0' ≤ c && c ≤ '9' then some (c.toNat - 48)
  else if 'a' ≤ c && c ≤ 'f' then some (c.toNat - 87)
  else if 'A' ≤ c && c ≤ 'F' then some (c.toNat - 55)
  else none

/-- Whether at least `count` bytes of text remain. -/
def hasBytes (count : Nat) (cs : List Char) : Bool :=
  count ≤ (cs.take count).foldr (fun c n => c.utf8Size + n) 0

/-- The code unit of four hexadecimal digits. A text of fewer than four bytes is cut off. -/
def codeUnit (cs : List Char) : Except SyntaxFault Nat :=
  if !hasBytes 4 cs then .error .unfinishedString
  else
    match (cs.take 4).mapM hexValue? with
    | some [a, b, c, d] => .ok (((a * 16 + b) * 16 + c) * 16 + d)
    | _ => .error .invalidEscape

/-- The character of a `\u` escape and how many characters follow the `u` in it. Two surrogates make one
character; neither may stand alone. -/
def unicodeEscape (cs : List Char) : Except SyntaxFault (Char × Nat) := do
  let first ← codeUnit cs
  if 0xDC00 ≤ first && first ≤ 0xDFFF then throw .loneSurrogate
  if first < 0xD800 || 0xDFFF < first then return (Char.ofNat first, 4)
  match cs.drop 4 with
  | [] => throw .unfinishedString
  | '\\' :: [] => throw .unfinishedString
  | '\\' :: 'u' :: rest =>
    let second ← codeUnit rest
    if second < 0xDC00 || 0xDFFF < second then throw .loneSurrogate
    return (Char.ofNat (0x10000 + (first - 0xD800) * 0x400 + (second - 0xDC00)), 10)
  | _ => throw .unfinishedEscape

/-- The character of an escape and how many characters follow the backslash in it. -/
def escape : List Char → Except SyntaxFault (Char × Nat)
  | [] => .error .unfinishedString
  | 'u' :: rest => do
    let (c, used) ← unicodeEscape rest
    return (c, used + 1)
  | c :: _ =>
    if c = '"' || c = '\\' || c = '/' then .ok (c, 1)
    else if c = 'b' then .ok (Char.ofNat 8, 1)
    else if c = 'f' then .ok (Char.ofNat 12, 1)
    else if c = 'n' then .ok ('\n', 1)
    else if c = 'r' then .ok ('\r', 1)
    else if c = 't' then .ok ('\t', 1)
    else .error .invalidEscape

/-- Reads a string behind its opening quote: its characters, after those already read (newest first),
and how many characters it took, the closing quote included. -/
def stringBody (done : List Char) (used : Nat) : List Char → Except SyntaxFault (String × Nat)
  | [] => .error .unfinishedString
  | '"' :: _ => .ok (String.ofList done.reverse, used + 1)
  | '\\' :: rest =>
    match escape rest with
    | .error fault => .error fault
    | .ok (c, taken) => stringBody (c :: done) (used + 1 + taken) (rest.drop taken)
  | c :: rest =>
    if c.toNat < 32 then .error .controlCharacter else stringBody (c :: done) (used + 1) rest
termination_by cs => cs.length

/-! ## Numbers and words -/

/-- The values of the decimal digits at the start of a text. -/
def leadingDigits (cs : List Char) : List Nat :=
  (cs.takeWhile Char.isDigit).map fun c => c.toNat - 48

/-- Digits that must be there: a number stops at the end of the text, or at another character. -/
def someDigits (cs : List Char) : Except SyntaxFault (List Nat) :=
  match leadingDigits cs, cs with
  | [], [] => .error .unfinishedValue
  | [], _ => .error .invalidNumber
  | digits, _ => .ok digits

/-- The whole part of a number: a zero, or digits that do not start with one. -/
def wholeDigits (cs : List Char) : Except SyntaxFault (List Nat) := do
  match ← someDigits cs with
  | 0 :: _ :: _ => throw .invalidNumber
  | digits => return digits

/-- The fraction after a point, and how many characters it takes. -/
def fraction (cs : List Char) : Except SyntaxFault (Option (List Nat) × Nat) :=
  match cs with
  | '.' :: rest => do
    let digits ← someDigits rest
    return (some digits, digits.length + 1)
  | _ => .ok (none, 0)

/-- The exponent after an `e` of either case, and how many characters it takes. -/
def exponent (cs : List Char) : Except SyntaxFault (Option Int × Nat) :=
  match cs with
  | c :: rest =>
    if c = 'e' || c = 'E' then do
      let (sign, signs) :=
        match rest with
        | '-' :: _ => ((-1 : Int), 1)
        | '+' :: _ => (1, 1)
        | _ => (1, 0)
      let digits ← someDigits (rest.drop signs)
      return (some (sign * DecimalLiteral.ofDigits digits), digits.length + signs + 1)
    else .ok (none, 0)
  | [] => .ok (none, 0)

/-- The number at the start of a text, and how many characters it takes. -/
def numeral (cs : List Char) : Except SyntaxFault (Number × Nat) := do
  let signs := if cs.head? = some '-' then 1 else 0
  let cs := cs.drop signs
  let whole ← wholeDigits cs
  let cs := cs.drop whole.length
  let (fraction, fractionSize) ← fraction cs
  let (exponent, exponentSize) ← exponent (cs.drop fractionSize)
  match (DecimalLiteral.mk (signs == 1) whole fraction exponent).value with
  | some value => return (value, signs + whole.length + fractionSize + exponentSize)
  | none => throw .numberOutOfRange

/-- Checks the rest of a word, letter by letter. -/
def word (value : Json) (used : Nat) : List Char → List Char → Token × Nat
  | [], _ => (.scalar value, used)
  | _ :: _, [] => (.broken false .unfinishedValue, used)
  | w :: ws, c :: cs =>
    if w = c then word value (used + 1) ws cs else (.broken false .expectedIdent, used)

/-! ## The token list -/

/-- The token that starts with a character which is not blank, and how many of the characters after that
one belong to it. -/
def lexeme (c : Char) (rest : List Char) : Token × Nat :=
  if c = '[' then (.listOpen, 0)
  else if c = ']' then (.listClose, 0)
  else if c = '\x7b' then (.objectOpen, 0)
  else if c = '\x7d' then (.objectClose, 0)
  else if c = ',' then (.comma, 0)
  else if c = ':' then (.colon, 0)
  else if c = 'n' then word .null 0 ['u', 'l', 'l'] rest
  else if c = 't' then word (.bool true) 0 ['r', 'u', 'e'] rest
  else if c = 'f' then word (.bool false) 0 ['a', 'l', 's', 'e'] rest
  else if c = '"' then
    match stringBody [] 0 rest with
    | .ok (text, used) => (.string text, used)
    | .error fault => (.broken true fault, 0)
  else if c = '-' || c.isDigit then
    match numeral (c :: rest) with
    | .ok (value, used) => (.scalar (.number value), used - 1)
    | .error fault => (.broken false fault, 0)
  else (.broken false .expectedValue, 0)

/-- Blanks between tokens. -/
def isBlank (c : Char) : Bool := c = ' ' || c = '\n' || c = '\t' || c = '\r'

/-- The tokens of a text. Nothing is read behind a broken one. -/
def tokens : List Char → List Token
  | [] => [.finish]
  | c :: rest =>
    if isBlank c then tokens rest
    else
      match lexeme c rest with
      | (.broken quoted fault, _) => [.broken quoted fault]
      | (token, used) => token :: tokens (rest.drop used)
termination_by cs => cs.length

end SwaggerService.Json
