import SwaggerService.Json.Token
import SwaggerService.Yaml.Cursor
import SwaggerService.Yaml.Token

/-! # Tags, anchors and directives

How tags, the names of anchors and the directives before a document are written. A tag is a sequence of
bytes, because any byte can be given by its code. -/

namespace SwaggerService.Yaml

/-- Whether a character may stand in a tag as it is. Between angle brackets a few more may. -/
def isTagChar (verbatim : Bool) (c : Char) : Bool :=
  isWordChar c || ";/?:@&=+$.!~*'()".toList.contains c || (verbatim && ",[]".toList.contains c)

/-- How many bytes a first byte announces for one character. -/
def byteWidth? (byte : Nat) : Option Nat :=
  if byte < 0x80 then some 1
  else if 0xc0 ≤ byte && byte < 0xe0 then some 2
  else if 0xe0 ≤ byte && byte < 0xf0 then some 3
  else if 0xf0 ≤ byte && byte < 0xf8 then some 4
  else none

/-- The byte of a code behind a `%`. -/
def codedByte? : List Char → Option Nat
  | '%' :: a :: b :: _ => do return (← Json.hexValue? a) * 16 + (← Json.hexValue? b)
  | _ => none

/-- The coded bytes that complete a character. -/
def trailingBytes : Nat → List Char → Option (List UInt8)
  | 0, _ => some []
  | count + 1, cs => do
    let byte ← codedByte? cs
    if byte < 0x80 || 0xc0 ≤ byte then none
    return byte.toUInt8 :: (← trailingBytes count (cs.drop 3))

/-- The coded bytes of one character. -/
def codedBytes (cs : List Char) : Option (List UInt8) := do
  let byte ← codedByte? cs
  let width ← byteWidth? byte
  return byte.toUInt8 :: (← trailingBytes (width - 1) (cs.drop 3))

/-- Reads the bytes of a tag. The fuel is the number of characters that may be taken. -/
def tagBytes (verbatim : Bool) : Nat → Cursor → Option (List UInt8 × Cursor)
  | 0, c => some ([], c)
  | fuel + 1, c =>
    match c.ahead? 0 with
    | some '%' => do
      let bytes ← codedBytes c.rest
      let (others, c) ← tagBytes verbatim fuel (c.skip (3 * bytes.length))
      return (bytes ++ others, c)
    | some x =>
      if isTagChar verbatim x then do
        let (others, c) ← tagBytes verbatim fuel (c.skip 1)
        return (x.toNat.toUInt8 :: others, c)
      else some ([], c)
    | none => some ([], c)

/-- The bytes of a text of ASCII characters. -/
def asciiBytes (cs : List Char) : List UInt8 := cs.map fun c => c.toNat.toUInt8

/-- The bytes up to a zero: what follows one is lost. -/
def upToZero (bytes : List UInt8) : List UInt8 := bytes.takeWhile (· != 0)

/-- Reads a handle: an exclamation mark, a word and, if it is there, another mark. -/
def tagHandle? (c : Cursor) : Option (List Char × Cursor) :=
  if c.sees '!' then
    let (word, next) := (c.skip 1).span isWordChar
    if next.sees '!' then some ('!' :: word ++ ['!'], next.skip 1) else some ('!' :: word, next)
  else none

/-- Reads a tag between angle brackets. -/
def verbatimTag? (c : Cursor) : Option (WrittenTag × Cursor) := do
  let (suffix, c) ← tagBytes true c.left (c.skip 2)
  if suffix.isEmpty || !c.sees '>' then none
  return (⟨[], upToZero suffix⟩, c.skip 1)

/-- Reads a tag in its short form: behind a handle, or behind a single mark. The mark alone is a tag
without a handle. -/
def shortTag? (c : Cursor) : Option (WrittenTag × Cursor) := do
  let (handle, c) ← tagHandle? c
  let (suffix, c) ← tagBytes false c.left c
  if 1 < handle.length && handle.getLast? = some '!' then
    if suffix.isEmpty then none
    return (⟨handle, upToZero suffix⟩, c)
  else
    let suffix := upToZero (asciiBytes (handle.drop 1) ++ suffix)
    if suffix.isEmpty then return (⟨[], asciiBytes ['!']⟩, c)
    return (⟨['!'], suffix⟩, c)

/-- Reads a tag. A gap must follow or, in a flow collection, a comma. -/
def tag? (flow : Bool) (c : Cursor) : Option (Token × Cursor) := do
  let (tag, c) ← if c.sees '<' 1 then verbatimTag? c else shortTag? c
  if (flow && c.sees ',') || c.atGap then return (.tag tag, c) else none

/-- Reads the name of an anchor or of an alias. A gap or one of a few marks must follow. -/
def anchorName? (c : Cursor) : Option (List Char × Cursor) :=
  let (name, next) := (c.skip 1).span isWordChar
  if !name.isEmpty && (next.atGap || next.looksAt fun x => "?:,]\x7d%@\x60".toList.contains x) then
    some (name, next)
  else none

/-- Reads a number of at most nine digits. -/
def versionNumber? (c : Cursor) : Option (Nat × Cursor) :=
  let (digits, next) := c.span Char.isDigit
  if digits.isEmpty || 9 < digits.length then none
  else some (digits.foldl (fun n d => n * 10 + (d.toNat - 48)) 0, next)

/-- Reads the value of a version directive. -/
def versionValue? (c : Cursor) : Option (Token × Cursor) := do
  let (major, c) ← versionNumber? (c.skipWhile isBlank)
  if !c.sees '.' then none
  let (minor, c) ← versionNumber? (c.skip 1)
  return (.version major minor, c)

/-- Reads the value of a tag directive: a handle and what it stands for. -/
def tagValue? (c : Cursor) : Option (Token × Cursor) := do
  let (handle, c) ← tagHandle? (c.skipWhile isBlank)
  if handle != ['!'] && (handle.length < 2 || handle.getLast? != some '!') then none
  if !c.looksAt isBlank then none
  let c := c.skipWhile isBlank
  let (start, c) ← tagBytes true c.left c
  if start.isEmpty || !c.atGap then none
  return (.tagDirective handle (upToZero start), c)

/-- Reads a directive up to the end of its line. -/
def directive? (c : Cursor) : Option (Token × Cursor) := do
  let (name, c) := (c.skip 1).span isWordChar
  if !c.atGap then none
  let (token, c) ←
    if name = "YAML".toList then versionValue? c
    else if name = "TAG".toList then tagValue? c
    else none
  return (token, ← c.skipLineEnd?)

end SwaggerService.Yaml
