import SwaggerService.Text.Blank
import SwaggerService.Text.Quoted

/-! # Semantic versions

Three numbers joined by points, optionally followed by a pre-release identifier after a hyphen and by
build metadata after a plus sign. -/

namespace SwaggerService

/-- A semantic version. -/
structure Version where
  major : Nat
  minor : Nat
  patch : Nat
  preRelease : List (List Char)
  build : List (List Char)
  deriving DecidableEq, Repr

namespace Version

/-- A part of a version. -/
inductive Part where
  | major | minor | patch | preRelease | build
  deriving DecidableEq, Repr

/-- Why a text is no version. -/
inductive Fault where
  | empty
  | unexpectedEnd (part : Part)
  | unexpectedChar (part : Part) (c : Char)
  | unexpectedCharAfter (part : Part) (c : Char)
  | leadingZero (part : Part)
  | overflow (part : Part)
  | emptySegment (part : Part)
  deriving DecidableEq, Repr

/-- The name of a part. -/
def Part.name : Part → String
  | .major => "major version number"
  | .minor => "minor version number"
  | .patch => "patch version number"
  | .preRelease => "pre-release identifier"
  | .build => "build metadata"

/-- The text of a fault. -/
def Fault.message : Fault → String
  | .empty => "empty string, expected a semver version"
  | .unexpectedEnd part => "unexpected end of input while parsing " ++ part.name
  | .unexpectedChar part c =>
    "unexpected character " ++ Text.quoteSingle c ++ " while parsing " ++ part.name
  | .unexpectedCharAfter part c =>
    "unexpected character " ++ Text.quoteSingle c ++ " after " ++ part.name
  | .leadingZero part => "invalid leading zero in " ++ part.name
  | .overflow part => "value of " ++ part.name ++ " exceeds u64::MAX"
  | .emptySegment part => "empty identifier segment in " ++ part.name

/-- A number without leading zeros that fits 64 bits, and the text after it. -/
def number (part : Part) (cs : List Char) : Except Fault (Nat × List Char) :=
  let digits := cs.takeWhile Char.isDigit
  let rest := cs.dropWhile Char.isDigit
  match digits, rest with
  | [], [] => .error (.unexpectedEnd part)
  | [], c :: _ => .error (.unexpectedChar part c)
  | '0' :: _ :: _, _ => .error (.leadingZero part)
  | digits, rest =>
    let value := digits.foldl (fun n c => n * 10 + (c.toNat - 48)) 0
    if value < UInt64.size then .ok (value, rest) else .error (.overflow part)

/-- The text after the point that follows a part. -/
def point (part : Part) : List Char → Except Fault (List Char)
  | '.' :: rest => .ok rest
  | c :: _ => .error (.unexpectedCharAfter part c)
  | [] => .error (.unexpectedEnd part)

/-- Whether a character may occur in an identifier. -/
def isIdentifierChar (c : Char) : Bool := c.isAlphanum || c = '-'

/-- Checks a segment of an identifier. Only in a pre-release a number has no leading zeros. -/
def checkSegment (part : Part) (segment : List Char) : Except Fault Unit :=
  match segment with
  | [] => .error (.emptySegment part)
  | '0' :: _ :: _ =>
    if part = .preRelease && segment.all Char.isDigit then .error (.leadingZero part) else .ok ()
  | _ => .ok ()

/-- Checks segments in order. -/
def checkSegments (part : Part) : List (List Char) → Except Fault Unit
  | [] => .ok ()
  | segment :: rest => do
    checkSegment part segment
    checkSegments part rest

/-- The segments of an identifier, joined by points, and the text after it. -/
def identifier (part : Part) (cs : List Char) : Except Fault (List (List Char) × List Char) := do
  let inside := fun c => isIdentifierChar c || c = '.'
  let segments := (cs.takeWhile inside).splitOn '.'
  checkSegments part segments
  return (segments, cs.dropWhile inside)

/-- An identifier behind its mark, if the mark is there. -/
def marked (mark : Char) (part : Part) : List Char → Except Fault (List (List Char) × List Char)
  | [] => .ok ([], [])
  | c :: rest => if c = mark then identifier part rest else .ok ([], c :: rest)

/-- The last part that a text with these identifiers has. -/
def lastPart (preRelease build : List (List Char)) : Part :=
  if !build.isEmpty then .build else if !preRelease.isEmpty then .preRelease else .patch

/-- Reads a version. -/
def ofChars (cs : List Char) : Except Fault Version := do
  if cs.isEmpty then throw .empty
  let (major, cs) ← number .major cs
  let cs ← point .major cs
  let (minor, cs) ← number .minor cs
  let cs ← point .minor cs
  let (patch, cs) ← number .patch cs
  let (preRelease, cs) ← marked '-' .preRelease cs
  let (build, cs) ← marked '+' .build cs
  match cs with
  | [] => return { major, minor, patch, preRelease, build }
  | c :: _ => throw (.unexpectedCharAfter (lastPart preRelease build) c)

/-- Reads a version between white space. -/
def parse (text : String) : Except Fault Version := ofChars (Text.trim text.toList)

end Version

end SwaggerService
