import SwaggerService.Json
import SwaggerService.Number.Natural

/-! # Pointers

A local reference is a `#` followed by a path. Each step of the path stands behind a `/`; inside a step,
`~1` means `/` and `~0` means `~`. Paths of two steps into a section of shared parts name an entry of
that section. -/

namespace SwaggerService

/-- The target of a local reference. -/
inductive Pointer where
  | definition (name : String)
  | parameter (name : String)
  | response (name : String)
  | other (raw : String)
  deriving DecidableEq, Repr, Inhabited

namespace Pointer

/-- Writes a step so that neither `/` nor `~` stands in it by itself. -/
def escape : List Char → List Char
  | [] => []
  | c :: rest =>
    if c = '~' then '~' :: '0' :: escape rest
    else if c = '/' then '~' :: '1' :: escape rest
    else c :: escape rest

/-- Reads a written step. A `~` before any other character stands for itself. -/
def unescape : List Char → List Char
  | '~' :: '1' :: rest => '/' :: unescape rest
  | '~' :: '0' :: rest => '~' :: unescape rest
  | c :: rest => c :: unescape rest
  | [] => []

/-- The steps of a local reference; what stands before the first `/` is skipped. A reference that does
not begin with `#` leads elsewhere. -/
def steps? (raw : String) : Option (List String) :=
  match raw.toList with
  | '#' :: path => some (((path.splitOn '/').drop 1).map fun step => String.ofList (unescape step))
  | _ => none

/-- Reads a reference; nothing for one that leads elsewhere. -/
def parse? (raw : String) : Option Pointer :=
  match steps? raw with
  | none => none
  | some ["definitions", name] => some (.definition name)
  | some ["parameters", name] => some (.parameter name)
  | some ["responses", name] => some (.response name)
  | some _ => some (.other raw)

end Pointer

/-- The value one step inside a value: under a key of an object, or at an index of a list. -/
def Json.child? (step : String) : Json → Option Json
  | .object fields => Entries.get? step fields
  | .list items => (readNatural? UInt64.size step).bind fun index => items[index]?
  | _ => none

/-- The value at the end of a path of steps. -/
def Json.at? : List String → Json → Option Json
  | [], v => some v
  | step :: rest, v => (v.child? step).bind (Json.at? rest)

end SwaggerService
