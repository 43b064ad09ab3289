import SwaggerService.Fault
import SwaggerService.Service

/-! # Registry of given names

Inline objects and enumerations become types and enumerations with names of their own. The registry
keeps those made so far, every name in use and the current depth of nesting. A name that is in use is
extended by the least number from 2 on that makes it free. -/

namespace SwaggerService

open Service

/-- The types and enumerations made so far, in order, the names in use, and the depth of nesting with
its limit. -/
structure Registry where
  enums : List EnumDef := []
  types : List TypeDef := []
  names : List String := []
  depth : Nat := 0
  maxDepth : Nat
  deriving DecidableEq, Repr

namespace Registry

/-- The levels of nesting that are left. -/
def room (r : Registry) : Nat := r.maxDepth - r.depth

/-- Takes a name, so that no other entry gets it. -/
def reserve (r : Registry) (name : String) : Registry := { r with names := r.names.insert name }

/-- A name extended by a number. -/
def numbered (candidate : String) (n : Nat) : String := candidate ++ toString n

/-- The least number from `start` on that makes a name free, among the next `fuel` ones. -/
def seek (names : List String) (candidate : String) : Nat → Nat → Option Nat
  | 0, _ => none
  | fuel + 1, start =>
    if numbered candidate start ∈ names then seek names candidate fuel (start + 1) else some start

/-- The free name for a candidate. One number more than there are names is always enough. -/
def freeName (names : List String) (candidate : String) : String :=
  if candidate ∈ names then
    ((seek names candidate (names.length + 1) 2).map (numbered candidate)).getD ""
  else candidate

/-- Takes the free name for a candidate. -/
def claim (r : Registry) (candidate : String) : String × Registry :=
  let name := freeName r.names candidate
  (name, r.reserve name)

/-- Adds an enumeration. -/
def addEnum (r : Registry) (e : EnumDef) : Registry := { r with enums := r.enums ++ [e] }

/-- Adds a type. -/
def addType (r : Registry) (t : TypeDef) : Registry := { r with types := r.types ++ [t] }

/-- Goes one level deeper, unless that exceeds the limit. -/
def enter (r : Registry) (location : String) : Except Fault Registry :=
  if r.maxDepth ≤ r.depth then .error (.depthExceeded r.maxDepth location)
  else .ok { r with depth := r.depth + 1 }

/-- Comes back from a level. -/
def leave (r : Registry) : Registry := { r with depth := r.depth - 1 }

end Registry

end SwaggerService
