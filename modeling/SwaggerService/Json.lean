import SwaggerService.Entries
import SwaggerService.Number

/-! # JSON values

Objects keep their entries in document order. -/

namespace SwaggerService

/-- A JSON value. -/
inductive Json where
  | null
  | bool (value : Bool)
  | number (value : Number)
  | string (value : String)
  | list (items : List Json)
  | object (fields : List (String × Json))
  deriving Repr, Inhabited

namespace Json

/-- An integer value. -/
def int (n : Int) : Json := .number (.int n)

/-- A natural number as a value. -/
def nat (n : Nat) : Json := .number (.int n)

/-- The value of a key of an object; nothing for any other value. -/
def field? (key : String) : Json → Option Json
  | .object fields => Entries.get? key fields
  | _ => none

/-- The text of a string value. -/
def string? : Json → Option String
  | .string s => some s
  | _ => none

end Json

end SwaggerService
