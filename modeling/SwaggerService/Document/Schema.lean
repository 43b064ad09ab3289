import SwaggerService.Decode.Fields
import SwaggerService.Json.Printer

/-! # Schemas

The schema of a value, as a Swagger 2.0 document gives it. Wherever a part of a document may be shared,
it is either written in place or referred to. -/

namespace SwaggerService

/-- A part of a document: a reference to it, or the part itself. -/
inductive RefOr (α : Type) where
  | ref (target : String)
  | item (value : α)
  deriving Repr, Inhabited

/-- The target of a part that is a reference. -/
def RefOr.target? {α : Type} : RefOr α → Option String
  | .ref target => some target
  | .item _ => none

/-- The declared type of a schema. -/
inductive Kind where
  | string | number | integer | boolean | null | array | object | file | unrecognized
  deriving DecidableEq, Repr, Inhabited

namespace Kind

/-- Every type that a document can name. -/
def named : List Kind := [.string, .number, .integer, .boolean, .null, .array, .object, .file]

/-- The name of a type. -/
def name : Kind → String
  | .string => "string"
  | .number => "number"
  | .integer => "integer"
  | .boolean => "boolean"
  | .null => "null"
  | .array => "array"
  | .object => "object"
  | .file => "file"
  | .unrecognized => "unknown"

/-- Reads a type; any other text is an unrecognized one. -/
def decode (payload : Decode.Payload) : Decoder Kind :=
  Decode.enumeration (named.map fun kind => (kind.name, kind)) (some .unrecognized) payload

end Kind

/-- A schema. -/
structure Schema where
  type : Option Kind := none
  description : Option String := none
  format : Option String := none
  pattern : Option String := none
  minLength : Option UInt64 := none
  maxLength : Option UInt64 := none
  enumValues : Option (List Json) := none
  multipleOf : Option Number := none
  minimum : Option Number := none
  exclusiveMinimum : Option Bool := none
  maximum : Option Number := none
  exclusiveMaximum : Option Bool := none
  items : Option (RefOr Schema) := none
  minItems : Option UInt64 := none
  maxItems : Option UInt64 := none
  uniqueItems : Option Bool := none
  properties : List (String × RefOr Schema) := []
  required : List String := []
  allOf : List (RefOr Schema) := []
  minProperties : Option UInt64 := none
  maxProperties : Option UInt64 := none
  additionalProperties : Option Json := none
  deriving Inhabited

namespace Schema

/-- The declared type of a schema; one without a type is unrecognized. -/
def kind (s : Schema) : Kind := s.type.getD .unrecognized

/-- A value of an enumeration as a text: a text is itself, any other value its compact form. -/
def enumText : Json → String
  | .string text => text
  | v => v.compact

/-- The values of an enumeration as texts. -/
def enumStrings (s : Schema) : Option (List String) := s.enumValues.map (·.map enumText)

/-- Whether properties that are not listed are forbidden. -/
def forbidsAdditional (s : Schema) : Bool :=
  match s.additionalProperties with
  | some (.bool false) => true
  | _ => false

end Schema

end SwaggerService
