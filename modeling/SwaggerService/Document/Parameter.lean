import SwaggerService.Document.SchemaReading
import SwaggerService.Http

/-! # Parameters and responses

A parameter of an operation carries the keywords of its schema beside its own fields, except that a body
parameter has a schema of its own. A response may have a schema. -/

namespace SwaggerService

open Decode

/-- A parameter. `schema` belongs to body parameters, `fields` holds the keywords of all others. -/
structure Parameter where
  name : String
  location : Location
  description : Option String
  required : Bool
  schema : Option (RefOr Schema)
  collectionFormat : Option CollectionFormat
  fields : Schema
  deriving Inhabited

/-- A response. -/
structure Response where
  description : Option String := none
  schema : Option (RefOr Schema) := none
  deriving Inhabited

namespace Parameter

/-- Whether the parameter is the body of a request. -/
def isBody (p : Parameter) : Bool := p.location == .body

/-- The keys of the fields that a parameter has beside the keywords of its schema. -/
def ownKeys : List String :=
  ["name", "in", "description", "required", "schema", "collectionFormat"]

/-- A parameter apart from the keywords of its schema. -/
def ownFields : Fields (Schema → Parameter) :=
  mk <$> Fields.required "name" string
    <*> Fields.required "in" (Location.decode .null)
    <*> Fields.optional "description" string
    <*> Fields.defaulted "required" bool false
    <*> Fields.optional "schema" Schema.decodeNode
    <*> Fields.optional "collectionFormat" (CollectionFormat.decode .null)

/-- Reads a parameter: first its own fields, then the keywords of its schema from the other entries. -/
def decode : Decoder Parameter
  | .object entries => do
    let own ← ownFields.ofObject entries
    let others := entries.filter fun (key, _) => !ownKeys.contains key
    return own (← Schema.ofEntries .nullOrEmpty {} others)
  | v => .error (.wrongType v "struct Parameter")

/-- Reads a parameter that may be a reference. -/
def decodeNode : Decoder (RefOr Parameter) := RefOr.decode decode

end Parameter

namespace Response

/-- Reads a response. -/
def decode : Decoder Response :=
  (mk <$> Fields.optional "description" string
    <*> Fields.optional "schema" Schema.decodeNode).decode "Response"

/-- Reads a response that may be a reference. -/
def decodeNode : Decoder (RefOr Response) := RefOr.decode decode

end Response

end SwaggerService
