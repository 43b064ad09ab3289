import SwaggerService.Document.Schema

/-! # Reading schemas

A schema is written as an object of keywords, or as a list of the values of its keywords in declaration
order. Unknown keywords are skipped. A part that is neither a reference nor fits its type is reported
without further detail. -/

namespace SwaggerService

open Decode

/-- Reads a part that may be a reference: an object with a text under `$ref` is one; otherwise the part
itself was read with the given outcome. -/
def RefOr.ofJson {α : Type} (v : Json) (read : Unit → Except Fault α) : Except Fault (RefOr α) :=
  match (v.field? "$ref").bind Json.string? with
  | some target => .ok (.ref target)
  | none =>
    match read () with
    | .ok a => .ok (.item a)
    | .error _ => .error (.noForm "RefOr")

/-- Reads a part that may be a reference. -/
def RefOr.decode {α : Type} (decode : Decoder α) : Decoder (RefOr α) := fun v =>
  RefOr.ofJson v fun _ => decode v

namespace Schema

/-- The keywords of a schema in declaration order. -/
def keywords : List String :=
  ["type", "description", "format", "pattern", "minLength", "maxLength", "enum", "multipleOf",
    "minimum", "exclusiveMinimum", "maximum", "exclusiveMaximum", "items", "minItems", "maxItems",
    "uniqueItems", "properties", "required", "allOf", "minProperties", "maxProperties",
    "additionalProperties"]

/-- The ways to read the value of a keyword as schemas: as one, as a list, and as a map of them. -/
structure Readings where
  node : Unit → Except Fault (RefOr Schema)
  nodes : Unit → Except Fault (List (RefOr Schema))
  members : Unit → Except Fault (List (String × RefOr Schema))

/-- Enters the value of one keyword. -/
def enter (payload : Payload) (s : Schema) (keyword : String) (v : Json) (readings : Readings) :
    Except Fault Schema :=
  match keyword with
  | "type" => do return { s with type := ← optional (Kind.decode payload) v }
  | "description" => do return { s with description := ← optional string v }
  | "format" => do return { s with format := ← optional string v }
  | "pattern" => do return { s with pattern := ← optional string v }
  | "minLength" => do return { s with minLength := ← optional uint64 v }
  | "maxLength" => do return { s with maxLength := ← optional uint64 v }
  | "enum" => do return { s with enumValues := ← optional (list value) v }
  | "multipleOf" => do return { s with multipleOf := ← optional number v }
  | "minimum" => do return { s with minimum := ← optional number v }
  | "exclusiveMinimum" => do return { s with exclusiveMinimum := ← optional bool v }
  | "maximum" => do return { s with maximum := ← optional number v }
  | "exclusiveMaximum" => do return { s with exclusiveMaximum := ← optional bool v }
  | "items" => do return { s with items := ← optional (fun _ => readings.node ()) v }
  | "minItems" => do return { s with minItems := ← optional uint64 v }
  | "maxItems" => do return { s with maxItems := ← optional uint64 v }
  | "uniqueItems" => do return { s with uniqueItems := ← optional bool v }
  | "properties" => do return { s with properties := ← readings.members () }
  | "required" => do return { s with required := ← list string v }
  | "allOf" => do return { s with allOf := ← readings.nodes () }
  | "minProperties" => do return { s with minProperties := ← optional uint64 v }
  | "maxProperties" => do return { s with maxProperties := ← optional uint64 v }
  | "additionalProperties" => do return { s with additionalProperties := ← optional value v }
  | _ => .ok s

mutual

/-- Reads a schema. -/
def decode : Json → Except Fault Schema
  | .object entries => ofEntries .null {} entries
  | .list items => ofItems {} keywords items
  | v => .error (.wrongType v "struct Schema")

/-- Enters the entries of an object. -/
def ofEntries (payload : Payload) (s : Schema) : List (String × Json) → Except Fault Schema
  | [] => .ok s
  | (keyword, v) :: rest => do
    let s ← enter payload s keyword v {
      node := fun _ => RefOr.ofJson v fun _ => decode v
      nodes := fun _ => decodeNodes v
      members := fun _ => decodeMembers v }
    ofEntries payload s rest

/-- Enters the items of a list under the keywords that are left; no item may remain. -/
def ofItems (s : Schema) : List String → List Json → Except Fault Schema
  | _, [] => .ok s
  | [], rest => .error (.wrongLength (keywords.length + rest.length) "fewer elements in array")
  | keyword :: keywords, v :: rest => do
    let s ← enter .null s keyword v {
      node := fun _ => RefOr.ofJson v fun _ => decode v
      nodes := fun _ => decodeNodes v
      members := fun _ => decodeMembers v }
    ofItems s keywords rest

/-- Reads a list of schemas. -/
def decodeNodes : Json → Except Fault (List (RefOr Schema))
  | .list items => nodesOf items
  | v => .error (.wrongType v "a sequence")

/-- Reads the items of a list of schemas. -/
def nodesOf : List Json → Except Fault (List (RefOr Schema))
  | [] => .ok []
  | v :: rest => do
    let node ← RefOr.ofJson v fun _ => decode v
    return node :: (← nodesOf rest)

/-- Reads a map of schemas. -/
def decodeMembers : Json → Except Fault (List (String × RefOr Schema))
  | .object entries => do return Entries.ofList (← membersOf entries)
  | v => .error (.wrongType v "a map")

/-- Reads the entries of a map of schemas. -/
def membersOf : List (String × Json) → Except Fault (List (String × RefOr Schema))
  | [] => .ok []
  | (name, v) :: rest => do
    let node ← RefOr.ofJson v fun _ => decode v
    return (name, node) :: (← membersOf rest)

end

/-- Reads a schema that may be a reference. -/
def decodeNode : Decoder (RefOr Schema) := RefOr.decode decode

end Schema

end SwaggerService
