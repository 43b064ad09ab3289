import SwaggerService.Document.Parameter

/-! # Operations and path items

A path item holds the operations of one path, in document order, and the parameters that they share. -/

namespace SwaggerService

open Decode

/-- An operation. Its responses are keyed by status code or by `default`. -/
structure Operation where
  operationId : Option String
  summary : Option String
  description : Option String
  parameters : List (RefOr Parameter)
  responses : List (String × RefOr Response)
  deriving Inhabited

/-- The operations of a path. -/
structure PathItem where
  parameters : List (RefOr Parameter) := []
  operations : List (Verb × Operation) := []
  deriving Inhabited

/-- Reads an operation. -/
def Operation.decode : Decoder Operation :=
  (mk <$> Fields.optional "operationId" string
    <*> Fields.optional "summary" string
    <*> Fields.optional "description" string
    <*> Fields.defaulted "parameters" (list Parameter.decodeNode) []
    <*> Fields.defaulted "responses" (map Response.decodeNode) []).decode "Operation"

namespace PathItem

/-- Enters one entry of a path item. Entries that are neither shared parameters nor operations say
nothing, but a path item cannot refer to another one. -/
def enter (item : PathItem) (key : String) (v : Json) : Except Fault PathItem :=
  if key = "parameters" then do
    return { item with parameters := ← list Parameter.decodeNode v }
  else if key = "$ref" then throw (.pathReference v)
  else
    match Verb.ofKey? key with
    | some verb => do
      let operation ← (Operation.decode v).mapError (Fault.inOperation verb.key)
      return { item with operations := item.operations ++ [(verb, operation)] }
    | none => return item

/-- Reads a path item, entry by entry. -/
def decode : Decoder PathItem
  | .object entries => entries.foldlM (fun item (key, v) => enter item key v) {}
  | v => .error (.wrongType v "a map")

end PathItem

end SwaggerService
