import SwaggerService.Decode.Fields

/-! # Decoding tagged variants

A value with one of several shapes is an object whose `id` names the shape and whose other entries are
its fields, or a list of that name and the fields. -/

namespace SwaggerService.Decode

/-- A shape: its tag, its name in messages, and its fields. A shape without fields takes any entries. -/
structure Shape (α : Type) where
  tag : String
  name : String
  fields : Fields α

/-- How a tag may be written. -/
inductive TagForm where
  /-- As the text of a tag. -/
  | text
  /-- As the text of a tag, or as the index of a shape. -/
  | textOrIndex
  deriving DecidableEq, Repr

/-- A type of tagged values: its name in messages and its shapes. -/
structure Tagged (α : Type) where
  name : String
  shapes : List (Shape α)

namespace Tagged

/-- The shape that a tag names. -/
def shape {α : Type} (type : Tagged α) (form : TagForm) : Json → Except Fault (Shape α)
  | .string tag =>
    match type.shapes.find? fun s => s.tag == tag with
    | some shape => .ok shape
    | none => .error (.unknownVariant tag (type.shapes.map (·.tag)))
  | .number (.int n) =>
    if form = .textOrIndex && 0 ≤ n then
      match type.shapes[n.toNat]? with
      | some shape => .ok shape
      | none => .error (.unknownIndex (.number (.int n)) type.shapes.length)
    else .error (.wrongType (.number (.int n)) "variant identifier")
  | v => .error (.wrongType v "variant identifier")

/-- How messages count the items of a list of fields. -/
def expectedItems (count : Nat) : String :=
  toString count ++ (if count = 1 then " element in sequence" else " elements in sequence")

/-- Reads the fields of a shape from a list. -/
def ofItems {α : Type} (type : Tagged α) (shape : Shape α) (items : List Json) : Except Fault α := do
  let kind := "struct variant " ++ type.name ++ "::" ++ shape.name
  let fault := Fields.listFault kind shape.fields.count
  let a ← (shape.fields.read (.list items) 0).mapError fault
  if shape.fields.count < items.length then
    throw (.wrongLength items.length (expectedItems shape.fields.count))
  return a

/-- A tagged value. -/
def decode {α : Type} (type : Tagged α) (form : TagForm) : Decoder α
  | .object entries =>
    match Entries.get? "id" entries with
    | some tag => do (← type.shape form tag).fields.ofObject entries
    | none => .error (.missingField "id")
  | .list (tag :: items) => do type.ofItems (← type.shape form tag) items
  | .list [] => .error (.missingField "id")
  | v => .error (.wrongType v ("internally tagged enum " ++ type.name))

end Tagged

end SwaggerService.Decode
