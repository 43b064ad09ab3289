import SwaggerService.Decode.Scalar

/-! # Decoding structures

A structure is written as an object with its fields, or as a list of its fields in declaration order.
`Fields` describes the fields of a structure once; both written forms are read from that description.

Of several faulty entries the first one in the document is reported, and a missing field only when no
entry is faulty. -/

namespace SwaggerService.Decode

/-- The written form of a structure. -/
inductive Source where
  | object (fields : List (String × Json))
  | list (items : List Json)
  deriving Repr

/-- The value of a key and its position among the entries. -/
def locate? (name : String) (position : Nat) : List (String × Json) → Option (Nat × Json)
  | [] => none
  | (key, v) :: rest => if key == name then some (position, v) else locate? name (position + 1) rest

/-- Where the field with a name and a declaration index stands, and its value. -/
def Source.slot? (name : String) (index : Nat) : Source → Option (Nat × Json)
  | .object fields => locate? name 0 fields
  | .list items => items[index]?.map fun v => (index, v)

/-- What keeps a structure from being read. -/
inductive Trouble where
  | faulty (position : Nat) (fault : Fault)
  | missing (name : String) (index : Nat)
  deriving Repr

/-- Of two troubles the one to report. The first one is of fields declared earlier. -/
def Trouble.first : Trouble → Trouble → Trouble
  | .faulty p f, .faulty q g => if q < p then .faulty q g else .faulty p f
  | .missing _ _, .faulty q g => .faulty q g
  | trouble, _ => trouble

/-- A description of fields: how many they are, and how they are read when the first of them has a given
declaration index. -/
structure Fields (α : Type) where
  count : Nat
  read : Source → Nat → Except Trouble α

namespace Fields

/-- Both results, or the trouble to report. -/
def both {α β : Type} : Except Trouble (α → β) → Except Trouble α → Except Trouble β
  | .ok f, .ok a => .ok (f a)
  | .ok _, .error t => .error t
  | .error t, .ok _ => .error t
  | .error t, .error u => .error (t.first u)

instance : Applicative Fields where
  pure a := ⟨0, fun _ _ => .ok a⟩
  seq f x := ⟨f.count + (x ()).count, fun source index =>
    both (f.read source index) ((x ()).read source (index + f.count))⟩

/-- A field, and the value that stands for its absence. -/
def field {α : Type} (name : String) (decode : Decoder α) (absent : Option α) : Fields α :=
  ⟨1, fun source index =>
    match source.slot? name index, absent with
    | some (position, v), _ => (decode v).mapError (Trouble.faulty position)
    | none, some a => .ok a
    | none, none => .error (.missing name index)⟩

/-- A field that must be there. -/
def required {α : Type} (name : String) (decode : Decoder α) : Fields α := field name decode none

/-- A field with a default. -/
def defaulted {α : Type} (name : String) (decode : Decoder α) (default : α) : Fields α :=
  field name decode (some default)

/-- A field that may be absent or `null`. -/
def optional {α : Type} (name : String) (decode : Decoder α) : Fields (Option α) :=
  field name (Decode.optional decode) (some none)

/-- The fault of a structure that was written as an object. -/
def objectFault : Trouble → Fault
  | .faulty _ fault => fault
  | .missing name _ => .missingField name

/-- How messages count the fields of a structure. -/
def elements (kind : String) (count : Nat) : String :=
  kind ++ " with " ++ toString count ++ (if count = 1 then " element" else " elements")

/-- The fault of a structure that was written as a list. -/
def listFault (kind : String) (count : Nat) : Trouble → Fault
  | .faulty _ fault => fault
  | .missing _ index => .wrongLength index (elements kind count)

/-- Reads the fields out of the entries of an object. -/
def ofObject {α : Type} (fields : Fields α) (entries : List (String × Json)) : Except Fault α :=
  (fields.read (.object entries) 0).mapError objectFault

/-- A structure in either written form. -/
def decode {α : Type} (name : String) (fields : Fields α) : Decoder α
  | .object entries => fields.ofObject entries
  | .list items => do
    let kind := "struct " ++ name
    let a ← (fields.read (.list items) 0).mapError (listFault kind fields.count)
    if fields.count < items.length then
      throw (.wrongLength items.length "fewer elements in array")
    return a
  | v => .error (.wrongType v ("struct " ++ name))

end Fields

end SwaggerService.Decode
