import SwaggerService.Decode.Fault

/-! # Decoding plain values

Decoders of texts, truth values, bounded numbers, lists, maps and plain enumerations. -/

namespace SwaggerService

/-- A decoder of a type of the model. -/
abbrev Decoder (α : Type) := Json → Except Decode.Fault α

namespace Decode

/-- A text. -/
def string : Decoder String
  | .string s => .ok s
  | v => .error (.wrongType v "a string")

/-- A truth value. -/
def bool : Decoder Bool
  | .bool b => .ok b
  | v => .error (.wrongType v "a boolean")

/-- A natural number below a bound. -/
def natural (bound : Nat) (wanted : String) : Decoder Nat
  | .number (.int n) =>
    if 0 ≤ n && n < bound then .ok n.toNat else .error (.wrongValue (.number (.int n)) wanted)
  | v => .error (.wrongType v wanted)

/-- An unsigned number of 64 bits. -/
def uint64 : Decoder UInt64 := fun v => (natural UInt64.size "u64" v).map UInt64.ofNat

/-- An unsigned number of 16 bits. -/
def uint16 : Decoder UInt16 := fun v => (natural UInt16.size "u16" v).map UInt16.ofNat

/-- Any number. -/
def number : Decoder Number
  | .number n => .ok n
  | v => .error (.wrongType v "a JSON number")

/-- A value as it is. -/
def value : Decoder Json := .ok

/-- An absent value is written `null`. -/
def optional {α : Type} (decode : Decoder α) : Decoder (Option α)
  | .null => .ok none
  | v => (decode v).map some

/-- Decodes the items of a list in order; the first fault ends it. -/
def items {α : Type} (decode : Decoder α) : List Json → Except Fault (List α)
  | [] => .ok []
  | v :: rest => do return (← decode v) :: (← items decode rest)

/-- A list. -/
def list {α : Type} (decode : Decoder α) : Decoder (List α)
  | .list vs => items decode vs
  | v => .error (.wrongType v "a sequence")

/-- A list of exactly two items. -/
def pair {α β : Type} (first : Decoder α) (second : Decoder β) : Decoder (α × β)
  | .list [] => .error (.wrongLength 0 "a tuple of size 2")
  | .list [v] => do
    let _ ← first v
    throw (.wrongLength 1 "a tuple of size 2")
  | .list (v :: w :: rest) => do
    let result := (← first v, ← second w)
    if rest.isEmpty then return result
    throw (.wrongLength (rest.length + 2) "fewer elements in array")
  | v => .error (.wrongType v "a tuple of size 2")

/-- Decodes the values of the entries of an object in order; the first fault ends it. -/
def values {α : Type} (decode : Decoder α) :
    List (String × Json) → Except Fault (List (String × α))
  | [] => .ok []
  | (key, v) :: rest => do return (key, ← decode v) :: (← values decode rest)

/-- An object with any keys. A key that is written twice keeps its first place and its last value. -/
def map {α : Type} (decode : Decoder α) : Decoder (List (String × α))
  | .object fields => (values decode fields).map Entries.ofList
  | v => .error (.wrongType v "a map")

/-- What may accompany the name of a variant that carries nothing. -/
inductive Payload where
  /-- Only `null`. -/
  | null
  /-- `null`, or an object without fields. -/
  | nullOrEmpty
  deriving DecidableEq, Repr

/-- Whether a payload is empty. -/
def Payload.accepts : Payload → Json → Bool
  | _, .null => true
  | .nullOrEmpty, .object [] => true
  | _, _ => false

/-- The variant of a name, or the one that stands for every other name. -/
def variantNamed {α : Type} (known : List (String × α)) (other : Option α) (name : String) :
    Except Fault α :=
  match known.lookup name, other with
  | some variant, _ => .ok variant
  | none, some variant => .ok variant
  | none, none => .error (.unknownVariant name (known.map (·.1)))

/-- A plain enumeration: the name of a variant, or an object with that name as its only key and an empty
payload. -/
def enumeration {α : Type} (known : List (String × α)) (other : Option α) (payload : Payload) :
    Decoder α
  | .string name => variantNamed known other name
  | .object [(name, v)] => do
    let variant ← variantNamed known other name
    if payload.accepts v then return variant else throw (.wrongType v "unit")
  | .object fields => .error (.wrongValue (.object fields) "map with a single key")
  | v => .error (.wrongType v "string or map")

end Decode

end SwaggerService
