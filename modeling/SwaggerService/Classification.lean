import SwaggerService.Naming.Singular
import SwaggerService.Naming.Words
import SwaggerService.Walk

/-! # Classification of schemas

A schema becomes a descriptor. An enumeration or an object that is written in place gets a name, made
from the name of what it belongs to and its own local name, and is added to the registry; an object is
added after everything inside it. The items of an array lend it their type but not their rules. -/

namespace SwaggerService

open Service

/-- Where a schema stands, as faults tell it. -/
def place (parentName localName : String) : String :=
  if parentName.isEmpty then localName else parentName ++ "." ++ localName

/-- The candidate name of an object that is written in place. -/
def typeCandidate (parentName localName : String) : String :=
  Naming.camelCase (parentName ++ "_" ++ localName)

/-- The candidate name of an enumeration that is written in place. -/
def enumCandidate (parentName localName : String) : String :=
  Naming.camelCase (parentName ++ "_" ++ Naming.singularize localName)

/-- The three walks that go one level deeper: into a part, into a schema and into the properties of an
object. A local name and the name of the parent say where a schema stands. -/
structure Walker where
  node : RefOr Schema → (localName parentName : String) → Walk Descriptor
  schema : Schema → (localName parentName : String) → Walk Descriptor
  properties : Schema → (parentName : String) → Walk (List Property)

namespace Walker

/-- The descriptor of an array: that of its items, but with the rules of the array. -/
def array (below : Unit → Walker) (s : Schema) (localName parentName : String) (rules : List Rule) :
    Walk Descriptor := do
  let item ←
    match s.items with
    | some items => (below ()).node items localName parentName
    | none => pure (Descriptor.unknown [])
  return { item with isArray := true, rules }

/-- The descriptor of a reference. A definition of an object is referred to by its name, any other
definition gives its own type; a reference to no definition is unknown. -/
def reference (l : Loaded) (below : Unit → Walker) (target localName parentName : String) :
    Walk Descriptor := do
  let pointer ← Walk.outcome (Loaded.pointer target)
  let s ← Walk.schemaAt l target
  let rules ← Walk.ruleSet l s
  match pointer with
  | .definition name =>
    match s.kind with
    | .object => return .local name rules
    | .array => array below s localName parentName rules
    | .file | .unrecognized =>
      Walk.note (.untypedDefinition name)
      return .unknown rules
    | kind => return .plain kind.name rules
  | _ => return { typeName := target, isArray := false, isLocal := true, isUnknown := true, rules }

/-- Gives an enumeration a name. -/
def nameEnum (values : List String) (localName parentName : String) (rules : List Rule) :
    Walk Descriptor := do
  let name ← Walk.claim (enumCandidate parentName localName)
  Walk.addEnum ⟨name, values⟩
  return .local name rules

/-- Gives an object a name, and then names what is inside it. -/
def nameObject (below : Unit → Walker) (s : Schema) (localName parentName : String)
    (rules : List Rule) : Walk Descriptor := do
  let name ← Walk.claim (typeCandidate parentName localName)
  let properties ← (below ()).properties s name
  Walk.addType ⟨name, s.description, properties, s.objectRules⟩
  return .local name rules

/-- The descriptor of a schema that is written in place. -/
def inline (l : Loaded) (below : Unit → Walker) (s : Schema) (localName parentName : String) :
    Walk Descriptor := do
  let rules ← Walk.ruleSet l s
  match s.kind with
  | .string =>
    match s.enumStrings with
    | some (value :: values) => nameEnum (value :: values) localName parentName rules
    | _ => return .plain Kind.string.name rules
  | .array => array below s localName parentName rules
  | .object => nameObject below s localName parentName rules
  | .file | .unrecognized =>
    Walk.note (.untypedSchema parentName localName)
    return .unknown rules
  | kind => return .plain kind.name rules

/-- One property of an object. -/
def property (l : Loaded) (below : Unit → Walker) (required : List String) (parentName : String)
    (name : String) (node : RefOr Schema) : Walk Property := do
  let s ← Walk.schema l node
  let type ← (below ()).schema s name parentName
  return ⟨name, s.description, type.withRequired (required.contains name)⟩

/-- Properties in order. -/
def ownProperties (l : Loaded) (below : Unit → Walker) (required : List String)
    (parentName : String) : List (String × RefOr Schema) → Walk (List Property)
  | [] => return []
  | (name, node) :: rest => do
    let first ← property l below required parentName name node
    let others ← ownProperties l below required parentName rest
    return first :: others

/-- The properties of the members of a composed object, one member after the other. What is required is
said by the composed object alone. -/
def memberProperties (l : Loaded) (below : Unit → Walker) (required : List String)
    (parentName : String) : List (RefOr Schema) → Walk (List Property)
  | [] => return []
  | member :: rest => do
    let s ← Walk.schema l member
    let own ← ownProperties l below required parentName s.properties
    let others ← memberProperties l below required parentName rest
    return own ++ others

/-- The properties of an object: its own, or those of its members when it is composed. -/
def allProperties (l : Loaded) (below : Unit → Walker) (s : Schema) (parentName : String) :
    Walk (List Property) :=
  if s.allOf.isEmpty then ownProperties l below s.required parentName s.properties
  else memberProperties l below s.required parentName s.allOf

/-- The walks of one level, by those of the level below it. -/
def above (l : Loaded) (below : Unit → Walker) : Walker where
  node part localName parentName := Walk.level (place parentName localName) <|
    match part with
    | .ref target => reference l below target localName parentName
    | .item s => inline l below s localName parentName
  schema s localName parentName :=
    Walk.level (place parentName localName) (inline l below s localName parentName)
  properties s parentName := Walk.level parentName (allProperties l below s parentName)

/-- The walks that no level is left for. -/
def ground : Walker where
  node _ localName parentName := Walk.refuse (place parentName localName)
  schema _ localName parentName := Walk.refuse (place parentName localName)
  properties _ parentName := Walk.refuse parentName

/-- The walks with so many levels left. -/
def withRoom (l : Loaded) : Nat → Walker
  | 0 => ground
  | room + 1 => above l fun _ => withRoom l room

end Walker

namespace Loaded

/-- Does a walk with the levels that the registry has left. -/
def walk {α : Type} (l : Loaded) (body : Walker → Walk α) : Walk α := fun run =>
  body (Walker.withRoom l run.registry.room) run

/-- Classifies a part that may be a reference. -/
def classify (l : Loaded) (node : RefOr Schema) (localName parentName : String) : Walk Descriptor :=
  l.walk fun w => w.node node localName parentName

/-- Classifies a schema. -/
def classifySchema (l : Loaded) (s : Schema) (localName parentName : String) : Walk Descriptor :=
  l.walk fun w => w.schema s localName parentName

/-- The properties of an object schema. -/
def properties (l : Loaded) (s : Schema) (parentName : String) : Walk (List Property) :=
  l.walk fun w => w.properties s parentName

end Loaded

end SwaggerService
