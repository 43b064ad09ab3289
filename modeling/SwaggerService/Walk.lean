import SwaggerService.Document.Rules
import SwaggerService.Event
import SwaggerService.Registry

/-! # Walks over schemas

A walk reads a loaded document and fills a registry. What it has entered stays entered when it fails, and
every level that it goes down it also comes back from. -/

namespace SwaggerService

open Service

/-- What a walk has made and noted so far. -/
structure Run where
  registry : Registry
  log : Array Event := #[]

/-- A walk with a result or a fault. -/
abbrev Walk (α : Type) := ExceptT Fault (StateM Run) α

namespace Walk

/-- A walk that only gives an outcome. -/
def outcome {α : Type} (e : Except Fault α) : Walk α := fun run => (e, run)

/-- Notes an event. -/
def note (e : Event) : Walk Unit := modify fun run => { run with log := run.log.push e }

/-- Changes the registry. -/
def update (f : Registry → Registry) : Walk Unit :=
  modify fun run => { run with registry := f run.registry }

/-- Takes the free name for a candidate. -/
def claim (candidate : String) : Walk String := do
  let (name, registry) := (← get).registry.claim candidate
  if name != candidate then note (.renamed candidate name)
  update fun _ => registry
  return name

/-- Adds an enumeration. -/
def addEnum (e : EnumDef) : Walk Unit := do
  note (.enumNamed e.name e.values.length)
  update (·.addEnum e)

/-- Adds a type. -/
def addType (t : TypeDef) : Walk Unit := do
  note (.typeNamed t.name t.properties.length)
  update (·.addType t)

/-- Does a walk one level deeper. -/
def level {α : Type} (location : String) (body : Walk α) : Walk α := fun run =>
  match run.registry.enter location with
  | .error fault => (.error fault, run)
  | .ok registry =>
    let (result, run) := body { run with registry }
    (result, { run with registry := run.registry.leave })

/-- Refuses to go deeper. -/
def refuse {α : Type} (location : String) : Walk α := fun run =>
  (.error (.depthExceeded run.registry.maxDepth location), run)

/-- Notes that a chain of references ends in something that is no schema. -/
def noteShapeless (l : Loaded) (reference : String) : Walk Unit :=
  match l.shapeless? reference with
  | some (reference, fault) => note (.shapelessTarget reference fault)
  | none => pure ()

/-- Notes the same of a part that is a reference. -/
def noteNode (l : Loaded) : RefOr Schema → Walk Unit
  | .ref target => noteShapeless l target
  | .item _ => pure ()

/-- The schema that a reference leads to. -/
def schemaAt (l : Loaded) (reference : String) : Walk Schema := do
  noteShapeless l reference
  outcome (l.schemaAt reference)

/-- The schema of a part. -/
def schema (l : Loaded) (node : RefOr Schema) : Walk Schema := do
  noteNode l node
  outcome (l.schema node)

/-- The rules of a schema, with those of its items. -/
def ruleSet (l : Loaded) (s : Schema) : Walk (List Rule) := do
  match s.arrayItems? with
  | some items => noteNode l items
  | none => pure ()
  outcome (l.ruleSet s)

end Walk

end SwaggerService
