import SwaggerService.Interfaces

/-! # Describing a service

A loaded document becomes the description of a service: its interfaces, the types of its object
definitions in document order, the types of inline objects in the order in which they were completed, and
the enumerations. -/

namespace SwaggerService

open Service

/-- The definitions of objects. -/
def Document.objectDefinitions (d : Document) : List (String × Schema) :=
  d.definitions.filter fun (_, s) => s.kind == .object

/-- The depth of nesting that is accepted when nothing else is asked for. -/
def defaultMaxDepth : Nat := 64

namespace Loaded

/-- The types of object definitions. -/
def definitionTypes (l : Loaded) : List (String × Schema) → Walk (List TypeDef)
  | [] => return []
  | (name, s) :: rest => do
    let properties ← l.properties s name
    let others ← l.definitionTypes rest
    return ⟨name, s.description, properties, s.objectRules⟩ :: others

/-- The interfaces and the types of the definitions, which leave the other types and the enumerations in
the registry. -/
def parts (l : Loaded) : Walk (List Interface × List TypeDef) := do
  let interfaces ← l.interfaces
  let types ← l.definitionTypes l.document.objectDefinitions
  return (interfaces, types)

/-- The registry before a walk: the names of object definitions are taken. -/
def startRegistry (l : Loaded) (maxDepth : Nat) : Registry :=
  l.document.objectDefinitions.foldl (fun r (name, _) => r.reserve name) { maxDepth }

/-- The major number of the version of the service. -/
def majorVersion (l : Loaded) : Except Fault Nat :=
  let text := l.document.info.version
  ((Version.parse text).map Version.major).mapError (Fault.invalidVersion text)

/-- The service of its parts. -/
def assemble (l : Loaded) (major : Nat) (interfaces : List Interface) (types : List TypeDef)
    (registry : Registry) : Service where
  title := Naming.pascalCase l.document.info.title
  majorVersion := UInt64.ofNat major
  interfaces
  types := types ++ registry.types
  enums := registry.enums

/-- Describes the service, and tells what was noted on the way. -/
def describeLogged (l : Loaded) (maxDepth : Nat) : Except Fault Service × List Event :=
  match l.majorVersion with
  | .error fault => (.error fault, [])
  | .ok major =>
    match l.parts { registry := l.startRegistry maxDepth } with
    | (.error fault, run) => (.error fault, run.log.toList)
    | (.ok (interfaces, types), run) =>
      let service := l.assemble major interfaces types run.registry
      let event :=
        Event.described service.interfaces.length service.types.length service.enums.length
      (.ok service, run.log.toList ++ [event])

/-- Describes the service. -/
def describe (l : Loaded) (maxDepth : Nat) : Except Fault Service := (l.describeLogged maxDepth).1

end Loaded

end SwaggerService
