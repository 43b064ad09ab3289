import SwaggerService.Document
import SwaggerService.Fault
import SwaggerService.Pointer

/-! # References of a document

References to definitions, parameters and responses are looked up in the typed document; any other local
reference is followed through the document as it was written. A reference may lead to a further one; a
chain of such steps has a limit, so that a cycle ends. -/

namespace SwaggerService

/-- A document, and the value that it was read from. -/
structure Loaded where
  document : Document
  raw : Json
  deriving Inhabited

/-- Where a reference to a schema leads in one step. A `shapeless` target exists but is no schema. -/
inductive Landing where
  | schema (schema : Schema)
  | shapeless (reference : String) (fault : Decode.Fault)
  | next (reference : String)
  deriving Inhabited

/-- The part that is written in place, or the next reference. -/
def Landing.ofNode : RefOr Schema → Landing
  | .ref target => .next target
  | .item part => .schema part

/-- The schema of a landing; a target that is no schema says nothing. -/
def Landing.toSchema : Landing → Schema
  | .schema found => found
  | _ => {}

namespace Loaded

/-- The most references that are followed in a chain. -/
def maxHops : Nat := 32

/-- Reads a reference to a part of the document. -/
def pointer (reference : String) : Except Fault Pointer :=
  match Pointer.parse? reference with
  | some pointer => .ok pointer
  | none => .error (.externalReference reference)

/-- The entry of a section. -/
def entry {α : Type} (parts : List (String × α)) (reference name : String) : Except Fault α :=
  match Entries.get? name parts with
  | some part => .ok part
  | none => .error (.unresolvedReference reference)

/-- The written value that a reference leads to. -/
def rawAt (l : Loaded) (reference : String) : Except Fault Json :=
  match Pointer.steps? reference with
  | none => .error (.externalReference reference)
  | some steps =>
    match l.raw.at? steps with
    | some v => .ok v
    | none => .error (.unresolvedReference reference)

/-- Reads a part of a given type out of the written document. -/
def partAt {α : Type} (l : Loaded) (decode : Decoder α) (reference : String) : Except Fault α := do
  let v ← l.rawAt reference
  (decode v).mapError fun fault => .document (.target reference fault)

/-- The landing of a reference into no section. -/
def landRaw (reference : String) (v : Json) : Landing :=
  match (v.field? "$ref").bind Json.string? with
  | some further => .next further
  | none =>
    match Schema.decode v with
    | .ok found => .schema found
    | .error fault => .shapeless reference fault

/-- Where a reference leads in one step. A body parameter and a response stand for their schemas, any
other parameter for its keywords. -/
def land (l : Loaded) (reference : String) : Except Fault Landing := do
  match ← pointer reference with
  | .definition name => return .schema (← entry l.document.definitions reference name)
  | .parameter name =>
    let p ← entry l.document.parameters reference name
    match p.schema with
    | some node => return if p.isBody then Landing.ofNode node else .schema p.fields
    | none => return .schema p.fields
  | .response name =>
    let r ← entry l.document.responses reference name
    match r.schema with
    | some node => return Landing.ofNode node
    | none => return .schema {}
  | .other _ => return landRaw reference (← l.rawAt reference)

/-- Follows a chain of references for so many hops. -/
def chase (l : Loaded) : Nat → String → Except Fault Landing
  | 0, reference => .error (.depthExceeded maxHops reference)
  | hops + 1, reference => do
    match ← l.land reference with
    | .next further => l.chase hops further
    | landing => return landing

/-- The schema that a reference leads to. -/
def schemaAt (l : Loaded) (reference : String) : Except Fault Schema :=
  (l.chase maxHops reference).map Landing.toSchema

/-- The schema of a part. -/
def schema (l : Loaded) : RefOr Schema → Except Fault Schema
  | .item part => .ok part
  | .ref target => l.schemaAt target

/-- The parameter of a part. -/
def parameter (l : Loaded) : RefOr Parameter → Except Fault Parameter
  | .item p => .ok p
  | .ref target => do
    match ← pointer target with
    | .parameter name => entry l.document.parameters target name
    | _ => l.partAt Parameter.decode target

/-- The response of a part. -/
def response (l : Loaded) : RefOr Response → Except Fault Response
  | .item r => .ok r
  | .ref target => do
    match ← pointer target with
    | .response name => entry l.document.responses target name
    | _ => l.partAt Response.decode target

/-- The end of a chain of references that exists but is no schema. -/
def shapeless? (l : Loaded) (reference : String) : Option (String × Decode.Fault) :=
  match l.chase maxHops reference with
  | .ok (.shapeless reference fault) => some (reference, fault)
  | _ => none

end Loaded

end SwaggerService
