import SwaggerService.Proofs.Culprits

/-! # Lookups side by side

Two documents are looked into side by side. Where single steps end alike, with the same schema or with the
same next reference, whole chains of references do. References are only compared where they may stand, and
whatever they lead to holds only references that may stand there. -/

namespace SwaggerService

/-! ## References in their places -/

/-- The references that may stand for a schema, for a parameter and for a response. -/
structure Reach where
  schema : String → Prop
  parameter : String → Prop
  response : String → Prop

/-- The same references in all places. -/
def Reach.every (known : String → Prop) : Reach := ⟨known, known, known⟩

/-- Every reference of an operation may stand where it does. -/
structure Operation.Confined (reach : Reach) (o : Operation) : Prop where
  parameters : ∀ node ∈ o.parameters, node.RefsIn reach.parameter (Parameter.RefsIn reach.schema)
  responses : ∀ entry ∈ o.responses, entry.2.RefsIn reach.response (Response.RefsIn reach.schema)

/-- Every reference of a path item may stand where it does. -/
structure PathItem.Confined (reach : Reach) (item : PathItem) : Prop where
  parameters : ∀ node ∈ item.parameters, node.RefsIn reach.parameter (Parameter.RefsIn reach.schema)
  operations : ∀ operation ∈ item.operations, operation.2.Confined reach

/-- Every reference of a document may stand where it does. -/
structure Document.Confined (reach : Reach) (d : Document) : Prop where
  paths : ∀ path ∈ d.paths, path.2.Confined reach
  definitions : ∀ entry ∈ d.definitions, entry.2.RefsIn reach.schema
  parameters : ∀ entry ∈ d.parameters, entry.2.RefsIn reach.schema
  responses : ∀ entry ∈ d.responses, entry.2.RefsIn reach.schema

theorem Document.RefsIn.confined {known : String → Prop} {d : Document} (h : d.RefsIn known) :
    d.Confined (.every known) := by
  have hpath : ∀ item : PathItem, item.RefsIn known → item.Confined (.every known) :=
    fun _ hitem => ⟨hitem.parameters, fun operation hmem =>
      ⟨(hitem.operations operation hmem).parameters, (hitem.operations operation hmem).responses⟩⟩
  exact ⟨fun path hmem => hpath path.2 (h.paths path hmem), h.definitions, h.parameters, h.responses⟩

/-! ## Outcomes -/

/-- Two outcomes are alike: their values correspond, or their faults do. -/
inductive Alike {α : Type} (fault : Fault → Fault → Prop) (value : α → α → Prop) :
    Except Fault α → Except Fault α → Prop
  | ok {a a' : α} : value a a' → Alike fault value (.ok a) (.ok a')
  | error {f f' : Fault} : fault f f' → Alike fault value (.error f) (.error f')

theorem Alike.bind {α β : Type} {fault : Fault → Fault → Prop} {V : α → α → Prop} {W : β → β → Prop}
    {e e' : Except Fault α} {f f' : α → Except Fault β} (he : Alike fault V e e')
    (hf : ∀ a a', V a a' → Alike fault W (f a) (f' a')) : Alike fault W (e >>= f) (e' >>= f') := by
  cases he with
  | ok h => exact hf _ _ h
  | error h => exact .error h

theorem Alike.imp {α : Type} {fault : Fault → Fault → Prop} {V W : α → α → Prop} {e e' : Except Fault α}
    (he : Alike fault V e e') (hVW : ∀ a a', V a a' → W a a') : Alike fault W e e' := by
  cases he with
  | ok h => exact .ok (hVW _ _ h)
  | error h => exact .error h

theorem Alike.eq {α : Type} {e e' : Except Fault α} (h : Alike (· = ·) (· = ·) e e') : e = e' := by
  cases h with
  | ok h => rw [h]
  | error h => rw [h]

/-- The same value on both sides, with a property. -/
def Equally {α : Type} (good : α → Prop) (a a' : α) : Prop := a = a' ∧ good a

namespace Loaded

/-- Two landings are alike: in the same schema or before the same reference, or in no schema at all. -/
inductive LandsAlike (known : String → Prop) : Landing → Landing → Prop
  | schema {s : Schema} (h : s.RefsIn known) : LandsAlike known (.schema s) (.schema s)
  | shapeless {reference reference' : String} {fault fault' : Decode.Fault} :
      LandsAlike known (.shapeless reference fault) (.shapeless reference' fault')
  | next {reference : String} (h : known reference) : LandsAlike known (.next reference) (.next reference)

theorem LandsAlike.ofNode {known : String → Prop} {node : RefOr Schema}
    (h : node.RefsIn known (Schema.RefsIn known)) :
    LandsAlike known (Landing.ofNode node) (Landing.ofNode node) := by
  cases node with
  | ref target => exact .next h
  | item s => exact .schema h

/-- Single lookups in two documents end alike: those in the sections, and those in the written documents
for references that lead into no section, or into one with parts of another kind. -/
structure Lookups (reach : Reach) (fault : Fault → Fault → Prop) (l l' : Loaded) : Prop where
  fault_refl : ∀ f, fault f f
  definition : ∀ reference name, Alike fault (Equally (Schema.RefsIn reach.schema))
    (entry l.document.definitions reference name) (entry l'.document.definitions reference name)
  parameter : ∀ reference name, Alike fault (Equally (Parameter.RefsIn reach.schema))
    (entry l.document.parameters reference name) (entry l'.document.parameters reference name)
  response : ∀ reference name, Alike fault (Equally (Response.RefsIn reach.schema))
    (entry l.document.responses reference name) (entry l'.document.responses reference name)
  written : ∀ {reference raw}, reach.schema reference → Pointer.parse? reference = some (.other raw) →
    Alike fault (fun v v' => LandsAlike reach.schema (landRaw reference v) (landRaw reference v'))
      (l.rawAt reference) (l'.rawAt reference)
  parameterAt : ∀ {reference p}, reach.parameter reference → Pointer.parse? reference = some p →
    (∀ name, p ≠ .parameter name) → Alike fault (Equally (Parameter.RefsIn reach.schema))
      (l.partAt Parameter.decode reference) (l'.partAt Parameter.decode reference)
  responseAt : ∀ {reference p}, reach.response reference → Pointer.parse? reference = some p →
    (∀ name, p ≠ .response name) → Alike fault (Equally (Response.RefsIn reach.schema))
      (l.partAt Response.decode reference) (l'.partAt Response.decode reference)

variable {α : Type} {reach : Reach} {fault : Fault → Fault → Prop} {l l' : Loaded} {reference : String}

theorem entry_alike {good : α → Prop} {parts parts' : List (String × α)} {name : String}
    (hfault : ∀ f, fault f f) (hgood : ∀ entry ∈ parts, good entry.2)
    (hsame : Entries.get? name parts' = Entries.get? name parts) (reference : String) :
    Alike fault (Equally good) (entry parts reference name) (entry parts' reference name) := by
  unfold entry
  rw [hsame]
  split
  · next part hpart => exact .ok ⟨rfl, hgood _ (Entries.mem_of_get? hpart)⟩
  · exact .error (hfault _)

namespace Lookups

theorem pointer_alike (hl : Lookups reach fault l l') (reference : String) :
    Alike fault (Equally fun p => Pointer.parse? reference = some p) (pointer reference)
      (pointer reference) := by
  cases h : pointer reference with
  | ok p => exact .ok ⟨rfl, parse_of_pointer h⟩
  | error f => exact .error (hl.fault_refl f)

theorem land_alike (hl : Lookups reach fault l l') (hr : reach.schema reference) :
    Alike fault (LandsAlike reach.schema) (l.land reference) (l'.land reference) := by
  refine (hl.pointer_alike reference).bind ?_
  rintro p _ ⟨rfl, hp⟩
  cases p with
  | definition name =>
    refine (hl.definition reference name).bind ?_
    rintro s _ ⟨rfl, hs⟩
    exact .ok (.schema hs)
  | parameter name =>
    refine (hl.parameter reference name).bind ?_
    rintro p _ ⟨rfl, hgood⟩
    cases hs : p.schema with
    | none => exact .ok (.schema hgood.fields)
    | some node =>
      dsimp only
      split
      · exact .ok (.ofNode (hgood.schema node hs))
      · exact .ok (.schema hgood.fields)
  | response name =>
    refine (hl.response reference name).bind ?_
    rintro r _ ⟨rfl, hgood⟩
    cases hs : r.schema with
    | none => exact .ok (.schema Schema.refsIn_empty)
    | some node => exact .ok (.ofNode (hgood node hs))
  | other raw => exact (hl.written hr hp).bind fun _ _ h => .ok h

/-- Every further reference of a chain may stand there, too. -/
theorem chase_alike (hl : Lookups reach fault l l') (hops : Nat) (hr : reach.schema reference) :
    Alike fault (LandsAlike reach.schema) (l.chase hops reference) (l'.chase hops reference) := by
  induction hops generalizing reference with
  | zero => exact .error (hl.fault_refl _)
  | succ hops ih =>
    refine (hl.land_alike hr).bind fun landing landing' h => ?_
    cases h with
    | next hfurther => exact ih hfurther
    | schema hs => exact .ok (.schema hs)
    | shapeless => exact .ok .shapeless

theorem schemaAt_alike (hl : Lookups reach fault l l') (hr : reach.schema reference) :
    Alike fault (Equally (Schema.RefsIn reach.schema)) (l.schemaAt reference) (l'.schemaAt reference) := by
  have hchase := hl.chase_alike maxHops hr
  unfold schemaAt
  generalize l.chase maxHops reference = e at hchase ⊢
  generalize l'.chase maxHops reference = e' at hchase ⊢
  cases hchase with
  | error h => exact .error h
  | ok h =>
    cases h with
    | schema hs => exact .ok ⟨rfl, hs⟩
    | shapeless | next => exact .ok ⟨rfl, Schema.refsIn_empty⟩

theorem schema_alike (hl : Lookups reach fault l l') {node : RefOr Schema}
    (hn : node.RefsIn reach.schema (Schema.RefsIn reach.schema)) :
    Alike fault (Equally (Schema.RefsIn reach.schema)) (l.schema node) (l'.schema node) := by
  cases node with
  | item s => exact .ok ⟨rfl, hn⟩
  | ref target => exact hl.schemaAt_alike hn

theorem parameter_alike (hl : Lookups reach fault l l') {node : RefOr Parameter}
    (hn : node.RefsIn reach.parameter (Parameter.RefsIn reach.schema)) :
    Alike fault (Equally (Parameter.RefsIn reach.schema)) (l.parameter node) (l'.parameter node) := by
  cases node with
  | item p => exact .ok ⟨rfl, hn⟩
  | ref target =>
    refine (hl.pointer_alike target).bind ?_
    rintro p _ ⟨rfl, hp⟩
    cases p with
    | parameter name => exact hl.parameter target name
    | definition | response | other => exact hl.parameterAt hn hp (by rintro _ ⟨⟩)

theorem response_alike (hl : Lookups reach fault l l') {node : RefOr Response}
    (hn : node.RefsIn reach.response (Response.RefsIn reach.schema)) :
    Alike fault (Equally (Response.RefsIn reach.schema)) (l.response node) (l'.response node) := by
  cases node with
  | item r => exact .ok ⟨rfl, hn⟩
  | ref target =>
    refine (hl.pointer_alike target).bind ?_
    rintro p _ ⟨rfl, hp⟩
    cases p with
    | response name => exact hl.response target name
    | definition | parameter | other => exact hl.responseAt hn hp (by rintro _ ⟨⟩)

end Lookups

end Loaded

end SwaggerService
