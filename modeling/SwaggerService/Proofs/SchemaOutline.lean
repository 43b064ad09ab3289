import SwaggerService.Proofs.Outline

/-! # Outlines of schemas

Which outlines the schemas of a document have. Nothing here speaks of a walk, of its depth or of the names
in use: the schemas of a document decide the whole outline but for the names in it. An object expands to
the schemas of its fields, an array to its items, a reference to the definition of an array to the items
of that array, and nothing else expands. -/

namespace SwaggerService
open Service

/-- The descriptor of a kind that neither has parts nor a name: a plain one, or an unknown one where the
kind says too little. -/
def Service.Descriptor.bare (kind : Kind) (rules : List Rule) : Descriptor :=
  match kind with
  | .file | .unrecognized => .unknown rules
  | kind => .plain kind.name rules

theorem Service.Descriptor.bare_plain {kind : Kind} (rules : List Rule) (hf : kind ≠ .file)
    (hu : kind ≠ .unrecognized) : Descriptor.bare kind rules = .plain kind.name rules := by
  cases kind <;> first | rfl | contradiction

namespace Loaded

theorem parse_of_pointer {target : String} {p : Pointer} (h : pointer target = .ok p) :
    Pointer.parse? target = some p := by
  unfold pointer at h
  split at h
  · next hp => cases h; exact hp
  · cases h

/-- A reference to a definition leads to that definition, in one step. -/
theorem schemaAt_definition {l : Loaded} {target name : String}
    (hp : Pointer.parse? target = some (.definition name)) :
    l.schemaAt target = entry l.document.definitions target name := by
  have hpointer : pointer target = .ok (.definition name) := by rw [pointer, hp]
  have hland : l.land target = Landing.schema <$> entry l.document.definitions target name := by
    rw [land, hpointer]
    rfl
  rw [schemaAt, maxHops, chase, hland]
  cases entry l.document.definitions target name with
  | error fault => rfl
  | ok s => rfl

/-- The schemas of properties, each with its label. -/
def fieldSchemas (l : Loaded) (required : List String) :
    List (String × RefOr Schema) → Except Fault (List (Label × Schema))
  | [] => .ok []
  | (name, node) :: rest => do
    let s ← l.schema node
    return (⟨name, s.description, required.contains name⟩, s) :: (← l.fieldSchemas required rest)

/-- The schemas of the properties of the members of a composed object. -/
def memberSchemas (l : Loaded) (required : List String) :
    List (RefOr Schema) → Except Fault (List (Label × Schema))
  | [] => .ok []
  | member :: rest => do
    let s ← l.schema member
    return (← l.fieldSchemas required s.properties) ++ (← l.memberSchemas required rest)

/-- The schemas of the properties of an object: of its own ones, or of those of its members when it is
composed. -/
def fieldsOf (l : Loaded) (s : Schema) : Except Fault (List (Label × Schema)) :=
  if s.allOf.isEmpty then l.fieldSchemas s.required s.properties else l.memberSchemas s.required s.allOf

mutual

/-- The outline of a part that may be a reference. -/
inductive NodeOutline (l : Loaded) : RefOr Schema → Outline → Prop
  | item {s : Schema} {o : Outline} : SchemaOutline l s o → NodeOutline l (.item s) o
  | definition {target name : String} {s : Schema} {rules : List Rule} {o : Outline} :
      Pointer.parse? target = some (.definition name) → l.schemaAt target = .ok s →
      l.ruleSet s = .ok rules → DefinitionOutline l name s rules o → NodeOutline l (.ref target) o
  | other {target : String} {p : Pointer} {s : Schema} {rules : List Rule} :
      Pointer.parse? target = some p → (∀ name, p ≠ .definition name) → l.schemaAt target = .ok s →
      l.ruleSet s = .ok rules → NodeOutline l (.ref target) (.leaf ⟨target, false, true, true, rules⟩)

/-- The outline of a reference to a definition: objects are referred to by name, and no definition makes
the reference an enumeration. -/
inductive DefinitionOutline (l : Loaded) : String → Schema → List Rule → Outline → Prop
  | object {name : String} {s : Schema} {rules : List Rule} :
      s.kind = .object → DefinitionOutline l name s rules (.leaf (.local name rules))
  | array {name : String} {s : Schema} {rules : List Rule} {o : Outline} :
      s.kind = .array → PartOutline l s.items o → DefinitionOutline l name s rules (.array rules o)
  | bare {name : String} {s : Schema} {rules : List Rule} :
      s.kind ≠ .object → s.kind ≠ .array →
      DefinitionOutline l name s rules (.leaf (.bare s.kind rules))

/-- The outline of a schema that is written in place. -/
inductive SchemaOutline (l : Loaded) : Schema → Outline → Prop
  | enum {s : Schema} {rules : List Rule} {name : String} {values : List String} :
      l.ruleSet s = .ok rules → s.kind = .string → s.enumStrings = some values → values ≠ [] →
      SchemaOutline l s (.enum name s values rules)
  | array {s : Schema} {rules : List Rule} {o : Outline} :
      l.ruleSet s = .ok rules → s.kind = .array → PartOutline l s.items o →
      SchemaOutline l s (.array rules o)
  | object {s : Schema} {rules : List Rule} {name : String} {fields : List (Label × Schema)}
      {slots : List (Label × Outline)} :
      l.ruleSet s = .ok rules → s.kind = .object → l.fieldsOf s = .ok fields →
      FieldsOutline l fields slots → SchemaOutline l s (.object name s rules slots)
  | bare {s : Schema} {rules : List Rule} :
      l.ruleSet s = .ok rules → s.kind ≠ .object → s.kind ≠ .array →
      (s.kind = .string → s.enumStrings.getD [] = []) →
      SchemaOutline l s (.leaf (.bare s.kind rules))

/-- The outline of a part that may be missing. -/
inductive PartOutline (l : Loaded) : Option (RefOr Schema) → Outline → Prop
  | missing : PartOutline l none (.leaf (.unknown []))
  | part {node : RefOr Schema} {o : Outline} : NodeOutline l node o → PartOutline l (some node) o

/-- The outlines of labelled schemas. -/
inductive FieldsOutline (l : Loaded) : List (Label × Schema) → List (Label × Outline) → Prop
  | nil : FieldsOutline l [] []
  | cons {label : Label} {s : Schema} {o : Outline} {fields : List (Label × Schema)}
      {slots : List (Label × Outline)} :
      SchemaOutline l s o → FieldsOutline l fields slots →
      FieldsOutline l ((label, s) :: fields) ((label, o) :: slots)

end

theorem FieldsOutline.append {l : Loaded} {xs ys : List (Label × Schema)} {us vs : List Slot}
    (hx : l.FieldsOutline xs us) (hy : l.FieldsOutline ys vs) :
    l.FieldsOutline (xs ++ ys) (us ++ vs) := by
  induction xs generalizing us with
  | nil => cases hx; exact hy
  | cons field rest ih =>
    cases hx with
    | cons hs hrest => exact .cons hs (ih hrest)

theorem FieldsOutline.of_mem {l : Loaded} {fields : List (Label × Schema)} {slots : List Slot}
    (h : l.FieldsOutline fields slots) {slot : Slot} (hm : slot ∈ slots) :
    ∃ s, l.SchemaOutline s slot.2 := by
  induction slots generalizing fields with
  | nil => cases hm
  | cons first rest ih =>
    cases h with
    | cons hs hrest =>
      rcases List.mem_cons.mp hm with rfl | hm
      · exact ⟨_, hs⟩
      · exact ih hrest hm

/-! ## What is inside an outline -/

section inside

variable {l : Loaded} {part : Option (RefOr Schema)}

theorem SchemaOutline.toPart {s : Schema} {o : Outline} (h : l.SchemaOutline s o) :
    l.PartOutline (some (.item s)) o := .part (.item h)

/-- Only a schema that is written in place is given a name. -/
theorem PartOutline.named {o : Outline} {name : String} (h : l.PartOutline part o)
    (hn : o.name? = some name) : ∃ s, part = some (.item s) ∧ l.SchemaOutline s o := by
  cases h with
  | missing => cases hn
  | part h =>
    cases h with
    | item h => exact ⟨_, rfl, h⟩
    | other => cases hn
    | definition _ _ _ h => cases h <;> cases hn

theorem PartOutline.items {rules : List Rule} {o : Outline} (h : l.PartOutline part (.array rules o)) :
    ∃ s, s.kind = .array ∧ l.ruleSet s = .ok rules ∧ l.PartOutline s.items o := by
  cases h with
  | part h =>
    cases h with
    | item h => cases h with | array hr hk hi => exact ⟨_, hk, hr, hi⟩
    | definition _ _ hr h => cases h with | array hk hi => exact ⟨_, hk, hr, hi⟩

theorem PartOutline.element : ∀ (o : Outline) {part : Option (RefOr Schema)},
    l.PartOutline part o → ∃ part, l.PartOutline part o.element
  | .leaf _, _, h | .enum .., _, h | .object .., _, h => ⟨_, h⟩
  | .array _ items, _, h => by
    obtain ⟨s, _, _, hi⟩ := h.items
    exact PartOutline.element items hi

mutual

/-- Whatever is named in an outline is the outline of a schema. -/
theorem PartOutline.of_mem : ∀ (o : Outline) {part : Option (RefOr Schema)},
    l.PartOutline part o → ∀ node ∈ o.nodes, ∃ s, l.SchemaOutline s node
  | .leaf _, _, _, _, hm => nomatch hm
  | .enum .., _, h, node, hm => by
    obtain ⟨s, _, hs⟩ := h.named rfl
    rw [List.mem_singleton.mp hm]
    exact ⟨s, hs⟩
  | .array _ items, _, h, node, hm => by
    obtain ⟨s, _, _, hi⟩ := h.items
    exact PartOutline.of_mem items hi node hm
  | .object _ _ _ slots, _, h, node, hm => by
    obtain ⟨s, _, hs⟩ := h.named rfl
    rcases List.mem_append.mp hm with hm | hm
    · cases hs with
      | object _ _ _ hf => exact FieldsOutline.of_mem_nodes slots hf node hm
    · rw [List.mem_singleton.mp hm]
      exact ⟨s, hs⟩

theorem FieldsOutline.of_mem_nodes : ∀ (slots : List (Label × Outline))
    {fields : List (Label × Schema)}, l.FieldsOutline fields slots →
    ∀ node ∈ Outline.nodesIn slots, ∃ s, l.SchemaOutline s node
  | [], _, _, _, hm => nomatch hm
  | (_, o) :: rest, _, .cons hs hrest, node, hm => by
    rcases List.mem_append.mp hm with hm | hm
    · exact PartOutline.of_mem o hs.toPart node hm
    · exact FieldsOutline.of_mem_nodes rest hrest node hm

end

/-- Whatever is in a field inside an outline is the outline of a schema. -/
theorem PartOutline.of_mem_fields {o node : Outline} {slot : Slot} (h : l.PartOutline part o)
    (hn : node ∈ o.nodes) (hs : slot ∈ node.fields) : ∃ s, l.SchemaOutline s slot.2 := by
  obtain ⟨s, ho⟩ := h.of_mem o node hn
  cases ho with
  | object _ _ _ hf => exact hf.of_mem hs
  | enum | array | bare => cases hs

end inside

end Loaded

end SwaggerService
