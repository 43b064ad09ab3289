import SwaggerService.Proofs.Expansion
import SwaggerService.Proofs.TypeOrder

/-! # Provenance

Every descriptor of a service is that of a part of the document, and every type is that of an object schema.
Which part and which schema is said here by what the document and the service have, without a walk and
without outlines: from a method to the parts of its operation, from a descriptor through arrays to the type
that it names, and from a type to the declarations of its properties. -/

namespace SwaggerService
open Service

namespace Loaded

/-- The declarations of the properties of an object: its own ones, or those of its members when it is
composed. -/
def declarations (l : Loaded) (s : Schema) : List (String × RefOr Schema) :=
  if s.allOf.isEmpty then s.properties else (l.resolved s.allOf).flatMap Schema.properties

/-- What is inside all of the arrays that a part is. -/
inductive Innermost (l : Loaded) : Option (RefOr Schema) → Option (RefOr Schema) → Prop
  | here {part : Option (RefOr Schema)} :
      (∀ s, part.bind l.unfolded? = some s → s.kind ≠ .array) → Innermost l part part
  | items {part inner : Option (RefOr Schema)} {s : Schema} :
      part.bind l.unfolded? = some s → s.kind = .array → Innermost l s.items inner → Innermost l part inner

mutual

/-- A part of the document has a descriptor in a service. -/
inductive HasDescriptor (l : Loaded) (service : Service) : Option (RefOr Schema) → Descriptor → Prop
  | parameter {o : Operation} {shared : List (RefOr Parameter)} {method : Method} {node : RefOr Parameter}
      {parameter : Service.Parameter} {p : Parameter} :
      ((o, shared), method) ∈ l.document.operations.zip (service.interfaces.flatMap (·.methods)) →
      (node, parameter) ∈ (o.parameters ++ shared).zip method.parameters → l.parameter node = .ok p →
      HasDescriptor l service (p.root o.parentName).part parameter.type
  | result {o : Operation} {shared : List (RefOr Parameter)} {method : Method} {key : SuccessKey}
      {node : RefOr Response} {response : Response} {d : Descriptor} :
      ((o, shared), method) ∈ l.document.operations.zip (service.interfaces.flatMap (·.methods)) →
      SuccessKey.select o.responses = some (key, node) → l.response node = .ok response →
      method.returnType = some d → HasDescriptor l service response.schema d
  | property {s f : Schema} {t : TypeDef} {declaration : String × RefOr Schema} {p : Property} :
      HasType l service s t → (declaration, p) ∈ (l.declarations s).zip t.properties →
      l.schema declaration.2 = .ok f → HasDescriptor l service (some (.item f)) p.type

/-- An object schema has a type in a service: that of a definition, or one that was synthesized for the
descriptor that names it. -/
inductive HasType (l : Loaded) (service : Service) : Schema → TypeDef → Prop
  | definition {name : String} {s : Schema} {t : TypeDef} :
      ((name, s), t) ∈ l.document.objectDefinitions.zip service.types → HasType l service s t
  | synthesized {part : Option (RefOr Schema)} {d : Descriptor} {s : Schema} {t : TypeDef} :
      HasDescriptor l service part d → l.Innermost part (some (.item s)) → s.kind = .object →
      t ∈ l.synthesized service → d.names t.name = true → HasType l service s t

end

/-! ## Declarations -/

/-- A field is that of a declaration. -/
structure Declares (l : Loaded) (required : List String) (declaration : String × RefOr Schema)
    (field : Label × Schema) : Prop where
  name : field.1.name = declaration.1
  required : field.1.required = required.contains declaration.1
  description : field.1.description = field.2.description
  schema : l.schema declaration.2 = .ok field.2

variable {l : Loaded}

theorem fieldSchemas_declared {required : List String} {properties : List (String × RefOr Schema)}
    {fields : List (Label × Schema)} (h : l.fieldSchemas required properties = .ok fields) :
    List.Forall₂ (l.Declares required) properties fields := by
  induction properties generalizing fields with
  | nil =>
    cases h
    exact .nil
  | cons entry rest ih =>
    obtain ⟨name, node⟩ := entry
    obtain ⟨s, hs, h⟩ := bind_ok h
    obtain ⟨others, hothers, h⟩ := bind_ok h
    cases h
    exact .cons ⟨rfl, rfl, rfl, hs⟩ (ih hothers)

theorem memberSchemas_declared {required : List String} {members : List (RefOr Schema)}
    {fields : List (Label × Schema)} (h : l.memberSchemas required members = .ok fields) :
    List.Forall₂ (l.Declares required) ((l.resolved members).flatMap Schema.properties) fields := by
  induction members generalizing fields with
  | nil =>
    cases h
    exact .nil
  | cons member rest ih =>
    obtain ⟨s, hs, h⟩ := bind_ok h
    obtain ⟨own, hown, h⟩ := bind_ok h
    obtain ⟨others, hothers, h⟩ := bind_ok h
    cases h
    rw [resolved_cons _ hs, List.flatMap_cons]
    exact List.rel_append (fieldSchemas_declared hown) (ih hothers)

/-- What is required is said by the object alone, also when it is composed. -/
theorem fieldsOf_declared {s : Schema} {fields : List (Label × Schema)} (h : l.fieldsOf s = .ok fields) :
    List.Forall₂ (l.Declares s.required) (l.declarations s) fields := by
  unfold fieldsOf at h
  unfold declarations
  split at h
  · next hown =>
    rw [if_pos hown]
    exact fieldSchemas_declared h
  · next hcomposed =>
    rw [if_neg hcomposed]
    exact memberSchemas_declared h

/-- A slot is that of a declaration. -/
structure Draws (l : Loaded) (required : List String) (declaration : String × RefOr Schema) (slot : Slot) :
    Prop where
  name : slot.1.name = declaration.1
  required : slot.1.required = required.contains declaration.1
  outline : ∃ f, l.schema declaration.2 = .ok f ∧ slot.1.description = f.description ∧
    l.SchemaOutline f slot.2

theorem FieldsOutline.drawn {required : List String} {declarations : List (String × RefOr Schema)}
    {fields : List (Label × Schema)} {slots : List Slot}
    (hd : List.Forall₂ (l.Declares required) declarations fields) (h : l.FieldsOutline fields slots) :
    List.Forall₂ (l.Draws required) declarations slots := by
  induction hd generalizing slots with
  | nil =>
    cases h
    exact .nil
  | cons hfirst _ ih =>
    cases h with
    | cons hs hrest => exact .cons ⟨hfirst.name, hfirst.required, _, hfirst.schema, hfirst.description, hs⟩ (ih hrest)

/-! ## Arrays -/

theorem SchemaOutline.of_array {s : Schema} {o : Outline} (h : l.SchemaOutline s o) (hk : s.kind = .array) :
    ∃ rules items, o = .array rules items ∧ l.ruleSet s = .ok rules ∧ l.PartOutline s.items items := by
  cases h with
  | array hr _ hi => exact ⟨_, _, rfl, hr, hi⟩
  | enum _ hstring => rw [hk] at hstring; cases hstring
  | object _ hobject => rw [hk] at hobject; cases hobject
  | bare _ _ ha => exact absurd hk ha

theorem SchemaOutline.of_object {s : Schema} {o : Outline} (h : l.SchemaOutline s o)
    (hk : s.kind = .object) : ∃ name rules fields slots, o = .object name s rules slots ∧
      l.ruleSet s = .ok rules ∧ l.fieldsOf s = .ok fields ∧ l.FieldsOutline fields slots := by
  cases h with
  | object hr _ hf ho => exact ⟨_, _, _, _, rfl, hr, hf, ho⟩
  | enum _ hstring => rw [hk] at hstring; cases hstring
  | array _ harray => rw [hk] at harray; cases harray
  | bare _ ho => exact absurd hk ho

/-- The outline of an array is that of the schema of an array. -/
theorem PartOutline.unfolds {part : Option (RefOr Schema)} {rules : List Rule} {o : Outline}
    (h : l.PartOutline part (.array rules o)) :
    ∃ s, part.bind l.unfolded? = some s ∧ s.kind = .array ∧ l.PartOutline s.items o := by
  cases h with
  | part h =>
    cases h with
    | item h => cases h with | array _ hk hi => exact ⟨_, rfl, hk, hi⟩
    | definition hp hs _ h =>
      cases h with
      | array hk hi => exact ⟨_, by rw [Option.bind_some, unfolded?_definition hp hs, if_pos hk], hk, hi⟩

/-- The innermost outline is that of whatever is inside all of the arrays. -/
theorem Innermost.outline {part inner : Option (RefOr Schema)} {o : Outline} (hi : l.Innermost part inner)
    (h : l.PartOutline part o) : l.PartOutline inner o.element := by
  induction hi generalizing o with
  | here hflat =>
    cases o with
    | array rules items =>
      obtain ⟨s, hs, hk, _⟩ := h.unfolds
      exact absurd hk (hflat s hs)
    | leaf | enum | object => exact h
  | items hs hk _ ih =>
    obtain ⟨rules, items, rfl, _, hitems⟩ := (h.unfolded hs).of_array hk
    have helement := ih hitems
    exact helement

/-! ## Methods -/

theorem parameterRoots_aligned {parentName : String} {nodes : List (RefOr Parameter)} {roots : List Root}
    (h : l.parameterRoots parentName nodes = .ok roots) :
    List.Forall₂ (fun node root => ∃ p, l.parameter node = .ok p ∧ root = p.root parentName) nodes roots := by
  induction nodes generalizing roots with
  | nil =>
    cases h
    exact .nil
  | cons node rest ih =>
    obtain ⟨p, hp, h⟩ := bind_ok h
    obtain ⟨others, hothers, h⟩ := bind_ok h
    cases h
    exact .cons ⟨p, hp, rfl⟩ (ih hothers)

end Loaded

theorem exists_mem_zip {α β : Type} {xs : List α} {ys : List β} {y : β} (h : xs.length = ys.length)
    (hy : y ∈ ys) : ∃ x, (x, y) ∈ xs.zip ys := by
  rw [← List.map_snd_zip h.ge] at hy
  obtain ⟨⟨x, _⟩, hz, rfl⟩ := List.mem_map.mp hy
  exact ⟨x, hz⟩

theorem forall₂_mem {α β : Type} {R : α → β → Prop} {xs : List α} {ys : List β}
    (h : List.Forall₂ R xs ys) : List.Forall₂ (fun x y => y ∈ ys ∧ R x y) xs ys :=
  ((List.forall₂_and_left _ _).mpr ⟨fun _ hy => hy, h.flip⟩).flip

theorem mem_zip_map {α β γ : Type} {f : β → γ} {xs : List α} {ys : List β} {x : α} {z : γ} :
    (x, z) ∈ xs.zip (ys.map f) ↔ ∃ y, (x, y) ∈ xs.zip ys ∧ f y = z := by
  rw [List.zip_map_right, List.mem_map]
  constructor
  · rintro ⟨⟨x', y⟩, hz, heq⟩
    cases heq
    exact ⟨y, hz, rfl⟩
  · rintro ⟨y, hz, rfl⟩
    exact ⟨(x, y), hz, rfl⟩

namespace MethodOutline

variable {l : Loaded} {m : MethodOutline}

theorem Draws.parameters_aligned (h : m.Draws l) :
    List.Forall₂ (fun node r => ∃ p, l.parameter node = .ok p ∧ r.1 = p.root m.operation.parentName)
      (m.operation.parameters ++ m.shared) m.parameters :=
  List.forall₂_map_right_iff.mp (Loaded.parameterRoots_aligned h.parameters)

/-- The result is that of the response that describes success; a shared one lends its name. -/
theorem Draws.result_root (h : m.Draws l) {r : Root × Outline} (hr : m.result = some r) :
    ∃ key node response schema, SuccessKey.select m.operation.responses = some (key, node) ∧
      l.response node = .ok response ∧ response.schema = some schema ∧
      r.1 = ⟨⟨"response", none, false⟩, (Loaded.sharedResponse? node).getD m.operation.parentName,
        some schema⟩ := by
  have hresult := h.result
  rw [hr, Option.map_some] at hresult
  unfold Loaded.resultRoot at hresult
  split at hresult
  · cases hresult
  · next key node hselect =>
    obtain ⟨response, hresponse, hresult⟩ := bind_ok hresult
    obtain ⟨schema, hschema, hroot⟩ := Option.map_eq_some_iff.mp (Except.ok.inj hresult)
    exact ⟨key, node, response, schema, hselect, hresponse, hschema, hroot.symm⟩

theorem Draws.result_drawn (h : m.Draws l) {r : Root × Outline} (hr : m.result = some r) :
    ∃ key node response, SuccessKey.select m.operation.responses = some (key, node) ∧
      l.response node = .ok response ∧ r.1.part = response.schema ∧ r.1.label.required = false := by
  obtain ⟨key, node, response, schema, hselect, hresponse, hschema, hroot⟩ := h.result_root hr
  refine ⟨key, node, response, hselect, hresponse, ?_, ?_⟩
  · rw [hroot, hschema]
  · rw [hroot]

end MethodOutline

namespace Blueprint

variable {b : Blueprint} {l : Loaded} {service : Service}

theorem Draws.zip_methods (h : b.Draws l service) :
    l.document.operations.zip (service.interfaces.flatMap (·.methods)) =
      b.methods.map fun m => ((m.operation, m.shared), m.method) := by
  rw [← h.operations, h.service_methods, List.zip_map']

theorem slot_of_root {m : MethodOutline} {r : Root × Outline} (hm : m ∈ b.methods) (hr : r ∈ m.roots) :
    Root.slot r ∈ b.slots := by
  rw [slots, outer_eq]
  exact List.mem_append_left _ (List.mem_append_left _
    (List.mem_flatMap.mpr ⟨m, hm, List.mem_map_of_mem hr⟩))

theorem slot_of_definition {t : ObjectOutline} {slot : Slot} (ht : t ∈ b.definitions)
    (hs : slot ∈ t.fields) : slot ∈ b.slots := by
  rw [slots, outer_eq]
  exact List.mem_append_left _ (List.mem_append_right _ (List.mem_flatMap.mpr ⟨t, ht, hs⟩))

theorem slot_of_node {node : Outline} {slot : Slot} (hn : node ∈ b.nodes) (hs : slot ∈ node.fields) :
    slot ∈ b.slots := List.mem_append_right _ (List.mem_flatMap.mpr ⟨node, hn, hs⟩)

/-- A part of the document is that of a slot. -/
def Holds (b : Blueprint) (l : Loaded) (part : Option (RefOr Schema)) (d : Descriptor) : Prop :=
  ∃ slot ∈ b.slots, l.PartOutline part slot.2 ∧ d = Slot.type slot

/-- A type is that of an object schema, with slots of the blueprint. -/
structure Extracts (b : Blueprint) (l : Loaded) (s : Schema) (t : TypeDef) : Prop where
  description : t.description = s.description
  rules : t.rules = s.objectRules
  properties : ∃ slots : List Slot, List.Forall₂ (l.Draws s.required) (l.declarations s) slots ∧
    (∀ slot ∈ slots, slot ∈ b.slots) ∧ t.properties = slots.map Slot.property

theorem Draws.extracts_node (h : b.Draws l service) {s : Schema} {name : String} {rules : List Rule}
    {slots : List Slot} (hn : .object name s rules slots ∈ b.nodes) :
    b.Extracts l s ⟨name, s.description, slots.map Slot.property, s.objectRules⟩ := by
  obtain ⟨slot, hslot, hmem⟩ := Outline.mem_nodesIn.mp hn
  obtain ⟨part, hp⟩ := h.part_of_outer hslot
  obtain ⟨_, ho⟩ := hp.of_mem _ _ hmem
  cases ho with
  | object _ _ hf hs =>
    refine ⟨rfl, rfl, slots, Loaded.FieldsOutline.drawn (Loaded.fieldsOf_declared hf) hs, ?_, rfl⟩
    exact fun slot hslot => slot_of_node hn hslot

theorem Draws.extracts_definition (h : b.Draws l service) {t : ObjectOutline} (ht : t ∈ b.definitions) :
    b.Extracts l t.source t.typeDef := by
  obtain ⟨fields, hf, hs⟩ := h.fields t ht
  refine ⟨rfl, rfl, t.fields, Loaded.FieldsOutline.drawn (Loaded.fieldsOf_declared hf) hs, ?_, rfl⟩
  exact fun slot hslot => slot_of_definition ht hslot

theorem Draws.zip_definitions (h : b.Draws l service) :
    l.document.objectDefinitions.zip service.types =
      b.definitions.map fun t => ((t.name, t.source), t.typeDef) := by
  have hlength : (b.definitions.map fun t => (t.name, t.source)).length =
      (b.definitions.map ObjectOutline.typeDef).length := by rw [List.length_map, List.length_map]
  rw [← h.definitions, h.service_types, ← List.append_nil (b.definitions.map fun t => (t.name, t.source)),
    List.zip_append hlength, List.zip_nil_left, List.append_nil, List.zip_map']

/-- The object that the slot of a descriptor is named for. -/
theorem Draws.node_of_names (h : b.Draws l service) {slot : Slot} {t : TypeDef} {name : String} {s : Schema}
    {rules : List Rule} {slots : List Slot} (hs : slot ∈ b.slots)
    (he : slot.2.element = .object name s rules slots) (ht : t ∈ l.synthesized service)
    (hn : (Slot.type slot).names t.name = true) :
    .object name s rules slots ∈ b.nodes ∧
      t = ⟨name, s.description, slots.map Slot.property, s.objectRules⟩ := by
  have hnode : .object name s rules slots ∈ b.nodes := he ▸ element_mem_nodes hs (by rw [he]; rfl)
  refine ⟨hnode, ?_⟩
  rw [h.synthesized_eq] at ht
  obtain ⟨other, hother, htype⟩ := List.mem_filterMap.mp ht
  cases other with
  | leaf | enum | array => cases htype
  | object name' s' rules' slots' =>
    cases htype
    have hname := (h.names_iff hs (name_mem_claims hother rfl)).mp hn
    have hsame := Outline.eq_of_name h.nodes_nodup (element_mem_nodes hs hname) hother hname rfl
    rw [he] at hsame
    cases hsame
    rfl

mutual

/-- Whatever has a descriptor is in the blueprint. -/
theorem Draws.holds (h : b.Draws l service) : ∀ {part : Option (RefOr Schema)} {d : Descriptor},
    l.HasDescriptor service part d → b.Holds l part d
  | _, _, .parameter hmethod hnode hp => by
    rw [h.zip_methods] at hmethod
    obtain ⟨m, hm, heq⟩ := List.mem_map.mp hmethod
    cases heq
    obtain ⟨r, hz, rfl⟩ := mem_zip_map.mp hnode
    have hr := List.mem_append_left m.result.toList (List.of_mem_zip hz).2
    obtain ⟨p', hp', hroot⟩ := List.forall₂_zip (h.methods m hm).parameters_aligned hz
    rw [hp] at hp'
    cases hp'
    rw [← hroot]
    exact ⟨Root.slot r, slot_of_root hm hr, (h.methods m hm).parts r hr, rfl⟩
  | _, _, .result hmethod hselect hresponse hd => by
    rw [h.zip_methods] at hmethod
    obtain ⟨m, hm, heq⟩ := List.mem_map.mp hmethod
    cases heq
    obtain ⟨r, hr, rfl⟩ := Option.map_eq_some_iff.mp hd
    obtain ⟨key, node, response, hselect', hresponse', hpart, _⟩ := (h.methods m hm).result_drawn hr
    rw [hselect] at hselect'
    cases hselect'
    rw [hresponse] at hresponse'
    cases hresponse'
    have hr := List.mem_append_right m.parameters (Option.mem_toList.mpr hr)
    rw [← hpart]
    exact ⟨Root.slot r, slot_of_root hm hr, (h.methods m hm).parts r hr, rfl⟩
  | _, _, .property htype hz hf => by
    obtain ⟨_, _, slots, hslots, hmem, hproperties⟩ := Draws.extracts h htype
    rw [hproperties] at hz
    obtain ⟨slot, hslot, rfl⟩ := mem_zip_map.mp hz
    obtain ⟨f', hf', _, ho⟩ := (List.forall₂_zip hslots hslot).outline
    rw [hf] at hf'
    cases hf'
    exact ⟨slot, hmem slot (List.of_mem_zip hslot).2, ho.toPart, rfl⟩

/-- Whatever has a type is in the blueprint. -/
theorem Draws.extracts (h : b.Draws l service) : ∀ {s : Schema} {t : TypeDef},
    l.HasType service s t → b.Extracts l s t
  | _, _, .definition hz => by
    rw [h.zip_definitions] at hz
    obtain ⟨t, ht, heq⟩ := List.mem_map.mp hz
    cases heq
    exact h.extracts_definition ht
  | _, _, .synthesized hd hi hk ht hn => by
    obtain ⟨slot, hslot, hp, rfl⟩ := Draws.holds h hd
    have helement := hi.outline hp
    cases helement with
    | part ho =>
      cases ho with
      | item ho =>
        obtain ⟨name, rules, fields, slots, he, _⟩ := ho.of_object hk
        obtain ⟨hnode, rfl⟩ := h.node_of_names hslot he ht hn
        exact h.extracts_node hnode

end

/-! ## Nothing comes from elsewhere -/

/-- The slots of a type are those of its declarations. -/
theorem hasDescriptor_of_type {s : Schema} {t : TypeDef} {slots : List Slot}
    (ht : l.HasType service s t) (hslots : List.Forall₂ (l.Draws s.required) (l.declarations s) slots)
    (hp : t.properties = slots.map Slot.property) :
    ∀ slot ∈ slots, ∃ part, l.PartOutline part slot.2 ∧ l.HasDescriptor service part (Slot.type slot) := by
  intro slot hs
  obtain ⟨declaration, hz⟩ := exists_mem_zip hslots.length_eq hs
  obtain ⟨f, hf, _, ho⟩ := (List.forall₂_zip hslots hz).outline
  have hproperty : (declaration, Slot.property slot) ∈ (l.declarations s).zip t.properties := by
    rw [hp]
    exact mem_zip_map.mpr ⟨slot, hz, rfl⟩
  exact ⟨_, ho.toPart, .property ht hproperty hf⟩

mutual

/-- The types inside an outline are those of schemas, if what the outline is inside of has a descriptor. -/
theorem Draws.hasType_of_mem (h : b.Draws l service) : ∀ (o : Outline)
    {outer part : Option (RefOr Schema)} {d : Descriptor}, l.HasDescriptor service outer d →
    (∀ inner, l.Innermost part inner → l.Innermost outer inner) → l.PartOutline part o →
    (∀ name, o.descriptor.names name = true → d.names name = true) → (∀ node ∈ o.nodes, node ∈ b.nodes) →
    ∀ node ∈ o.nodes, ∀ t, node.typeDef? = some t → ∃ s, l.HasType service s t
  | .leaf _, _, _, _, _, _, _, _, _, node, hm, _, _ => nomatch hm
  | .enum .., _, _, _, _, _, _, _, _, node, hm, t, ht => by
    rw [List.mem_singleton.mp hm] at ht
    cases ht
  | .array _ items, _, _, _, hd, hinner, hp, hn, hb, node, hm, t, ht => by
    -- The descriptor of an array names what is inside it, so only the part moves inward.
    obtain ⟨s, hs, hk, hi⟩ := hp.unfolds
    exact Draws.hasType_of_mem h items hd (fun inner hin => hinner inner (.items hs hk hin)) hi hn hb node hm
      t ht
  | .object name s rules slots, _, _, _, hd, hinner, hp, hn, hb, node, hm, t, ht => by
    obtain ⟨s', rfl, ho⟩ := hp.named rfl
    cases ho with
    | object _ hk hf hs =>
      obtain ⟨hinside, hself⟩ := List.forall_mem_append.mp hb
      have hflat : l.Innermost (some (.item s)) (some (.item s)) :=
        .here fun t ht => by cases ht; rw [hk]; nofun
      have htype : l.HasType service s ⟨name, s.description, slots.map Slot.property, s.objectRules⟩ := by
        refine .synthesized hd (hinner _ hflat) hk ?_ (hn name (Descriptor.names_local.mpr rfl))
        rw [h.synthesized_eq]
        exact List.mem_filterMap.mpr ⟨_, hself _ (List.mem_singleton_self _), rfl⟩
      rcases List.mem_append.mp hm with hm | hm
      · have hslots := Loaded.FieldsOutline.drawn (Loaded.fieldsOf_declared hf) hs
        exact Draws.hasType_of_mem_slots h slots (hasDescriptor_of_type htype hslots rfl) hinside node hm t ht
      · rw [List.mem_singleton.mp hm] at ht
        cases ht
        exact ⟨s, htype⟩

theorem Draws.hasType_of_mem_slots (h : b.Draws l service) : ∀ (slots : List (Label × Outline)),
    (∀ slot ∈ slots, ∃ part, l.PartOutline part slot.2 ∧ l.HasDescriptor service part (Slot.type slot)) →
    (∀ node ∈ Outline.nodesIn slots, node ∈ b.nodes) →
    ∀ node ∈ Outline.nodesIn slots, ∀ t, node.typeDef? = some t → ∃ s, l.HasType service s t
  | [], _, _, node, hm, _, _ => nomatch hm
  | (label, o) :: rest, hslots, hb, node, hm, t, ht => by
    obtain ⟨hfirst, hrest⟩ := List.forall_mem_cons.mp hslots
    obtain ⟨ho, hother⟩ := List.forall_mem_append.mp hb
    rcases List.mem_append.mp hm with hm | hm
    · obtain ⟨part, hp, hd⟩ := hfirst
      have hn : ∀ name, o.descriptor.names name = true → (Slot.type (label, o)).names name = true := by
        intro name hn
        rw [Slot.type, Descriptor.withRequired]
        split
        · exact hn
        · exact hn
      exact Draws.hasType_of_mem h o hd (fun _ hi => hi) hp hn ho node hm t ht
    · exact Draws.hasType_of_mem_slots h rest hrest hother node hm t ht

end

theorem Draws.hasType_of_definition (h : b.Draws l service) {t : ObjectOutline} (ht : t ∈ b.definitions) :
    l.HasType service t.source t.typeDef := by
  have hz : ((t.name, t.source), t.typeDef) ∈ l.document.objectDefinitions.zip service.types := by
    rw [h.zip_definitions]
    exact List.mem_map.mpr ⟨t, ht, rfl⟩
  exact .definition hz

theorem Draws.hasDescriptor_of_root (h : b.Draws l service) {m : MethodOutline} {r : Root × Outline}
    (hm : m ∈ b.methods) (hr : r ∈ m.roots) : l.HasDescriptor service r.1.part (Root.slot r).type := by
  have hmethod : ((m.operation, m.shared), m.method) ∈
      l.document.operations.zip (service.interfaces.flatMap (·.methods)) := by
    rw [h.zip_methods]
    exact List.mem_map.mpr ⟨m, hm, rfl⟩
  rcases List.mem_append.mp hr with hr | hr
  · have haligned := (h.methods m hm).parameters_aligned
    obtain ⟨node, hz⟩ := exists_mem_zip haligned.length_eq hr
    obtain ⟨p, hp, hroot⟩ := List.forall₂_zip haligned hz
    rw [hroot]
    exact .parameter hmethod (mem_zip_map.mpr ⟨r, hz, rfl⟩) hp
  · have hr := Option.mem_toList.mp hr
    obtain ⟨key, node, response, hselect, hresponse, hpart, _⟩ := (h.methods m hm).result_drawn hr
    rw [hpart]
    exact .result hmethod hselect hresponse (Option.map_eq_some_iff.mpr ⟨r, hr, rfl⟩)

theorem Draws.hasDescriptor_of_outer (h : b.Draws l service) : ∀ slot ∈ b.outer,
    ∃ part, l.PartOutline part slot.2 ∧ l.HasDescriptor service part (Slot.type slot) := by
  intro slot hs
  rw [outer_eq] at hs
  rcases List.mem_append.mp hs with hs | hs
  · obtain ⟨m, hm, hs⟩ := List.mem_flatMap.mp hs
    obtain ⟨r, hr, rfl⟩ := List.mem_map.mp hs
    exact ⟨r.1.part, (h.methods m hm).parts r hr, h.hasDescriptor_of_root hm hr⟩
  · obtain ⟨t, ht, hs⟩ := List.mem_flatMap.mp hs
    obtain ⟨fields, hf, ho⟩ := h.fields t ht
    have hslots := Loaded.FieldsOutline.drawn (Loaded.fieldsOf_declared hf) ho
    exact hasDescriptor_of_type (h.hasType_of_definition ht) hslots rfl slot hs

/-- Every type is that of a schema. -/
theorem Draws.exists_hasType (h : b.Draws l service) {t : TypeDef} (ht : t ∈ service.types) :
    ∃ s, l.HasType service s t := by
  rw [h.service_types] at ht
  rcases List.mem_append.mp ht with ht | ht
  · obtain ⟨d, hd, rfl⟩ := List.mem_map.mp ht
    exact ⟨d.source, h.hasType_of_definition hd⟩
  · obtain ⟨node, hnode, ht⟩ := List.mem_filterMap.mp ht
    exact h.hasType_of_mem_slots b.outer h.hasDescriptor_of_outer (fun _ hn => hn) node hnode t ht

end Blueprint

end SwaggerService
