import SwaggerService.Proofs.Provenance

/-! # Copies of a schema

Every walk over an object schema makes entries of its own for what is inside it, under names that depend on
where it starts and on the names in use. Nothing else depends on that: what two walks over one schema make
differs in those names alone. The schemas decide an outline but for its names, so two outlines of one schema
are compared, step by step, from the outside in. -/

namespace SwaggerService
open Service

/-- Types and enumerations that were synthesized. -/
structure Made where
  types : List TypeDef
  enums : List EnumDef

/-- What one state has more than another. -/
structure Run.Makes (before after : Run) (made : Made) : Prop where
  types : after.registry.types = before.registry.types ++ made.types
  enums : after.registry.enums = before.registry.enums ++ made.enums

/-- What was made for a service. -/
def Loaded.made (l : Loaded) (service : Service) : Made := ⟨l.synthesized service, service.enums⟩

/-- Whether a descriptor is that of an entry. -/
def Service.Descriptor.isEntry (d : Descriptor) : Bool := d.isLocal && !d.isUnknown

/-- Two descriptors differ at most in the name. -/
structure Service.Descriptor.Alike (d d' : Descriptor) : Prop where
  rules : d'.rules = d.rules
  isArray : d'.isArray = d.isArray
  isLocal : d'.isLocal = d.isLocal
  isUnknown : d'.isUnknown = d.isUnknown

namespace Loaded

mutual

/-- Two descriptors of one part are mirror images: they have the same name where they are of no entry or
refer to the definition of an object, and otherwise they name mirror images that were made for each of
them. The part is what is inside all of the arrays. -/
inductive Mirrors (l : Loaded) (made made' : Made) : Option (RefOr Schema) → Descriptor → Descriptor → Prop
  | fixed {inner : Option (RefOr Schema)} {d d' : Descriptor} :
      d.Alike d' → d.isEntry = false → d'.typeName = d.typeName → Mirrors l made made' inner d d'
  | reference {target name : String} {s : Schema} {d d' : Descriptor} :
      d.Alike d' → d.isEntry = true → Pointer.parse? target = some (.definition name) →
      l.schemaAt target = .ok s → s.kind = .object → d.typeName = name → d'.typeName = name →
      Mirrors l made made' (some (.ref target)) d d'
  | enum {s : Schema} {e e' : EnumDef} {d d' : Descriptor} :
      d.Alike d' → d.isEntry = true → e ∈ made.enums → e' ∈ made'.enums → d.typeName = e.name →
      d'.typeName = e'.name → e'.values = e.values → Mirrors l made made' (some (.item s)) d d'
  | type {s : Schema} {t t' : TypeDef} {d d' : Descriptor} :
      d.Alike d' → d.isEntry = true → t ∈ made.types → t' ∈ made'.types → d.typeName = t.name →
      d'.typeName = t'.name → t'.description = t.description → t'.rules = t.rules →
      MirrorsAll l made made' (l.declarations s) t.properties t'.properties →
      Mirrors l made made' (some (.item s)) d d'

/-- Two lists of properties of one object are mirror images, at each place. -/
inductive MirrorsAll (l : Loaded) (made made' : Made) :
    List (String × RefOr Schema) → List Property → List Property → Prop
  | nil : MirrorsAll l made made' [] [] []
  | cons {declaration : String × RefOr Schema} {s : Schema} {inner : Option (RefOr Schema)}
      {p p' : Property} {declarations : List (String × RefOr Schema)} {ps ps' : List Property} :
      l.schema declaration.2 = .ok s → l.Innermost (some (.item s)) inner → p.name = declaration.1 →
      p'.name = declaration.1 → p.description = s.description → p'.description = s.description →
      Mirrors l made made' inner p.type p'.type → MirrorsAll l made made' declarations ps ps' →
      MirrorsAll l made made' (declaration :: declarations) (p :: ps) (p' :: ps')

end

variable {l : Loaded} {made made' : Made}

theorem Mirrors.alike {inner : Option (RefOr Schema)} {d d' : Descriptor}
    (h : l.Mirrors made made' inner d d') : d.Alike d' := by
  cases h <;> assumption

/-- Only the entry that a descriptor is of matters. -/
theorem Mirrors.congr {inner : Option (RefOr Schema)} {d d' e e' : Descriptor}
    (h : l.Mirrors made made' inner d d') (hd : e.typeName = d.typeName ∧ e.isLocal = d.isLocal ∧
      e.isUnknown = d.isUnknown) (hd' : e'.typeName = d'.typeName ∧ e'.isLocal = d'.isLocal ∧
      e'.isUnknown = d'.isUnknown) (hrules : e'.rules = e.rules) (harray : e'.isArray = e.isArray) :
    l.Mirrors made made' inner e e' := by
  have hdd := h.alike
  obtain ⟨hname, hlocal, hunknown⟩ := hd
  obtain ⟨hname', hlocal', hunknown'⟩ := hd'
  have halike : e.Alike e' :=
    ⟨hrules, harray, by rw [hlocal', hlocal, hdd.isLocal], by rw [hunknown', hunknown, hdd.isUnknown]⟩
  have hentry : e.isEntry = d.isEntry := by rw [Descriptor.isEntry, hlocal, hunknown]; rfl
  cases h with
  | fixed _ he hn => exact .fixed halike (hentry.trans he) (by rw [hname', hname, hn])
  | reference _ he hp hs hk hn hn' =>
    exact .reference halike (hentry.trans he) hp hs hk (hname.trans hn) (hname'.trans hn')
  | enum _ he hm hm' hn hn' hv =>
    exact .enum halike (hentry.trans he) hm hm' (hname.trans hn) (hname'.trans hn') hv
  | type _ he hm hm' hn hn' hdesc hr hp =>
    exact .type halike (hentry.trans he) hm hm' (hname.trans hn) (hname'.trans hn') hdesc hr hp

theorem Mirrors.withRequired {inner : Option (RefOr Schema)} {d d' : Descriptor}
    (h : l.Mirrors made made' inner d d') (required : Bool) :
    l.Mirrors made made' inner (d.withRequired required) (d'.withRequired required) := by
  have hdd := h.alike
  cases required with
  | false => exact h
  | true => exact h.congr ⟨rfl, rfl, rfl⟩ ⟨rfl, rfl, rfl⟩ (congrArg (Rule.required :: ·) hdd.rules) hdd.isArray

/-! ## Outlines of one part -/

theorem bare_isEntry (kind : Kind) (rules : List Rule) :
    (Descriptor.bare kind rules).isEntry = false := by
  cases kind <;> rfl

theorem Innermost.of_outline {part : Option (RefOr Schema)} {o : Outline} (h : l.PartOutline part o)
    (ho : ∀ rules items, o ≠ .array rules items) : l.Innermost part part := by
  refine .here fun s hs hk => ?_
  obtain ⟨rules, items, rfl, _⟩ := (h.unfolded hs).of_array hk
  exact ho rules items rfl

theorem SchemaOutline.of_enum {s : Schema} {values : List String} {o : Outline} (h : l.SchemaOutline s o)
    (hk : s.kind = .string) (hv : s.enumStrings = some values) (hne : values ≠ []) :
    ∃ name rules, o = .enum name s values rules ∧ l.ruleSet s = .ok rules := by
  cases h with
  | enum hr _ hv' =>
    rw [hv] at hv'
    cases hv'
    exact ⟨_, _, rfl, hr⟩
  | array _ harray => rw [hk] at harray; cases harray
  | object _ hobject => rw [hk] at hobject; cases hobject
  | bare _ _ _ hnone => exact absurd (by simpa [hv] using hnone hk) hne

theorem SchemaOutline.of_bare {s : Schema} {o : Outline} (h : l.SchemaOutline s o) (ho : s.kind ≠ .object)
    (ha : s.kind ≠ .array) (hnone : s.kind = .string → s.enumStrings.getD [] = []) :
    ∃ rules, o = .leaf (.bare s.kind rules) ∧ l.ruleSet s = .ok rules := by
  cases h with
  | bare hr => exact ⟨_, rfl, hr⟩
  | enum _ hk hv hne => exact absurd (by simpa [hv] using hnone hk) hne
  | array _ hk => exact absurd hk ha
  | object _ hk => exact absurd hk ho

theorem SchemaOutline.eq_leaf {s : Schema} {d : Descriptor} {o : Outline}
    (h : l.SchemaOutline s (.leaf d)) (h' : l.SchemaOutline s o) : o = .leaf d := by
  cases h with
  | bare hr ho ha hnone =>
    obtain ⟨rules, rfl, hr'⟩ := h'.of_bare ho ha hnone
    rw [hr] at hr'
    cases hr'
    rfl

theorem DefinitionOutline.eq_leaf {name : String} {s : Schema} {rules : List Rule} {d : Descriptor}
    {o : Outline} (h : l.DefinitionOutline name s rules (.leaf d))
    (h' : l.DefinitionOutline name s rules o) : o = .leaf d := by
  cases h with
  | object hk =>
    cases h' with
    | object => rfl
    | array harray => rw [hk] at harray; cases harray
    | bare ho => exact absurd hk ho
  | bare ho ha =>
    cases h' with
    | object hk => exact absurd hk ho
    | array hk => exact absurd hk ha
    | bare => rfl

theorem NodeOutline.eq_leaf {node : RefOr Schema} {d : Descriptor} {o : Outline}
    (h : l.NodeOutline node (.leaf d)) (h' : l.NodeOutline node o) : o = .leaf d := by
  cases h with
  | item h => cases h' with | item h' => exact h.eq_leaf h'
  | other hp hn hs hr =>
    cases h' with
    | definition hp' =>
      rw [hp] at hp'
      exact absurd (Option.some.inj hp') (hn _)
    | other _ _ hs' hr' =>
      rw [hs] at hs'
      cases hs'
      rw [hr] at hr'
      cases hr'
      rfl
  | definition hp hs hr h =>
    cases h' with
    | other hp' hn =>
      rw [hp] at hp'
      exact absurd (Option.some.inj hp').symm (hn _)
    | definition hp' hs' hr' h' =>
      rw [hp] at hp'
      cases hp'
      rw [hs] at hs'
      cases hs'
      rw [hr] at hr'
      cases hr'
      exact h.eq_leaf h'

/-- A part whose outline is a leaf has no other outline. -/
theorem PartOutline.eq_leaf {part : Option (RefOr Schema)} {d : Descriptor} {o : Outline}
    (h : l.PartOutline part (.leaf d)) (h' : l.PartOutline part o) : o = .leaf d := by
  cases h with
  | missing => cases h' with | missing => rfl
  | part h => cases h' with | part h' => exact h.eq_leaf h'

/-- Of the leaves only a reference to the definition of an object is an entry. -/
theorem PartOutline.leaf_isEntry {part : Option (RefOr Schema)} {d : Descriptor}
    (h : l.PartOutline part (.leaf d)) : d.isEntry = false ∨
      d.isEntry = true ∧ ∃ target name s, part = some (.ref target) ∧
        Pointer.parse? target = some (.definition name) ∧ l.schemaAt target = .ok s ∧ s.kind = .object ∧
        d.typeName = name := by
  cases h with
  | missing => exact .inl rfl
  | part h =>
    cases h with
    | item h => cases h with | bare => exact .inl (bare_isEntry _ _)
    | other => exact .inl rfl
    | definition hp hs _ h =>
      cases h with
      | bare => exact .inl (bare_isEntry _ _)
      | object hk => exact .inr ⟨rfl, _, _, _, rfl, hp, hs, hk, rfl⟩

/-- Two outlines of an array differ in the outlines of the items. -/
theorem PartOutline.eq_array {part : Option (RefOr Schema)} {rules : List Rule} {items o : Outline}
    (h : l.PartOutline part (.array rules items)) (h' : l.PartOutline part o) :
    ∃ s items', part.bind l.unfolded? = some s ∧ s.kind = .array ∧ o = .array rules items' ∧
      l.PartOutline s.items items ∧ l.PartOutline s.items items' := by
  obtain ⟨s, hs, hk, hi⟩ := h.unfolds
  obtain ⟨rules₁, items₁, heq, hr, _⟩ := (h.unfolded hs).of_array hk
  obtain ⟨rules₂, items₂, rfl, hr', hi'⟩ := (h'.unfolded hs).of_array hk
  cases heq
  rw [hr] at hr'
  cases hr'
  exact ⟨s, items₂, hs, hk, rfl, hi, hi'⟩

theorem PartOutline.of_item {s : Schema} {o : Outline} (h : l.PartOutline (some (.item s)) o) :
    l.SchemaOutline s o := h.unfolded rfl

end Loaded

/-- What is read off outlines as entries. -/
def Made.of (nodes : List Outline) : Made := ⟨nodes.filterMap Outline.typeDef?, nodes.filterMap Outline.enumDef?⟩

theorem Service.Descriptor.Alike.refl (d : Descriptor) : d.Alike d := ⟨rfl, rfl, rfl, rfl⟩

namespace Loaded

variable {l : Loaded} {nodes nodes' : List Outline}

mutual

/-- Two outlines of one part have descriptors that are mirror images. -/
theorem PartOutline.mirrors : ∀ (o : Outline) {o' : Outline} {part : Option (RefOr Schema)},
    l.PartOutline part o → l.PartOutline part o' → (∀ node ∈ o.nodes, node ∈ nodes) →
    (∀ node ∈ o'.nodes, node ∈ nodes') → ∃ inner, l.Innermost part inner ∧
      l.Mirrors (.of nodes) (.of nodes') inner o.descriptor o'.descriptor
  | .leaf d, o', part, h, h', _, _ => by
    -- The induction is on the first outline; the schema then fixes the second one but for its names.
    have hsame := h.eq_leaf h'
    subst hsame
    refine ⟨part, .of_outline h nofun, ?_⟩
    rcases h.leaf_isEntry with hd | ⟨hd, target, name, s, rfl, hp, hs, hk, hname⟩
    · exact .fixed (.refl d) hd rfl
    · exact .reference (.refl d) hd hp hs hk hname hname
  | .enum name s values rules, o', part, h, h', hm, hm' => by
    obtain ⟨s', rfl, ho⟩ := h.named rfl
    cases ho with
    | enum hr hk hv hne =>
      obtain ⟨name', rules', rfl, hr'⟩ := h'.of_item.of_enum hk hv hne
      rw [hr] at hr'
      cases hr'
      have he : ⟨name, values⟩ ∈ (Made.of nodes).enums :=
        List.mem_filterMap.mpr ⟨_, hm _ (List.mem_singleton_self _), rfl⟩
      have he' : ⟨name', values⟩ ∈ (Made.of nodes').enums :=
        List.mem_filterMap.mpr ⟨_, hm' _ (List.mem_singleton_self _), rfl⟩
      exact ⟨_, .of_outline h nofun, .enum ⟨rfl, rfl, rfl, rfl⟩ rfl he he' rfl rfl rfl⟩
  | .array rules items, o', part, h, h', hm, hm' => by
    obtain ⟨s, items', hs, hk, rfl, hi, hi'⟩ := h.eq_array h'
    obtain ⟨inner, hinner, hmirror⟩ := PartOutline.mirrors items hi hi' hm hm'
    exact ⟨inner, .items hs hk hinner, hmirror.congr ⟨rfl, rfl, rfl⟩ ⟨rfl, rfl, rfl⟩ rfl rfl⟩
  | .object name s rules slots, o', part, h, h', hm, hm' => by
    obtain ⟨s', rfl, ho⟩ := h.named rfl
    cases ho with
    | object hr hk hf hs =>
      obtain ⟨name', rules', fields', slots', rfl, hr', hf', hs'⟩ := h'.of_item.of_object hk
      rw [hr] at hr'
      cases hr'
      obtain ⟨hinside, hself⟩ := List.forall_mem_append.mp hm
      obtain ⟨hinside', hself'⟩ := List.forall_mem_append.mp hm'
      have ht : ⟨name, s.description, slots.map Slot.property, s.objectRules⟩ ∈ (Made.of nodes).types :=
        List.mem_filterMap.mpr ⟨_, hself _ (List.mem_singleton_self _), rfl⟩
      have ht' : ⟨name', s.description, slots'.map Slot.property, s.objectRules⟩ ∈ (Made.of nodes').types :=
        List.mem_filterMap.mpr ⟨_, hself' _ (List.mem_singleton_self _), rfl⟩
      refine ⟨_, .of_outline h nofun, .type ⟨rfl, rfl, rfl, rfl⟩ rfl ht ht' rfl rfl rfl rfl ?_⟩
      exact mirrorsAll_of_drawn slots (FieldsOutline.drawn (fieldsOf_declared hf) hs)
        (FieldsOutline.drawn (fieldsOf_declared hf') hs') hinside hinside'

/-- Two lists of slots for the same declarations are lists of properties that are mirror images. -/
theorem mirrorsAll_of_drawn {required : List String} : ∀ (slots : List (Label × Outline))
    {slots' : List Slot} {declarations : List (String × RefOr Schema)},
    List.Forall₂ (l.Draws required) declarations slots →
    List.Forall₂ (l.Draws required) declarations slots' → (∀ node ∈ Outline.nodesIn slots, node ∈ nodes) →
    (∀ node ∈ Outline.nodesIn slots', node ∈ nodes') →
    l.MirrorsAll (.of nodes) (.of nodes') declarations (slots.map Slot.property) (slots'.map Slot.property)
  | [], _, _, .nil, .nil, _, _ => .nil
  | (label, o) :: rest, _, declaration :: declarations, .cons hd hds, .cons (b := (label', o')) hd' hds', hm,
      hm' => by
    obtain ⟨s, hs, hdesc, ho⟩ := hd.outline
    obtain ⟨s', hs', hdesc', ho'⟩ := hd'.outline
    rw [hs] at hs'
    cases hs'
    obtain ⟨hfirst, hrest⟩ := List.forall_mem_append.mp hm
    obtain ⟨hfirst', hrest'⟩ := List.forall_mem_append.mp hm'
    obtain ⟨inner, hinner, hmirror⟩ := PartOutline.mirrors o ho.toPart ho'.toPart hfirst hfirst'
    have hrequired : label'.required = label.required := hd'.required.trans hd.required.symm
    refine .cons hs hinner hd.name hd'.name hdesc hdesc' ?_ (mirrorsAll_of_drawn rest hds hds' hrest hrest')
    change l.Mirrors _ _ inner (o.descriptor.withRequired label.required)
      (o'.descriptor.withRequired label'.required)
    rw [hrequired]
    exact hmirror.withRequired label.required

end

end Loaded

/-! ## Runs -/

theorem DrawnIn.makes {slots : List Slot} {parentName : String} {run out : Run}
    (h : DrawnIn slots parentName run out) : run.Makes out (.of (Outline.nodesIn slots)) := by
  constructor
  · rw [h.registry]
    rfl
  · rw [h.registry]
    rfl

/-- Two walks over one object schema have properties that are mirror images. -/
theorem Loaded.properties_mirror {l : Loaded} {s : Schema} {parentName parentName' : String}
    {run run' out out' : Run} {ps ps' : List Property}
    (h : Walk.Returns (l.properties s parentName) run ps out)
    (h' : Walk.Returns (l.properties s parentName') run' ps' out') :
    ∃ made made', run.Makes out made ∧ run'.Makes out' made' ∧
      l.MirrorsAll made made' (l.declarations s) ps ps' := by
  obtain ⟨fields, slots, hf, hs, rfl, hd⟩ := properties_draws h
  obtain ⟨fields', slots', hf', hs', rfl, hd'⟩ := properties_draws h'
  refine ⟨_, _, hd.makes, hd'.makes, ?_⟩
  exact mirrorsAll_of_drawn slots (FieldsOutline.drawn (fieldsOf_declared hf) hs)
    (FieldsOutline.drawn (fieldsOf_declared hf') hs') (fun _ hn => hn) fun _ hn => hn

/-! ## Services -/

namespace Outline

mutual

theorem nodes_of_mem : ∀ (o : Outline) {node inner : Outline}, node ∈ o.nodes → inner ∈ node.nodes →
    inner ∈ o.nodes
  | .leaf _, _, _, hn, _ => nomatch hn
  | .enum .., _, _, hn, hi => List.mem_singleton.mp hn ▸ hi
  | .array _ items, _, _, hn, hi => nodes_of_mem items hn hi
  | .object name s rules slots, _, _, hn, hi => by
    rcases List.mem_append.mp hn with hn | hn
    · exact List.mem_append_left _ (nodesIn_of_mem slots hn hi)
    · rw [List.mem_singleton.mp hn] at hi
      exact hi

theorem nodesIn_of_mem : ∀ (slots : List (Label × Outline)) {node inner : Outline},
    node ∈ nodesIn slots → inner ∈ node.nodes → inner ∈ nodesIn slots
  | [], _, _, hn, _ => nomatch hn
  | (_, o) :: rest, _, _, hn, hi => by
    rcases List.mem_append.mp hn with hn | hn
    · exact List.mem_append_left _ (nodes_of_mem o hn hi)
    · exact List.mem_append_right _ (nodesIn_of_mem rest hn hi)

end

end Outline

namespace Blueprint

variable {b : Blueprint} {l : Loaded} {service : Service}

theorem nodes_of_slot {slot : Slot} (hs : slot ∈ b.slots) : ∀ node ∈ slot.2.nodes, node ∈ b.nodes := by
  intro inner hi
  rcases List.mem_append.mp hs with hs | hs
  · exact Outline.mem_nodesIn.mpr ⟨slot, hs, hi⟩
  · obtain ⟨node, hn, hs⟩ := List.mem_flatMap.mp hs
    cases node with
    | leaf | enum | array => cases hs
    | object name s rules slots =>
      have hinside : inner ∈ (Outline.object name s rules slots).nodes :=
        List.mem_append_left _ (Outline.mem_nodesIn.mpr ⟨slot, hs, hi⟩)
      exact Outline.nodesIn_of_mem b.outer hn hinside

theorem Draws.made_eq (h : b.Draws l service) : l.made service = .of b.nodes := by
  rw [Loaded.made, h.synthesized_eq, h.service_enums, Made.of]

/-- Two types of one schema are mirror images. -/
theorem Draws.types_mirror (h : b.Draws l service) {s : Schema} {t t' : TypeDef} (ht : b.Extracts l s t)
    (ht' : b.Extracts l s t') : t'.description = t.description ∧ t'.rules = t.rules ∧
      l.MirrorsAll (l.made service) (l.made service) (l.declarations s) t.properties t'.properties := by
  obtain ⟨hdesc, hrules, slots, hslots, hmem, hp⟩ := ht
  obtain ⟨hdesc', hrules', slots', hslots', hmem', hp'⟩ := ht'
  refine ⟨hdesc'.trans hdesc.symm, hrules'.trans hrules.symm, ?_⟩
  have hnodes : ∀ {slots : List Slot}, (∀ slot ∈ slots, slot ∈ b.slots) →
      ∀ node ∈ Outline.nodesIn slots, node ∈ b.nodes := by
    intro slots hmem node hn
    obtain ⟨slot, hs, hn⟩ := Outline.mem_nodesIn.mp hn
    exact nodes_of_slot (hmem slot hs) node hn
  rw [h.made_eq, hp, hp']
  exact Loaded.mirrorsAll_of_drawn slots hslots hslots' (hnodes hmem) (hnodes hmem')

end Blueprint

/-- A property that is declared as a reference to the definition of an object has a synthesized type, which
is a mirror image of the type of the definition. -/
def Loaded.HasCopy (l : Loaded) (service : Service) (declaration : String × RefOr Schema) (p : Property) :
    Prop :=
  ∀ target name s, declaration.2 = .ref target → Pointer.parse? target = some (.definition name) →
    Entries.get? name l.document.definitions = some s → s.kind = .object →
    ∃ own copy, ((name, s), own) ∈ l.document.objectDefinitions.zip service.types ∧
      copy ∈ l.synthesized service ∧ p.type.names copy.name = true ∧
      copy.description = own.description ∧ copy.rules = own.rules ∧
      l.MirrorsAll (l.made service) (l.made service) (l.declarations s) own.properties copy.properties

theorem Blueprint.Draws.hasCopy {b : Blueprint} {l : Loaded} {service : Service} (h : b.Draws l service)
    {s : Schema} {t : TypeDef} (ht : b.Extracts l s t) :
    List.Forall₂ (l.HasCopy service) (l.declarations s) t.properties := by
  obtain ⟨slots, hslots, hmem, hp⟩ := ht.properties
  rw [hp, List.forall₂_map_right_iff]
  refine (forall₂_mem hslots).imp ?_
  rintro declaration slot ⟨hslot, hdrawn⟩ target name X href hparse hget hk
  obtain ⟨f, hf, _, ho⟩ := hdrawn.outline
  have hX : f = X := by
    rw [href, Loaded.schema, Loaded.schemaAt_definition hparse, Loaded.entry, hget] at hf
    exact (Except.ok.inj hf).symm
  subst hX
  obtain ⟨copyName, rules, fields, inner, he, _⟩ := ho.of_object hk
  have helement : slot.2.element = .object copyName f rules inner := by rw [he]; rfl
  have hnode : .object copyName f rules inner ∈ b.nodes :=
    helement ▸ element_mem_nodes (hmem slot hslot) (by rw [helement]; rfl)
  have hdefinition : (name, f) ∈ l.document.objectDefinitions :=
    List.mem_filter.mpr ⟨Entries.mem_of_get? hget, beq_iff_eq.mpr hk⟩
  rw [← h.definitions] at hdefinition
  obtain ⟨d, hd, hpair⟩ := List.mem_map.mp hdefinition
  cases hpair
  obtain ⟨hdesc, hrules, hmirror⟩ := h.types_mirror (h.extracts_definition hd) (h.extracts_node hnode)
  refine ⟨d.typeDef, _, ?_, ?_, ?_, hdesc, hrules, hmirror⟩
  · rw [h.zip_definitions]
    exact List.mem_map.mpr ⟨d, hd, rfl⟩
  · rw [h.synthesized_eq]
    exact List.mem_filterMap.mpr ⟨_, hnode, rfl⟩
  · change (Slot.type slot).names copyName = true
    rw [Slot.names_element, helement]
    exact Descriptor.names_local.mpr rfl

/-- What is synthesized for a schema is the same up to names: in any two walks over the schema, whatever the
parents, the names in use and the levels that are left, and in the types of one service. -/
theorem copies_mirror (l : Loaded) :
    (∀ (s : Schema) (parentName parentName' : String) (run run' out out' : Run) (ps ps' : List Property),
      Walk.Returns (l.properties s parentName) run ps out →
      Walk.Returns (l.properties s parentName') run' ps' out' →
      ∃ made made', run.Makes out made ∧ run'.Makes out' made' ∧
        l.MirrorsAll made made' (l.declarations s) ps ps') ∧
    ∀ (maxDepth : Nat) (service : Service), l.describe maxDepth = .ok service →
      (∀ t ∈ service.types, ∃ s, l.HasType service s t) ∧
      ∀ s t, l.HasType service s t →
        List.Forall₂ (l.HasCopy service) (l.declarations s) t.properties := by
  constructor
  · intro s parentName parentName' run run' out out' ps ps' h h'
    exact Loaded.properties_mirror h h'
  · intro maxDepth service h
    obtain ⟨b, hb⟩ := l.exists_blueprint h
    exact ⟨fun t ht => hb.exists_hasType ht, fun s t ht => hb.hasCopy (hb.extracts ht)⟩

/-- A document with a definition that is copied, and whose copy has an enumeration, an object and an array
of references inside it. -/
def Json.fleet : Json :=
  let ref (target : String) : Json := .object [("$ref", .string target)]
  let text (values : List String) : Json :=
    .object [("type", .string "string"), ("enum", .list (values.map .string))]
  let object (properties : List (String × Json)) : Json :=
    .object [("type", .string "object"), ("properties", .object properties)]
  let array (items : Json) : Json := .object [("type", .string "array"), ("items", items)]
  .object [
    ("info", .object [("title", .string "fleet"), ("version", .string "1.0.0")]),
    ("definitions", .object [
      ("Fleet", object [("lead", ref "#/definitions/Ship"), ("ships", array (ref "#/definitions/Ship"))]),
      ("Ship", object [("state", text ["docked", "away"]), ("port", object [("name", .object [])]),
        ("convoy", array (ref "#/definitions/Ship"))])])]

/-- The names of the types of the properties of a schema, as a walk gives them. -/
def Loaded.typeNames (l : Loaded) (name parentName : String) (run : Run) : Option (List String) :=
  (Entries.get? name l.document.definitions).bind fun s =>
    match (l.properties s parentName run).1 with
    | .ok ps => some (ps.map (·.type.typeName))
    | .error _ => none

theorem Loaded.exists_typeNames {l : Loaded} {name parentName : String} {run : Run} {names : List String}
    (h : l.typeNames name parentName run = some names) :
    ∃ s ps out, Entries.get? name l.document.definitions = some s ∧
      Walk.Returns (l.properties s parentName) run ps out ∧ ps.map (·.type.typeName) = names := by
  obtain ⟨s, hs, h⟩ := Option.bind_eq_some_iff.mp h
  rcases hrun : l.properties s parentName run with ⟨fault | ps, out⟩
  · rw [hrun] at h
    cases h
  · rw [hrun] at h
    exact ⟨s, ps, out, hs, hrun, Option.some.inj h⟩

theorem fleet_copies_mirror : ∃ l service s ps ps', ∃ run run' out out' : Run,
    Loaded.ofJson Json.fleet = .ok l ∧ l.describe defaultMaxDepth = .ok service ∧
    service.types.map TypeDef.name = ["Fleet", "Ship", "fleetLeadPort", "fleetLead", "shipPort"] ∧
    Walk.Returns (l.properties s "left") run ps out ∧ Walk.Returns (l.properties s "right") run' ps' out' ∧
    ps.map (·.type.typeName) = ["leftState", "leftPort", "Ship"] ∧
    ps'.map (·.type.typeName) = ["rightState", "rightPort2", "Ship"] ∧
    (∃ made made', run.Makes out made ∧ run'.Makes out' made' ∧
      l.MirrorsAll made made' (l.declarations s) ps ps') ∧
    (∀ t ∈ service.types, ∃ s, l.HasType service s t) ∧
    ∀ s t, l.HasType service s t →
      List.Forall₂ (l.HasCopy service) (l.declarations s) t.properties := by
  let run : Run := { registry := { maxDepth := 8 } }
  let run' : Run := { registry := { maxDepth := 64, depth := 3, names := ["rightPort"] } }
  obtain ⟨l, service, hl, h, hview⟩ := Loaded.exists_described Json.fleet defaultMaxDepth
    (fun l service => (service.types.map TypeDef.name, l.typeNames "Ship" "left" run,
      l.typeNames "Ship" "right" run'))
    (["Fleet", "Ship", "fleetLeadPort", "fleetLead", "shipPort"],
      some ["leftState", "leftPort", "Ship"], some ["rightState", "rightPort2", "Ship"]) (by decide +kernel)
  obtain ⟨htypes, hview⟩ := Prod.mk.inj hview
  obtain ⟨hleft, hright⟩ := Prod.mk.inj hview
  obtain ⟨s, ps, out, hs, hreturns, hnames⟩ := Loaded.exists_typeNames hleft
  obtain ⟨s', ps', out', hs', hreturns', hnames'⟩ := Loaded.exists_typeNames hright
  rw [hs] at hs'
  cases hs'
  exact ⟨l, service, s, ps, ps', run, run', out, out', hl, h, htypes, hreturns, hreturns', hnames, hnames',
    (copies_mirror l).1 s "left" "right" run run' out out' ps ps' hreturns hreturns',
    (copies_mirror l).2 defaultMaxDepth service h⟩

end SwaggerService
