import SwaggerService.Proofs.Provenance

/-! # What is required

The rule `required` is never one of a schema. It stands in front of the rules of a descriptor when the
parameter or the object around the schema asks for it, and nowhere else; so it does not come along when a
schema is shared, is that of items or is a member of a composed object. -/

namespace SwaggerService
open Service

/-! ## Rules of schemas -/

theorem Schema.required_notMem_localRules (s : Schema) : Rule.required ∉ s.localRules := by
  intro h
  unfold localRules at h
  split at h
  · simp [stringRules] at h
  · -- Which rule a bound becomes depends on a mark beside it.
    unfold numberRules at h
    dsimp only at h
    split at h <;> split at h <;> simp at h
  · simp [arrayRules] at h
  · cases h

namespace Loaded

variable {l : Loaded}

theorem ruleSet_required {s : Schema} {rules : List Rule} (h : l.ruleSet s = .ok rules) :
    Rule.required ∉ rules := by
  unfold ruleSet at h
  split at h
  · cases h
    exact s.required_notMem_localRules
  · obtain ⟨item, _, h⟩ := bind_ok h
    cases h
    intro hmem
    rcases List.mem_append.mp hmem with hmem | hmem
    · exact s.required_notMem_localRules hmem
    · exact item.required_notMem_localRules hmem

theorem bare_rules (kind : Kind) (rules : List Rule) : (Descriptor.bare kind rules).rules = rules := by
  cases kind <;> rfl

theorem SchemaOutline.rules {s : Schema} {o : Outline} (h : l.SchemaOutline s o) :
    l.ruleSet s = .ok o.descriptor.rules := by
  cases h with
  | enum hr | array hr | object hr => exact hr
  | bare hr => rw [Outline.descriptor, bare_rules]; exact hr

/-- The rules of a part are those of the schema that it resolves to. -/
theorem NodeOutline.rules {node : RefOr Schema} {o : Outline} (h : l.NodeOutline node o) :
    ∃ s, l.schema node = .ok s ∧ l.ruleSet s = .ok o.descriptor.rules := by
  cases h with
  | item h => exact ⟨_, rfl, h.rules⟩
  | other _ _ hs hr => exact ⟨_, hs, hr⟩
  | definition _ hs hr h =>
    refine ⟨_, hs, ?_⟩
    cases h with
    | object | array => exact hr
    | bare => rw [Outline.descriptor, bare_rules]; exact hr

/-- The rules of a part are those of one schema; a part that is missing has none. -/
theorem PartOutline.rules {part : Option (RefOr Schema)} {o : Outline} (h : l.PartOutline part o) :
    o.descriptor.rules = [] ∨ ∃ s, l.ruleSet s = .ok o.descriptor.rules := by
  cases h with
  | missing => exact .inl rfl
  | part h =>
    obtain ⟨s, _, hr⟩ := h.rules
    exact .inr ⟨s, hr⟩

theorem PartOutline.required_notMem {part : Option (RefOr Schema)} {o : Outline}
    (h : l.PartOutline part o) : Rule.required ∉ o.descriptor.rules := by
  rcases h.rules with hnone | ⟨s, hs⟩
  · rw [hnone]
    exact List.not_mem_nil
  · exact ruleSet_required hs

end Loaded

/-! ## Rules of descriptors -/

namespace Slot

variable {slot : Slot}

theorem required_mem_rules (h : Rule.required ∉ slot.2.descriptor.rules) :
    Rule.required ∈ (Slot.type slot).rules ↔ slot.1.required = true := by
  rw [Slot.type, Descriptor.withRequired]
  split
  · next hr => simp [hr]
  · next hr => simp [hr, h]

theorem required_notMem_tail (h : Rule.required ∉ slot.2.descriptor.rules) :
    Rule.required ∉ (Slot.type slot).rules.tail := by
  rw [Slot.type, Descriptor.withRequired]
  split
  · exact h
  · exact fun hmem => h (List.mem_of_mem_tail hmem)

end Slot

/-! ## Services -/

/-- A parameter is required if the document says so of the parameter itself. -/
def Loaded.ParameterRequired (l : Loaded) (node : RefOr Parameter) (parameter : Service.Parameter) : Prop :=
  ∃ p, l.parameter node = .ok p ∧ (Rule.required ∈ parameter.type.rules ↔ p.required = true)

/-- A property is required if the object says so that the properties are those of. -/
def Schema.PropertyRequired (s : Schema) (declaration : String × RefOr Schema) (p : Property) : Prop :=
  p.name = declaration.1 ∧ (Rule.required ∈ p.type.rules ↔ declaration.1 ∈ s.required)

/-- Where the rule `required` stands in a service. -/
structure Loaded.RequiredInPlace (l : Loaded) (service : Service) : Prop where
  first : ∀ d ∈ service.descriptors, Rule.required ∉ d.rules.tail
  parameters : List.Forall₂ (fun operation method =>
      List.Forall₂ l.ParameterRequired (operation.1.parameters ++ operation.2) method.parameters)
    l.document.operations (service.interfaces.flatMap (·.methods))
  results : ∀ i ∈ service.interfaces, ∀ m ∈ i.methods, ∀ d ∈ m.returnType, Rule.required ∉ d.rules
  properties : ∀ s t, l.HasType service s t →
    List.Forall₂ s.PropertyRequired (l.declarations s) t.properties
  types : ∀ t ∈ service.types, ∃ s, l.HasType service s t

theorem MethodOutline.Draws.parameters_required {l : Loaded} {m : MethodOutline} (h : m.Draws l) :
    List.Forall₂ l.ParameterRequired (m.operation.parameters ++ m.shared) m.method.parameters := by
  rw [method, List.forall₂_map_right_iff]
  refine (forall₂_mem h.parameters_aligned).imp ?_
  rintro node r ⟨hr, p, hnode, hroot⟩
  have hp := h.parts r (List.mem_append_left _ hr)
  refine ⟨p, hnode, (Slot.required_mem_rules hp.required_notMem).trans ?_⟩
  rw [Root.slot, hroot]
  rfl

theorem MethodOutline.Draws.result_required {l : Loaded} {m : MethodOutline} (h : m.Draws l) :
    ∀ d ∈ m.method.returnType, Rule.required ∉ d.rules := by
  intro d hd
  obtain ⟨r, hr, rfl⟩ := Option.map_eq_some_iff.mp hd
  obtain ⟨_, _, _, _, _, _, hlabel⟩ := h.result_drawn hr
  have hp := h.parts r (List.mem_append_right _ (Option.mem_toList.mpr hr))
  rw [Slot.required_mem_rules hp.required_notMem, Root.slot, hlabel]
  exact Bool.false_ne_true

theorem Blueprint.Extracts.properties_required {b : Blueprint} {l : Loaded} {s : Schema} {t : TypeDef}
    (h : b.Extracts l s t) : List.Forall₂ s.PropertyRequired (l.declarations s) t.properties := by
  obtain ⟨slots, hslots, _, hp⟩ := h.properties
  rw [hp, List.forall₂_map_right_iff]
  refine hslots.imp fun declaration slot hslot => ?_
  obtain ⟨f, _, _, ho⟩ := hslot.outline
  refine ⟨hslot.name, (Slot.required_mem_rules ho.toPart.required_notMem).trans ?_⟩
  rw [hslot.required, List.contains_iff_mem]

/-- The rule `required` is in place in every service. -/
theorem required_in_place {l : Loaded} {maxDepth : Nat} {service : Service}
    (h : l.describe maxDepth = .ok service) : l.RequiredInPlace service := by
  obtain ⟨b, hb⟩ := l.exists_blueprint h
  constructor
  case first =>
    intro d hd
    rw [hb.descriptors] at hd
    obtain ⟨slot, hs, rfl⟩ := List.mem_map.mp hd
    obtain ⟨part, hp⟩ := hb.part hs
    exact Slot.required_notMem_tail hp.required_notMem
  case parameters =>
    rw [← hb.operations, hb.service_methods, List.forall₂_map_left_iff, List.forall₂_map_right_iff,
      List.forall₂_same]
    exact fun m hm => (hb.methods m hm).parameters_required
  case results =>
    intro i hi method hmethod
    have hmem : method ∈ service.interfaces.flatMap (·.methods) := List.mem_flatMap.mpr ⟨i, hi, hmethod⟩
    rw [hb.service_methods] at hmem
    obtain ⟨m, hm, rfl⟩ := List.mem_map.mp hmem
    exact (hb.methods m hm).result_required
  case properties => exact fun s t ht => (hb.extracts ht).properties_required
  case types => exact fun t ht => hb.exists_hasType ht

/-- A document with lists of what is required in every place: of a body and its items, of the keywords of a
parameter, of a definition, of a composed object and of its members. -/
def Json.crew : Json :=
  let ref (target : String) : Json := .object [("$ref", .string target)]
  let text : Json := .object [("type", .string "string")]
  let object (required : List String) (properties : List (String × Json)) : Json :=
    .object [("type", .string "object"), ("required", .list (required.map .string)),
      ("properties", .object properties)]
  let array (items : Json) : Json := .object [("type", .string "array"), ("items", items)]
  .object [
    ("info", .object [("title", .string "crew"), ("version", .string "1.0.0")]),
    ("paths", .object [("/crew", .object [("post", .object [
      ("operationId", .string "hire"),
      ("parameters", .list [
        .object [("name", .string "people"), ("in", .string "body"), ("required", .bool true),
          ("schema", array (object ["name"] [("name", text), ("rank", ref "#/definitions/Rank")]))],
        .object [("name", .string "note"), ("in", .string "query"), ("type", .string "string")]]),
      ("responses", .object [("200", .object [("schema", ref "#/definitions/Captain")])])])])]),
    ("definitions", .object [
      ("Rank", object ["title"] [("title", text), ("level", text)]),
      ("Captain", .object [("type", .string "object"), ("required", .list [.string "level", .string "ship"]),
        ("allOf", .list [ref "#/definitions/Rank",
          object ["log"] [("ship", text), ("log", array text)]])])])]

/-- The names of properties, with whether they are required. -/
def Service.TypeDef.demands (t : TypeDef) : String × List (String × Bool) :=
  (t.name, t.properties.map fun p => (p.name, p.type.isRequired))

theorem crew_required_in_place : ∃ l service, Loaded.ofJson Json.crew = .ok l ∧
    l.describe defaultMaxDepth = .ok service ∧
    service.types.map TypeDef.demands =
      [("Rank", [("title", true), ("level", false)]),
        ("Captain", [("title", false), ("level", true), ("ship", true), ("log", false)]),
        ("hirePeopleRank", [("title", true), ("level", false)]),
        ("hirePeople", [("name", true), ("rank", false)])] ∧
    (service.interfaces.flatMap (·.methods)).map (fun m => m.descriptors.map (·.isRequired)) =
      [[true, false, false]] ∧
    l.RequiredInPlace service := by
  obtain ⟨l, service, hl, h, hview⟩ := Loaded.exists_described Json.crew defaultMaxDepth
    (fun _ service => (service.types.map TypeDef.demands,
      (service.interfaces.flatMap (·.methods)).map fun m => m.descriptors.map (·.isRequired)))
    ([("Rank", [("title", true), ("level", false)]),
      ("Captain", [("title", false), ("level", true), ("ship", true), ("log", false)]),
      ("hirePeopleRank", [("title", true), ("level", false)]),
      ("hirePeople", [("name", true), ("rank", false)])], [[true, false, false]]) (by decide +kernel)
  obtain ⟨htypes, hmethods⟩ := Prod.mk.inj hview
  exact ⟨l, service, hl, h, htypes, hmethods, required_in_place h⟩

end SwaggerService
