import SwaggerService.Proofs.Shapes

/-! # Synthesized entries

An enumeration, or a type that is no object definition, is named by one descriptor and by no other: a
shared part is walked once for each use, and each walk gives names of its own. So the names that
descriptors use are a rearrangement of the names that were given, and those are distinct. -/

namespace SwaggerService
open Service

/-- Whether a descriptor names an entry. -/
def Service.Descriptor.names (d : Descriptor) (name : String) : Bool :=
  d.isLocal && !d.isUnknown && d.typeName == name

theorem Service.Descriptor.names_local {other name : String} {rules : List Rule} :
    (Descriptor.local other rules).names name = true ↔ other = name := by
  simp [names, Descriptor.local]

namespace Outline

theorem filterMap_uses (slots : List Slot) :
    (uses slots).filterMap name? = slots.filterMap fun slot => slot.2.element.name? := by
  induction slots with
  | nil => rfl
  | cons slot rest ih =>
    rw [List.filterMap_cons, ← ih, uses, List.map_cons, List.filter_cons]
    cases hn : slot.2.element.name? with
    | none => rfl
    | some name =>
      rw [Option.isSome_some, if_pos rfl, List.filterMap_cons, hn]
      rfl

/-- Outlines of distinct names are told apart by their names. -/
theorem eq_of_name {os : List Outline} {x y : Outline} {name : String}
    (hd : (os.filterMap name?).Nodup) (hx : x ∈ os) (hy : y ∈ os) (hnx : x.name? = some name)
    (hny : y.name? = some name) : x = y := by
  induction os with
  | nil => cases hx
  | cons o rest ih =>
    have hlater : ∀ o', o' ∈ rest → o'.name? = some name → o.name? ≠ some name := by
      intro o' ho' hno' hno
      rw [List.filterMap_cons_some hno] at hd
      exact (List.nodup_cons.mp hd).1 (List.mem_filterMap.mpr ⟨o', ho', hno'⟩)
    have hrest : (rest.filterMap name?).Nodup :=
      hd.sublist (List.Sublist.filterMap name? (List.sublist_cons_self o rest))
    rcases List.mem_cons.mp hx with rfl | hxr
    · rcases List.mem_cons.mp hy with rfl | hyr
      · rfl
      · exact absurd hnx (hlater y hyr hny)
    · rcases List.mem_cons.mp hy with rfl | hyr
      · exact absurd hny (hlater x hxr hnx)
      · exact ih hrest hxr hyr

theorem element_of_levels : ∀ {o : Outline}, o.levels = 0 → o.element = o
  | .leaf _, _ | .enum .., _ | .object .., _ => rfl

end Outline

/-! ## Rules of enumerations -/

namespace Loaded

variable {l : Loaded} {name : String} {s source : Schema} {values : List String} {rules : List Rule}

theorem SchemaOutline.enum_source (h : l.SchemaOutline s (.enum name source values rules)) :
    source = s ∧ s.kind = .string ∧ s.enumStrings = some values ∧ values ≠ [] := by
  cases h with
  | enum _ hk he hv => exact ⟨rfl, hk, he, hv⟩

theorem mem_localRules (hk : s.kind = .string) (he : s.enumStrings = some values) :
    Rule.stringEnum values ∈ s.localRules := by
  rw [Schema.localRules, hk]
  simp [Schema.stringRules, he]

theorem SchemaOutline.enum_rules (h : l.SchemaOutline s (.enum name source values rules)) :
    Rule.stringEnum values ∈ rules := by
  cases h with
  | enum hr hk he _ =>
    have hitems : s.arrayItems? = none := by rw [Schema.arrayItems?, hk]; rfl
    rw [ruleSet, hitems] at hr
    cases hr
    exact mem_localRules hk he

/-- An array states the rules of its items after its own, but not those of the items of its items. -/
theorem PartOutline.enum_rules {part : Option (RefOr Schema)} {o : Outline} (h : l.PartOutline part o)
    (he : o.element = .enum name source values rules) (hl : o.levels ≤ 1) :
    Rule.stringEnum values ∈ o.descriptor.rules := by
  cases o with
  | leaf | object => cases he
  | enum =>
    cases he
    obtain ⟨s, _, hs⟩ := h.named rfl
    exact hs.enum_rules
  | array outer items =>
    have hflat : items.levels = 0 := by
      rw [Outline.levels] at hl
      omega
    have hitems : items.element = items := Outline.element_of_levels hflat
    obtain ⟨s, hk, hr, hp⟩ := h.items
    rw [Outline.element, hitems] at he
    subst he
    obtain ⟨item, hitem, hs⟩ := hp.named rfl
    obtain ⟨_, hkind, hvalues, _⟩ := hs.enum_source
    have hrules : s.arrayItems? = some (.item item) := by rw [Schema.arrayItems?, if_pos hk, hitem]
    rw [ruleSet, hrules] at hr
    cases hr
    exact List.mem_append_right _ (mem_localRules hkind hvalues)

end Loaded

theorem Slot.names_element (slot : Slot) (name : String) :
    (Slot.type slot).names name = slot.2.element.descriptor.names name := by
  obtain ⟨hname, hlocal, hunknown⟩ := Slot.type_element slot
  rw [Descriptor.names, hname, hlocal, hunknown]
  rfl

theorem Slot.mem_rules {slot : Slot} {rule : Rule} (h : rule ∈ slot.2.descriptor.rules) :
    rule ∈ (Slot.type slot).rules := by
  rw [Slot.type, Descriptor.withRequired]
  split
  · exact List.mem_cons_of_mem _ h
  · exact h

/-! ## Uses of names -/

namespace Blueprint

variable {b : Blueprint} {l : Loaded} {service : Service}

/-- The slots use exactly the names that were given. -/
theorem used_names_perm (b : Blueprint) :
    (b.slots.filterMap fun slot => slot.2.element.name?).Perm (Outline.claimsIn b.outer) := by
  rw [← Outline.filterMap_uses, slots, Outline.uses_append]
  exact ((Outline.uses_permIn b.outer).filterMap Outline.name?).trans (Outline.names_permIn b.outer)

/-- A name in a descriptor is that of an object definition or of what the slot uses. -/
theorem Draws.names_cases (h : b.Draws l service) {slot : Slot} {name : String} (hs : slot ∈ b.slots)
    (hn : (Slot.type slot).names name = true) :
    name ∈ l.document.objectNames ∨ slot.2.element.name? = some name := by
  rw [Slot.names_element] at hn
  obtain ⟨part, hp⟩ := h.part hs
  obtain ⟨part, hp⟩ := hp.element
  cases he : slot.2.element with
  | array rules items => exact absurd he (slot.2.element_ne_array rules items)
  | enum | object =>
    rw [he] at hn
    exact .inr (congrArg some (Descriptor.names_local.mp hn))
  | leaf d =>
    -- Of the leaves only a reference to an object definition has a name of the service.
    rw [he] at hp hn
    cases hp.leaf with
    | bare kind => cases kind <;> cases hn
    | foreign => cases hn
    | object other _ ho => exact .inl (Descriptor.names_local.mp hn ▸ ho)

theorem Draws.names_iff (h : b.Draws l service) {slot : Slot} {name : String} (hs : slot ∈ b.slots)
    (hn : name ∈ Outline.claimsIn b.outer) :
    (Slot.type slot).names name = true ↔ slot.2.element.name? = some name := by
  constructor
  · intro hd
    exact (h.names_cases hs hd).resolve_left (h.not_object_name hn)
  · intro he
    rw [Slot.names_element]
    cases ho : slot.2.element with
    | leaf | array =>
      rw [ho] at he
      cases he
    | enum | object =>
      rw [ho] at he
      cases he
      exact Descriptor.names_local.mpr rfl

/-- A name that was given is named by one descriptor. -/
theorem Draws.countP_names (h : b.Draws l service) {name : String}
    (hn : name ∈ Outline.claimsIn b.outer) : service.descriptors.countP (·.names name) = 1 := by
  have hslots : ∀ slot ∈ b.slots, ((Slot.type slot).names name = true ↔
      (slot.2.element.name? == some name) = true) := by
    intro slot hs
    rw [beq_iff_eq]
    exact h.names_iff hs hn
  calc service.descriptors.countP (·.names name)
      = b.slots.countP fun slot => (Slot.type slot).names name := by
        rw [h.descriptors, List.countP_map]
        rfl
    _ = b.slots.countP fun slot => slot.2.element.name? == some name := List.countP_congr hslots
    _ = (b.slots.filterMap fun slot => slot.2.element.name?).count name := by
        rw [List.count_filterMap]
    _ = (Outline.claimsIn b.outer).count name := b.used_names_perm.count_eq name
    _ = 1 := List.count_eq_one_of_mem h.fresh.1 hn

theorem Draws.mem_claims_of_type (h : b.Draws l service) {t : TypeDef} (ht : t ∈ service.types)
    (hn : t.name ∉ l.document.objectNames) : t.name ∈ Outline.claimsIn b.outer :=
  ((h.mem_names t.name).mp (.inl (List.mem_map_of_mem ht))).resolve_left hn

theorem Draws.node_of_enum (h : b.Draws l service) {e : EnumDef} (he : e ∈ service.enums) :
    ∃ s rules, .enum e.name s e.values rules ∈ b.nodes := by
  rw [h.service_enums] at he
  obtain ⟨node, hn, he⟩ := List.mem_filterMap.mp he
  cases node with
  | leaf | array | object => cases he
  | enum name s values rules =>
    cases he
    exact ⟨s, rules, hn⟩

theorem Draws.nodes_nodup (h : b.Draws l service) : (b.nodes.filterMap Outline.name?).Nodup :=
  (Outline.names_permIn b.outer).nodup_iff.mpr h.fresh.1

theorem Draws.enum_source (h : b.Draws l service) {name : String} {s : Schema} {values : List String}
    {rules : List Rule} (hn : .enum name s values rules ∈ b.nodes) :
    s.kind = .string ∧ s.enumStrings = some values ∧ values ≠ [] := by
  obtain ⟨slot, hs, hn⟩ := Outline.mem_nodesIn.mp hn
  obtain ⟨part, hp⟩ := h.part_of_outer hs
  obtain ⟨_, ho⟩ := hp.of_mem _ _ hn
  obtain ⟨rfl, hsource⟩ := ho.enum_source
  exact hsource

/-- The slot whose descriptor names an enumeration has the schema of the enumeration, and states its
values unless it stands around more than one array. -/
theorem Draws.slot_of_enum (h : b.Draws l service) {e : EnumDef} (he : e ∈ service.enums) {slot : Slot}
    (hs : slot ∈ b.slots) (hn : (Slot.type slot).names e.name = true) :
    ∃ s rules, slot.2.element = .enum e.name s e.values rules ∧ s.kind = .string ∧
      s.enumStrings = some e.values ∧
      (slot.2.levels ≤ 1 → Rule.stringEnum e.values ∈ (Slot.type slot).rules) := by
  obtain ⟨s, rules, hnode⟩ := h.node_of_enum he
  have hclaim : e.name ∈ Outline.claimsIn b.outer := name_mem_claims hnode rfl
  have hname := (h.names_iff hs hclaim).mp hn
  have helement : slot.2.element = .enum e.name s e.values rules :=
    Outline.eq_of_name h.nodes_nodup (element_mem_nodes hs hname) hnode hname rfl
  obtain ⟨hkind, hvalues, _⟩ := h.enum_source hnode
  refine ⟨s, rules, helement, hkind, hvalues, ?_⟩
  intro hl
  obtain ⟨part, hp⟩ := h.part hs
  exact Slot.mem_rules (hp.enum_rules helement hl)

end Blueprint

/-- Nothing that was synthesized is lost, orphaned or shared. -/
structure Loaded.NamesOnce (l : Loaded) (service : Service) : Prop where
  types : ∀ t ∈ service.types, t.name ∉ l.document.objectNames →
    service.descriptors.countP (·.names t.name) = 1
  enums : ∀ e ∈ service.enums, service.descriptors.countP (·.names e.name) = 1
  values : ∀ e ∈ service.enums, e.values ≠ []
  /-- The values are a rule of that one descriptor when the text that has them stands in one array at
  most. How many arrays there are is read off the schemas. -/
  rules : ∃ b : Blueprint, b.Draws l service ∧ service.descriptors = b.slots.map Slot.type ∧
    ∀ e ∈ service.enums, ∀ slot ∈ b.slots, (Slot.type slot).names e.name = true →
      ∃ s rules, slot.2.element = .enum e.name s e.values rules ∧ s.kind = .string ∧
        s.enumStrings = some e.values ∧
        (slot.2.levels ≤ 1 → Rule.stringEnum e.values ∈ (Slot.type slot).rules)

theorem names_once {l : Loaded} {maxDepth : Nat} {service : Service}
    (h : l.describe maxDepth = .ok service) : l.NamesOnce service := by
  obtain ⟨b, hb⟩ := l.exists_blueprint h
  constructor
  case types =>
    intro t ht hn
    exact hb.countP_names (hb.mem_claims_of_type ht hn)
  case enums =>
    intro e he
    obtain ⟨s, rules, hnode⟩ := hb.node_of_enum he
    exact hb.countP_names (Blueprint.name_mem_claims hnode rfl)
  case values =>
    intro e he
    obtain ⟨s, rules, hnode⟩ := hb.node_of_enum he
    exact (hb.enum_source hnode).2.2
  case rules => exact ⟨b, hb, hb.descriptors, fun e he slot hs hn => hb.slot_of_enum he hs hn⟩

/-- The enumeration in an array of arrays is the one whose values are no rule. -/
theorem orders_names_once : ∃ l service, Loaded.ofJson Json.orders = .ok l ∧
    l.describe defaultMaxDepth = .ok service ∧
    (service.enums.map fun e => (e.values, (service.descriptors.filter (·.names e.name)).map (·.rules))) =
      [(["open", "done"], [[.stringEnum ["open", "done"]]]), (["open"], [[.stringEnum ["open"]]]),
        (["low"], [[]])] ∧
    l.NamesOnce service := by
  obtain ⟨l, service, hl, h, hrules⟩ := Loaded.exists_described Json.orders defaultMaxDepth
    (fun _ service => service.enums.map fun e =>
      (e.values, (service.descriptors.filter (·.names e.name)).map (·.rules)))
    [(["open", "done"], [[.stringEnum ["open", "done"]]]), (["open"], [[.stringEnum ["open"]]]),
      (["low"], [[]])] (by decide +kernel)
  exact ⟨l, service, hl, h, hrules, names_once h⟩

end SwaggerService
