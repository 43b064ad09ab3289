import Mathlib.Logic.Relation
import SwaggerService.Proofs.Synthesis

/-! # Order of types

The types of a service are those of the object definitions, in document order, followed by synthesized
ones. A synthesized type is added when everything inside it was added, although its name was given before
theirs; so its properties name synthesized types that stand before it, and no chain of them comes back. -/

namespace SwaggerService
open Service

/-- The types that are no object definitions. -/
def Loaded.synthesized (l : Loaded) (service : Service) : List TypeDef :=
  service.types.drop l.document.objectDefinitions.length

/-- The place that a name has among those of synthesized types. -/
def Loaded.rank (l : Loaded) (service : Service) (name : String) : Nat :=
  ((l.synthesized service).map TypeDef.name).idxOf name

/-- A synthesized type has a property of another one. -/
def Loaded.Refers (l : Loaded) (service : Service) (t u : TypeDef) : Prop :=
  t ∈ l.synthesized service ∧ u ∈ l.synthesized service ∧ ∃ p ∈ t.properties, p.type.names u.name = true

theorem getElem?_of_mem_take {α β : Type} {f : α → β} {xs : List α} {j : Nat} {y : β}
    (h : y ∈ (xs.take j).map f) : ∃ i < j, (xs[i]?).map f = some y := by
  rw [List.map_take] at h
  obtain ⟨i, hi, rfl⟩ := List.mem_take_iff_getElem.mp h
  obtain ⟨hj, hlen⟩ := Nat.lt_min.mp hi
  refine ⟨i, hj, ?_⟩
  rw [← List.getElem?_map]
  exact List.getElem?_eq_getElem hlen

namespace Outline

/-- What stands before an outline, from what stands before its type. -/
theorem exists_object {nodes : List Outline} {j : Nat} {t : TypeDef}
    (h : (nodes.filterMap typeDef?)[j]? = some t) :
    ∃ before name s rules fields after, nodes = before ++ .object name s rules fields :: after ∧
      t = ⟨name, s.description, fields.map Slot.property, s.objectRules⟩ ∧
      before.filterMap typeDef? = (nodes.filterMap typeDef?).take j := by
  obtain ⟨hj, ht⟩ := List.getElem?_eq_some_iff.mp h
  -- The types are split first, since only some of the outlines are types.
  have hsplit : nodes.filterMap typeDef? = (nodes.filterMap typeDef?).take j ++
      t :: (nodes.filterMap typeDef?).drop (j + 1) := by
    rw [← ht, ← List.drop_eq_getElem_cons hj, List.take_append_drop]
  obtain ⟨xs, ys, hnodes, hxs, hys⟩ := List.filterMap_eq_append_iff.mp hsplit
  obtain ⟨zs, node, after, rfl, hzs, hnode, _⟩ := List.filterMap_eq_cons_iff.mp hys
  cases node with
  | leaf | enum | array => cases hnode
  | object name s rules fields =>
    cases hnode
    refine ⟨xs ++ zs, name, s, rules, fields, after, ?_, rfl, ?_⟩
    · rw [hnodes, List.append_assoc]
    · rw [List.filterMap_append, hxs, List.filterMap_eq_nil_iff.mpr hzs, List.append_nil]

end Outline

namespace Blueprint

variable {b : Blueprint} {l : Loaded} {service : Service}

theorem Draws.definitions_length (h : b.Draws l service) :
    (b.definitions.map ObjectOutline.typeDef).length = l.document.objectDefinitions.length := by
  rw [← h.definitions, List.length_map, List.length_map]

theorem Draws.synthesized_eq (h : b.Draws l service) :
    l.synthesized service = b.nodes.filterMap Outline.typeDef? := by
  rw [Loaded.synthesized, h.service_types, ← h.definitions_length, List.drop_left]

theorem Draws.take_eq (h : b.Draws l service) :
    service.types.take l.document.objectDefinitions.length = b.definitions.map ObjectOutline.typeDef := by
  rw [h.service_types, ← h.definitions_length, List.take_left]

/-- The names of what was synthesized. -/
theorem Draws.synthesized_names (h : b.Draws l service) :
    ((l.synthesized service).map TypeDef.name ++ service.enums.map EnumDef.name).Perm
      (Outline.claimsIn b.outer) := by
  rw [h.synthesized_eq, h.service_enums]
  exact (Outline.entries_perm b.nodes).trans (Outline.names_permIn b.outer)

theorem mem_slots_of_fields {node : Outline} {slot : Slot} (hn : node ∈ b.nodes)
    (hs : slot ∈ node.fields) : slot ∈ b.slots :=
  List.mem_append_right _ (List.mem_flatMap.mpr ⟨node, hn, hs⟩)

/-- A property of a synthesized type names an object definition, an enumeration, or an earlier one. -/
theorem Draws.earlier (h : b.Draws l service) {j : Nat} {t : TypeDef}
    (ht : (l.synthesized service)[j]? = some t) {p : Property} (hp : p ∈ t.properties) {name : String}
    (hn : p.type.names name = true) :
    name ∈ l.document.objectNames ∨ name ∈ service.enums.map EnumDef.name ∨
      ∃ i < j, ((l.synthesized service)[i]?).map TypeDef.name = some name := by
  rw [h.synthesized_eq] at ht ⊢
  obtain ⟨before, own, s, rules, fields, after, hnodes, rfl, htake⟩ := Outline.exists_object ht
  obtain ⟨slot, hslot, rfl⟩ := List.mem_map.mp hp
  have hnode : Outline.object own s rules fields ∈ b.nodes := by
    rw [hnodes]
    exact List.mem_append_right _ List.mem_cons_self
  rcases h.names_cases (mem_slots_of_fields hnode hslot) hn with ho | he
  · exact .inl ho
  have hordered : Outline.Ordered [] b.nodes := Outline.nodesIn_ordered b.outer []
  rw [hnodes] at hordered
  have hbefore : slot.2.element ∈ before := hordered.before hslot he
  have hentry := (Outline.entries_perm before).mem_iff.mpr (List.mem_filterMap.mpr ⟨_, hbefore, he⟩)
  rcases List.mem_append.mp hentry with htype | henum
  · rw [htake] at htype
    exact .inr (.inr (getElem?_of_mem_take htype))
  · rw [h.service_enums, hnodes, List.filterMap_append, List.map_append]
    exact .inr (.inl (List.mem_append_left _ henum))

theorem Draws.synthesized_nodup (h : b.Draws l service) :
    ((l.synthesized service).map TypeDef.name ++ service.enums.map EnumDef.name).Nodup :=
  h.synthesized_names.nodup_iff.mpr h.fresh.1

theorem Draws.rank_eq (h : b.Draws l service) {i : Nat} {name : String}
    (hi : ((l.synthesized service)[i]?).map TypeDef.name = some name) : l.rank service name = i := by
  rw [← List.getElem?_map] at hi
  obtain ⟨hlt, rfl⟩ := List.getElem?_eq_some_iff.mp hi
  exact (List.nodup_append.mp h.synthesized_nodup).1.idxOf_getElem i hlt

/-- A property of a synthesized type has a type of lower rank. -/
theorem Draws.rank_lt (h : b.Draws l service) {t u : TypeDef} (hr : l.Refers service t u) :
    l.rank service u.name < l.rank service t.name := by
  obtain ⟨ht, hu, p, hp, hn⟩ := hr
  have hname : u.name ∈ (l.synthesized service).map TypeDef.name := List.mem_map_of_mem hu
  obtain ⟨j, hj⟩ := List.mem_iff_getElem?.mp ht
  -- A synthesized type shares its name with no definition and no enumeration, so the third case is left.
  rcases h.earlier hj hp hn with ho | he | ⟨i, hlt, hi⟩
  · have hclaim := h.synthesized_names.mem_iff.mp (List.mem_append_left _ hname)
    exact absurd ho (h.not_object_name hclaim)
  · exact absurd rfl ((List.nodup_append.mp h.synthesized_nodup).2.2 _ hname _ he)
  · rw [h.rank_eq hi, h.rank_eq (by rw [hj]; rfl)]
    exact hlt

theorem Draws.acyclic (h : b.Draws l service) (t : TypeDef) :
    ¬ Relation.TransGen (l.Refers service) t t := by
  have hdown : ∀ u, Relation.TransGen (l.Refers service) t u →
      l.rank service u.name < l.rank service t.name := by
    intro u hu
    induction hu with
    | single hr => exact h.rank_lt hr
    | tail _ hr ih => exact Nat.lt_trans (h.rank_lt hr) ih
  exact fun ht => Nat.lt_irrefl _ (hdown t ht)

end Blueprint

/-- Object definitions stand first, and synthesized types are in the order in which they need each other. -/
structure Loaded.TypesInOrder (l : Loaded) (service : Service) : Prop where
  definitions : (service.types.take l.document.objectDefinitions.length).map
      (fun t => (t.name, t.description, t.rules)) =
    l.document.objectDefinitions.map fun (name, s) => (name, s.description, s.objectRules)
  synthesized : ∀ t ∈ l.synthesized service, t.name ∉ l.document.objectNames
  earlier : ∀ (j : Nat) (t : TypeDef), (l.synthesized service)[j]? = some t → ∀ p ∈ t.properties, ∀ name,
    p.type.names name = true → name ∈ l.document.objectNames ∨
      name ∈ service.enums.map EnumDef.name ∨
      ∃ i < j, ((l.synthesized service)[i]?).map TypeDef.name = some name
  acyclic : ∀ t, ¬ Relation.TransGen (l.Refers service) t t

theorem types_in_order {l : Loaded} {maxDepth : Nat} {service : Service}
    (h : l.describe maxDepth = .ok service) : l.TypesInOrder service := by
  obtain ⟨b, hb⟩ := l.exists_blueprint h
  constructor
  case definitions =>
    rw [hb.take_eq, ← hb.definitions, List.map_map, List.map_map]
    rfl
  case synthesized =>
    intro t ht
    have hname : t.name ∈ (l.synthesized service).map TypeDef.name := List.mem_map_of_mem ht
    exact hb.not_object_name (hb.synthesized_names.mem_iff.mp (List.mem_append_left _ hname))
  case earlier => exact fun j t ht p hp name hn => hb.earlier ht hp hn
  case acyclic => exact hb.acyclic

/-- The item of the body of `order` is added before the body. -/
theorem orders_types_in_order : ∃ l service, Loaded.ofJson Json.orders = .ok l ∧
    l.describe defaultMaxDepth = .ok service ∧ l.document.objectNames = ["orderBody", "Item"] ∧
    (l.synthesized service).map TypeDef.name = ["orderBody2First", "orderBody2"] ∧
    l.TypesInOrder service := by
  obtain ⟨l, service, hl, h, hnames⟩ := Loaded.exists_described Json.orders defaultMaxDepth
    (fun l service => (l.document.objectNames, (l.synthesized service).map TypeDef.name))
    (["orderBody", "Item"], ["orderBody2First", "orderBody2"]) (by decide +kernel)
  obtain ⟨hobjects, hsynthesized⟩ := Prod.mk.inj hnames
  exact ⟨l, service, hl, h, hobjects, hsynthesized, types_in_order h⟩

end SwaggerService
