import SwaggerService.Proofs.Blueprint
import SwaggerService.Proofs.Loading

/-! # Names of types and enumerations

Object definitions, objects in place and enumerations share one supply of names. The definitions have
theirs before the walk begins; each other name was free when it was given, and is in use ever after. What
is left is that the definitions themselves have distinct names, and that holds because the document was
read. -/

namespace SwaggerService
open Service

variable {b : Blueprint} {l : Loaded} {service : Service}

namespace Blueprint

/-- The types of the object definitions keep their names, in document order. -/
theorem Draws.definition_names (h : b.Draws l service) :
    (b.definitions.map ObjectOutline.typeDef).map TypeDef.name = l.document.objectNames := by
  rw [Document.objectNames, ← h.definitions, List.map_map, List.map_map]
  rfl

/-- Every type and every enumeration has the name of an object definition or one that was given. -/
theorem Draws.names_perm (h : b.Draws l service) :
    (service.types.map TypeDef.name ++ service.enums.map EnumDef.name).Perm
      (l.document.objectNames ++ Outline.claimsIn b.outer) := by
  rw [h.service_types, h.service_enums, List.map_append, h.definition_names, List.append_assoc]
  exact ((Outline.entries_perm b.nodes).trans (Outline.names_permIn b.outer)).append_left _

/-- A name that was given is that of no object definition. -/
theorem Draws.not_object_name (h : b.Draws l service) {name : String}
    (hn : name ∈ Outline.claimsIn b.outer) : name ∉ l.document.objectNames :=
  fun ho => h.fresh.2 name hn (Registry.mem_take.mpr (.inr ho))

end Blueprint

theorem Document.Distinct.objectNames_nodup {d : Document} (h : d.Distinct) : d.objectNames.Nodup :=
  h.definitions.sublist (List.filter_sublist.map _)

/-- No two entries of a service have the same name, whether they are types or enumerations. -/
theorem names_nodup {raw : Json} {maxDepth : Nat} (hl : Loaded.ofJson raw = .ok l)
    (h : l.describe maxDepth = .ok service) :
    (service.types.map TypeDef.name ++ service.enums.map EnumDef.name).Nodup := by
  obtain ⟨b, hb⟩ := l.exists_blueprint h
  rw [hb.names_perm.nodup_iff, List.nodup_append]
  refine ⟨(Loaded.ofJson_distinct hl).objectNames_nodup, hb.fresh.1, ?_⟩
  rintro name ho _ hn rfl
  exact hb.not_object_name hn ho

/-- The body of `order` had to give way to the definition `orderBody`. -/
theorem orders_names_nodup : ∃ l service, Loaded.ofJson Json.orders = .ok l ∧
    l.describe defaultMaxDepth = .ok service ∧
    service.types.map TypeDef.name = ["orderBody", "Item", "orderBody2First", "orderBody2"] ∧
    service.enums.map EnumDef.name = ["orderBody2State", "orderResponse", "orderBodyLevel"] ∧
    (service.types.map TypeDef.name ++ service.enums.map EnumDef.name).Nodup := by
  obtain ⟨l, service, hl, h, hnames⟩ := Loaded.exists_described Json.orders defaultMaxDepth
    (fun _ service => (service.types.map TypeDef.name, service.enums.map EnumDef.name))
    (["orderBody", "Item", "orderBody2First", "orderBody2"],
      ["orderBody2State", "orderResponse", "orderBodyLevel"]) (by decide +kernel)
  obtain ⟨htypes, henums⟩ := Prod.mk.inj hnames
  exact ⟨l, service, hl, h, htypes, henums, names_nodup hl h⟩

end SwaggerService
