import SwaggerService.Proofs.Names
import SwaggerService.Proofs.Uses

/-! # Shapes of descriptors

A descriptor names a plain kind, an entry of the same service, nothing at all, or the text of a reference
into no section of definitions. A name of an entry comes from a reference to an object definition, whose
type is always there, or from what was named in place, which was added by the end of the walk. -/

namespace SwaggerService
open Service

namespace Service.Descriptor

inductive Shape where
  | plain
  | entry
  | unknown
  | foreign
  deriving DecidableEq, Repr

/-- What a descriptor of a service is like when it has a shape. -/
def Shape.Fits (service : Service) (d : Descriptor) : Shape → Prop
  | .plain => d.isLocal = false ∧ d.isUnknown = false ∧
      d.typeName ∈ ["string", "number", "integer", "boolean", "null"]
  | .entry => d.isLocal = true ∧ d.isUnknown = false ∧
      (d.typeName ∈ service.types.map TypeDef.name ∨ d.typeName ∈ service.enums.map EnumDef.name)
  | .unknown => d.isLocal = false ∧ d.isUnknown = true ∧ d.typeName = "unknown"
  | .foreign => d.isLocal = true ∧ d.isUnknown = true ∧ d.typeName.toList.head? = some '#' ∧
      ∀ name, Pointer.parse? d.typeName ≠ some (.definition name)

/-- The two marks of a descriptor tell its shape. -/
def shape (d : Descriptor) : Shape :=
  match d.isLocal, d.isUnknown with
  | false, false => .plain
  | true, false => .entry
  | false, true => .unknown
  | true, true => .foreign

variable {service : Service}

theorem Shape.Fits.eq_shape {d : Descriptor} {s : Shape} (h : s.Fits service d) : s = d.shape := by
  cases s <;> rw [shape, h.1, h.2.1]

theorem Shape.Fits.congr {d d' : Descriptor} {s : Shape} (h : s.Fits service d)
    (hname : d'.typeName = d.typeName) (hlocal : d'.isLocal = d.isLocal)
    (hunknown : d'.isUnknown = d.isUnknown) : s.Fits service d' := by
  cases s <;> simpa only [Fits, hname, hlocal, hunknown] using h

theorem bare_fits {kind : Kind} (rules : List Rule) (ho : kind ≠ .object) (ha : kind ≠ .array) :
    ∃ s : Shape, s.Fits service (.bare kind rules) := by
  cases kind with
  | object => contradiction
  | array => contradiction
  | file | unrecognized => exact ⟨.unknown, rfl, rfl, rfl⟩
  | string | number | integer | boolean | null =>
    exact ⟨.plain, rfl, rfl, by simp [bare, plain, Kind.name]⟩

end Service.Descriptor

open Descriptor (Shape)

theorem Pointer.head_of_steps {raw : String} {steps : List String} (h : steps? raw = some steps) :
    raw.toList.head? = some '#' := by
  unfold steps? at h
  split at h
  · next path hraw => rw [hraw]; rfl
  · cases h

theorem Pointer.head_of_parse {raw : String} {p : Pointer} (h : parse? raw = some p) :
    raw.toList.head? = some '#' := by
  cases hs : steps? raw with
  | none =>
    rw [parse?, hs] at h
    cases h
  | some steps => exact head_of_steps hs

theorem Entries.mem_of_get? {α : Type} {key : String} {value : α} {entries : List (String × α)}
    (h : get? key entries = some value) : (key, value) ∈ entries := by
  induction entries with
  | nil => cases h
  | cons entry rest ih =>
    obtain ⟨k, v⟩ := entry
    rw [get?] at h
    split at h
    · next hk =>
      cases h
      rw [beq_iff_eq.mp hk]
      exact List.mem_cons_self
    · exact List.mem_cons_of_mem _ (ih h)

theorem Loaded.mem_definitions {l : Loaded} {target name : String} {s : Schema}
    (hp : Pointer.parse? target = some (.definition name)) (h : l.schemaAt target = .ok s) :
    (name, s) ∈ l.document.definitions := by
  rw [schemaAt_definition hp, entry] at h
  split at h
  · next part hpart =>
    cases h
    exact Entries.mem_of_get? hpart
  · cases h

theorem Document.mem_objectNames {d : Document} {name : String} {s : Schema}
    (h : (name, s) ∈ d.definitions) (hk : s.kind = .object) : name ∈ d.objectNames :=
  List.mem_map.mpr ⟨(name, s), List.mem_filter.mpr ⟨h, beq_iff_eq.mpr hk⟩, rfl⟩

/-- What a descriptor can be that neither is an array nor was named in place. -/
inductive Loaded.Leaf (l : Loaded) : Descriptor → Prop
  | bare (kind : Kind) (rules : List Rule) : kind ≠ .object → kind ≠ .array → Leaf l (.bare kind rules)
  | object (name : String) (rules : List Rule) : name ∈ l.document.objectNames →
      Leaf l (.local name rules)
  | foreign (target : String) (rules : List Rule) {p : Pointer} : Pointer.parse? target = some p →
      (∀ name, Pointer.parse? target ≠ some (.definition name)) → Leaf l ⟨target, false, true, true, rules⟩

theorem Loaded.PartOutline.leaf {l : Loaded} {part : Option (RefOr Schema)} {d : Descriptor}
    (h : l.PartOutline part (.leaf d)) : l.Leaf d := by
  cases h with
  | missing => exact .bare .unrecognized [] nofun nofun
  | part h =>
    cases h with
    | item h => cases h with | bare _ ho ha _ => exact .bare _ _ ho ha
    | other hp hother _ _ =>
      refine .foreign _ _ hp ?_
      intro name hname
      rw [hp] at hname
      exact hother name (Option.some.inj hname)
    | definition hp hs _ h =>
      cases h with
      | bare ho ha => exact .bare _ _ ho ha
      | object hk => exact .object _ _ (Document.mem_objectNames (mem_definitions hp hs) hk)

theorem Slot.type_element (slot : Slot) :
    (Slot.type slot).typeName = slot.2.element.descriptor.typeName ∧
    (Slot.type slot).isLocal = slot.2.element.descriptor.isLocal ∧
    (Slot.type slot).isUnknown = slot.2.element.descriptor.isUnknown := by
  rw [Slot.type, Descriptor.withRequired]
  split
  · exact slot.2.descriptor_element
  · exact slot.2.descriptor_element

namespace Blueprint

variable {b : Blueprint} {l : Loaded} {service : Service}

/-- The names of entries are those of object definitions and those that were given. -/
theorem Draws.mem_names (h : b.Draws l service) (name : String) :
    (name ∈ service.types.map TypeDef.name ∨ name ∈ service.enums.map EnumDef.name) ↔
      (name ∈ l.document.objectNames ∨ name ∈ Outline.claimsIn b.outer) := by
  rw [← List.mem_append, ← List.mem_append]
  exact h.names_perm.mem_iff

/-- Whatever a slot uses is among the named outlines of the blueprint. -/
theorem element_mem_nodes {slot : Slot} {name : String} (hs : slot ∈ b.slots)
    (hn : slot.2.element.name? = some name) : slot.2.element ∈ b.nodes := by
  have hu := Outline.mem_uses hs hn
  rw [slots, Outline.uses_append] at hu
  exact (Outline.uses_permIn b.outer).mem_iff.mp hu

theorem name_mem_claims {node : Outline} {name : String} (h : node ∈ b.nodes)
    (hn : node.name? = some name) : name ∈ Outline.claimsIn b.outer :=
  (Outline.names_permIn b.outer).mem_iff.mp (List.mem_filterMap.mpr ⟨node, h, hn⟩)

theorem Draws.leaf_fits (h : b.Draws l service) {part : Option (RefOr Schema)} {d : Descriptor}
    (hd : l.PartOutline part (.leaf d)) : ∃ s : Shape, s.Fits service d := by
  cases hd.leaf with
  | bare kind rules ho ha => exact Descriptor.bare_fits rules ho ha
  | object name rules hname => exact ⟨.entry, rfl, rfl, (h.mem_names name).mpr (.inl hname)⟩
  | foreign target rules hp hother => exact ⟨.foreign, rfl, rfl, Pointer.head_of_parse hp, hother⟩

theorem Draws.slot_fits (h : b.Draws l service) {slot : Slot} (hs : slot ∈ b.slots) :
    ∃ s : Shape, s.Fits service (Slot.type slot) := by
  suffices hf : ∃ s : Shape, s.Fits service slot.2.element.descriptor by
    obtain ⟨s, hf⟩ := hf
    obtain ⟨hname, hlocal, hunknown⟩ := Slot.type_element slot
    exact ⟨s, hf.congr hname hlocal hunknown⟩
  have hentry : ∀ name, slot.2.element.name? = some name →
      name ∈ service.types.map TypeDef.name ∨ name ∈ service.enums.map EnumDef.name := by
    intro name hn
    exact (h.mem_names name).mpr (.inr (name_mem_claims (element_mem_nodes hs hn) hn))
  obtain ⟨part, hp⟩ := h.part hs
  obtain ⟨part, hp⟩ := hp.element
  cases he : slot.2.element with
  | leaf d =>
    rw [he] at hp
    exact h.leaf_fits hp
  | array rules items => exact absurd he (slot.2.element_ne_array rules items)
  | enum name => exact ⟨.entry, rfl, rfl, hentry name (by rw [he]; rfl)⟩
  | object name => exact ⟨.entry, rfl, rfl, hentry name (by rw [he]; rfl)⟩

end Blueprint

/-- Every descriptor has exactly one shape; in particular no name of an entry dangles. -/
theorem exists_unique_shape {l : Loaded} {maxDepth : Nat} {service : Service}
    (h : l.describe maxDepth = .ok service) :
    ∀ d ∈ service.descriptors, ∃! s : Shape, s.Fits service d := by
  obtain ⟨b, hb⟩ := l.exists_blueprint h
  intro d hd
  rw [hb.descriptors] at hd
  obtain ⟨slot, hs, rfl⟩ := List.mem_map.mp hd
  obtain ⟨s, hf⟩ := hb.slot_fits hs
  refine ⟨s, hf, ?_⟩
  intro other hother
  exact hother.eq_shape.trans hf.eq_shape.symm

/-- Every shape occurs here. -/
theorem orders_exists_unique_shape : ∃ l service, Loaded.ofJson Json.orders = .ok l ∧
    l.describe defaultMaxDepth = .ok service ∧
    service.descriptors.map Descriptor.shape =
      [.entry, .entry, .entry, .entry, .foreign, .plain, .unknown, .entry, .foreign, .plain, .unknown,
        .entry, .entry] ∧
    ∀ d ∈ service.descriptors, ∃! s : Shape, s.Fits service d := by
  obtain ⟨l, service, hl, h, hshapes⟩ := Loaded.exists_described Json.orders defaultMaxDepth
    (fun _ service => service.descriptors.map Descriptor.shape)
    [.entry, .entry, .entry, .entry, .foreign, .plain, .unknown, .entry, .foreign, .plain, .unknown,
      .entry, .entry] (by decide +kernel)
  exact ⟨l, service, hl, h, hshapes, exists_unique_shape h⟩

end SwaggerService
