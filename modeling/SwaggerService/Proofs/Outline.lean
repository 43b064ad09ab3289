import SwaggerService.Classification
import SwaggerService.Proofs.FreeNames

/-! # Outlines

An outline is what a successful walk makes of a schema, as a tree: where a name was given, the tree has
the name. Descriptors, types and enumerations are read off an outline, and so are the names that it takes,
in the order in which they are taken. Two orders matter: an object takes its name before the names inside
it are taken, and it is added after everything inside it was added. -/

namespace SwaggerService
open Service

/-- What a parameter, a result or a property says about the schema that it has. -/
structure Label where
  name : String
  description : Option String
  required : Bool
  deriving DecidableEq, Repr

/-- What becomes of a schema. An enumeration and an object have the name that they were given and the
schema that they come from. -/
inductive Outline where
  | leaf (descriptor : Descriptor)
  | enum (name : String) (source : Schema) (values : List String) (rules : List Rule)
  | array (rules : List Rule) (items : Outline)
  | object (name : String) (source : Schema) (rules : List Rule) (fields : List (Label × Outline))

/-- A labelled outline. -/
abbrev Slot := Label × Outline

namespace Outline

/-- The descriptor of what has the outline as its schema. -/
def descriptor : Outline → Descriptor
  | .leaf d => d
  | .enum name _ _ rules => .local name rules
  | .array rules items => { items.descriptor with isArray := true, rules }
  | .object name _ rules _ => .local name rules

/-- The innermost items of arrays of arrays. -/
def element : Outline → Outline
  | .array _ items => items.element
  | o => o

/-- How many arrays stand around the innermost items. -/
def levels : Outline → Nat
  | .array _ items => items.levels + 1
  | _ => 0

/-- The name that was given. -/
def name? : Outline → Option String
  | .enum name _ _ _ | .object name _ _ _ => some name
  | .leaf _ | .array _ _ => none

/-- The fields of an object. -/
def fields : Outline → List Slot
  | .object _ _ _ fields => fields
  | _ => []

mutual

/-- The names that are taken, in the order in which they are taken. -/
def claims : Outline → List String
  | .leaf _ => []
  | .enum name _ _ _ => [name]
  | .array _ items => items.claims
  | .object name _ _ fields => name :: claimsIn fields

/-- The names that are taken for slots. -/
def claimsIn : List (Label × Outline) → List String
  | [] => []
  | (_, o) :: rest => o.claims ++ claimsIn rest

end

mutual

/-- The enumerations and objects, each one after all that are inside it. -/
def nodes : Outline → List Outline
  | .leaf _ => []
  | .enum name s values rules => [.enum name s values rules]
  | .array _ items => items.nodes
  | .object name s rules fields => nodesIn fields ++ [.object name s rules fields]

/-- The enumerations and objects of slots. -/
def nodesIn : List (Label × Outline) → List Outline
  | [] => []
  | (_, o) :: rest => o.nodes ++ nodesIn rest

end

theorem claimsIn_append (xs ys : List Slot) : claimsIn (xs ++ ys) = claimsIn xs ++ claimsIn ys := by
  induction xs with
  | nil => rfl
  | cons slot rest ih => simp only [List.cons_append, claimsIn, ih, List.append_assoc]

theorem nodesIn_append (xs ys : List Slot) : nodesIn (xs ++ ys) = nodesIn xs ++ nodesIn ys := by
  induction xs with
  | nil => rfl
  | cons slot rest ih => simp only [List.cons_append, nodesIn, ih, List.append_assoc]

theorem mem_nodesIn {slots : List Slot} {node : Outline} :
    node ∈ nodesIn slots ↔ ∃ slot ∈ slots, node ∈ slot.2.nodes := by
  induction slots with
  | nil => simp [nodesIn]
  | cons slot rest ih => simp [nodesIn, ih]

/-- Only rules and the mark of an array tell an outline from its innermost items. -/
theorem descriptor_element : ∀ o : Outline, o.descriptor.typeName = o.element.descriptor.typeName ∧
    o.descriptor.isLocal = o.element.descriptor.isLocal ∧
    o.descriptor.isUnknown = o.element.descriptor.isUnknown
  | .leaf _ | .enum .. | .object .. => ⟨rfl, rfl, rfl⟩
  | .array _ items => descriptor_element items

theorem element_ne_array : ∀ (o : Outline) (rules : List Rule) (items : Outline),
    o.element ≠ .array rules items
  | .leaf _, _, _ | .enum .., _, _ | .object .., _, _ => nofun
  | .array _ items, rules, inner => element_ne_array items rules inner

theorem element_mem_nodes : ∀ (o : Outline) {name : String},
    o.element.name? = some name → o.element ∈ o.nodes
  | .leaf _, _, h => nomatch h
  | .enum .., _, _ => List.mem_singleton_self _
  | .array _ items, _, h => element_mem_nodes items h
  | .object .., _, _ => List.mem_append_right _ (List.mem_singleton_self _)

end Outline

namespace Slot

/-- The descriptor of what has the slot. -/
def type (slot : Slot) : Descriptor := slot.2.descriptor.withRequired slot.1.required

/-- The property that a slot of an object is. -/
def property (slot : Slot) : Property := ⟨slot.1.name, slot.1.description, Slot.type slot⟩

end Slot

namespace Outline

/-- The type that an object is. -/
def typeDef? : Outline → Option TypeDef
  | .object name s _ fields => some ⟨name, s.description, fields.map Slot.property, s.objectRules⟩
  | _ => none

/-- The enumeration that an outline is. -/
def enumDef? : Outline → Option EnumDef
  | .enum name _ values _ => some ⟨name, values⟩
  | _ => none

/-! ## Names -/

mutual

/-- Every name is the free one for its candidate, where so many names are in use before. -/
def Named : Outline → (taken : List String) → (localName parentName : String) → Prop
  | .leaf _, _, _, _ => True
  | .enum name _ _ _, taken, localName, parentName =>
    name = Registry.freeName taken (enumCandidate parentName localName)
  | .array _ items, taken, localName, parentName => items.Named taken localName parentName
  | .object name _ _ fields, taken, localName, parentName =>
    name = Registry.freeName taken (typeCandidate parentName localName) ∧
      NamedIn fields (taken.insert name) name

/-- The same of slots, one after the other. -/
def NamedIn : List (Label × Outline) → (taken : List String) → (parentName : String) → Prop
  | [], _, _ => True
  | (label, o) :: rest, taken, parentName =>
    o.Named taken label.name parentName ∧ NamedIn rest (Registry.take taken o.claims) parentName

end

mutual

theorem Named.fresh : ∀ (o : Outline) {taken : List String} {localName parentName : String},
    o.Named taken localName parentName → Registry.Fresh taken o.claims
  | .leaf _, _, _, _, _ => .nil _
  | .enum _ _ _ _, _, _, _, h => by
    rw [Named] at h
    subst h
    exact .freeName _ _
  | .array _ items, _, _, _, h => Named.fresh items h
  | .object name _ _ fields, taken, localName, parentName, h => by
    obtain ⟨hname, hfields⟩ := h
    have hfirst : Registry.Fresh taken [name] := by rw [hname]; exact .freeName _ _
    exact hfirst.append (NamedIn.fresh fields hfields)

theorem NamedIn.fresh : ∀ (slots : List (Label × Outline)) {taken : List String} {parentName : String},
    NamedIn slots taken parentName → Registry.Fresh taken (claimsIn slots)
  | [], _, _, _ => .nil _
  | (_, o) :: rest, _, _, h => (Named.fresh o h.1).append (NamedIn.fresh rest h.2)

end

theorem namedIn_append {xs ys : List Slot} {taken : List String} {parentName : String}
    (hx : NamedIn xs taken parentName)
    (hy : NamedIn ys (Registry.take taken (claimsIn xs)) parentName) :
    NamedIn (xs ++ ys) taken parentName := by
  induction xs generalizing taken with
  | nil => exact hy
  | cons slot rest ih =>
    refine ⟨hx.1, ih hx.2 ?_⟩
    rw [← Registry.take_append]
    exact hy

mutual

/-- What is named in an outline has the names that it takes. -/
theorem names_perm : ∀ o : Outline, (o.nodes.filterMap name?).Perm o.claims
  | .leaf _ => .nil
  | .enum .. => .refl _
  | .array _ items => names_perm items
  | .object name s rules fields => by
    rw [nodes, claims, List.filterMap_append]
    exact List.perm_append_comm.trans ((names_permIn fields).cons name)

theorem names_permIn : ∀ slots : List (Label × Outline),
    ((nodesIn slots).filterMap name?).Perm (claimsIn slots)
  | [] => .nil
  | (_, o) :: rest => by
    rw [nodesIn, claimsIn, List.filterMap_append]
    exact (names_perm o).append (names_permIn rest)

end

/-- Every name is that of a type or of an enumeration. -/
theorem entries_perm (os : List Outline) :
    ((os.filterMap typeDef?).map TypeDef.name ++ (os.filterMap enumDef?).map EnumDef.name).Perm
      (os.filterMap name?) := by
  induction os with
  | nil => exact .nil
  | cons o rest ih =>
    cases o with
    | leaf _ | array _ _ => exact ih
    | object name _ _ _ => exact ih.cons name
    | enum name _ _ _ => exact List.perm_middle.trans (ih.cons name)

end Outline

end SwaggerService
