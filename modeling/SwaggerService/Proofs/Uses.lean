import SwaggerService.Proofs.Outline

/-! # Where named outlines are used

An enumeration or an object is used by the slot whose innermost items it is. Within an outline nothing is
used twice and nothing is left over, and a field only ever uses what was completed before the object of
the field. Both are facts about the tree alone: they hold whatever the names in it are. -/

namespace SwaggerService.Outline

/-- The named outlines that slots use, one for each slot that uses any. -/
def uses (slots : List Slot) : List Outline :=
  (slots.map fun slot => slot.2.element).filter fun o => o.name?.isSome

theorem uses_append (xs ys : List Slot) : uses (xs ++ ys) = uses xs ++ uses ys := by
  rw [uses, List.map_append, List.filter_append]
  rfl

mutual

/-- A slot with the fields inside its outline uses everything that is named in the outline once. -/
theorem uses_perm (label : Label) : ∀ o : Outline,
    (uses [(label, o)] ++ uses (o.nodes.flatMap fields)).Perm o.nodes
  | .leaf _ => .nil
  | .enum .. => .refl _
  | .array _ items => uses_perm label items
  | .object name s rules slots => by
    -- The label uses the object itself; its slots use what is inside it, which stands before it.
    have hfields : (nodes (.object name s rules slots)).flatMap fields =
        (nodesIn slots).flatMap fields ++ slots := by
      rw [nodes, List.flatMap_append, List.flatMap_singleton]
      rfl
    have hinside : (uses ((nodesIn slots).flatMap fields ++ slots)).Perm (nodesIn slots) := by
      rw [uses_append]
      exact List.perm_append_comm.trans (uses_permIn slots)
    rw [hfields, nodes]
    exact (hinside.cons (.object name s rules slots)).trans (List.perm_append_singleton _ _).symm

/-- The same of slots, with the fields inside all of them. -/
theorem uses_permIn : ∀ slots : List (Label × Outline),
    (uses slots ++ uses ((nodesIn slots).flatMap fields)).Perm (nodesIn slots)
  | [] => .nil
  | (label, o) :: rest => by
    have hfirst := uses_perm label o
    have hrest := uses_permIn rest
    rw [nodesIn, List.flatMap_append, uses_append, ← List.singleton_append, uses_append [(label, o)],
      List.append_assoc]
    refine .trans ?_ (hfirst.append hrest)
    rw [List.append_assoc]
    exact (List.perm_append_comm_assoc _ _ _).append_left _

end

theorem mem_uses {slots : List Slot} {slot : Slot} {name : String} (hs : slot ∈ slots)
    (hn : slot.2.element.name? = some name) : slot.2.element ∈ uses slots := by
  refine List.mem_filter.mpr ⟨List.mem_map.mpr ⟨slot, hs, rfl⟩, ?_⟩
  rw [hn]
  rfl

/-! ## Order -/

/-- What the fields of each outline use stands before it in the list, or was seen before the list. -/
def Ordered (seen : List Outline) : List Outline → Prop
  | [] => True
  | node :: rest =>
    (∀ slot ∈ node.fields, ∀ name, slot.2.element.name? = some name → slot.2.element ∈ seen) ∧
      Ordered (seen ++ [node]) rest

theorem Ordered.append {seen xs ys : List Outline} (hx : Ordered seen xs)
    (hy : Ordered (seen ++ xs) ys) : Ordered seen (xs ++ ys) := by
  induction xs generalizing seen with
  | nil =>
    rw [List.append_nil] at hy
    exact hy
  | cons node rest ih =>
    refine ⟨hx.1, ih hx.2 ?_⟩
    rw [List.append_assoc]
    exact hy

/-- Nothing that stands behind an outline is used by its fields. -/
theorem Ordered.before {seen xs ys : List Outline} {node : Outline}
    (h : Ordered seen (xs ++ node :: ys)) {slot : Slot} {name : String} (hs : slot ∈ node.fields)
    (hn : slot.2.element.name? = some name) : slot.2.element ∈ seen ++ xs := by
  induction xs generalizing seen with
  | nil =>
    rw [List.append_nil]
    exact h.1 slot hs name hn
  | cons first rest ih =>
    have hrest := ih h.2
    rw [List.append_assoc] at hrest
    exact hrest

mutual

theorem nodes_ordered : ∀ (o : Outline) (seen : List Outline), Ordered seen o.nodes
  | .leaf _, _ => trivial
  | .enum .., _ => ⟨nofun, trivial⟩
  | .array _ items, seen => nodes_ordered items seen
  | .object _ _ _ slots, seen => by
    refine (nodesIn_ordered slots seen).append ⟨?_, trivial⟩
    intro slot hs name hn
    exact List.mem_append_right _ (mem_nodesIn.mpr ⟨slot, hs, slot.2.element_mem_nodes hn⟩)

theorem nodesIn_ordered : ∀ (slots : List (Label × Outline)) (seen : List Outline),
    Ordered seen (nodesIn slots)
  | [], _ => trivial
  | (_, o) :: rest, seen => (nodes_ordered o seen).append (nodesIn_ordered rest (seen ++ o.nodes))

end

end SwaggerService.Outline
