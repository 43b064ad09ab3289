import Mathlib.Order.WellFounded
import SwaggerService.Proofs.Grouping

/-! # Expansion of schemas

A schema expands to the schemas that its classification goes on to. Definitions of objects are referred to
by name, so a reference in the place of items, of a body or of a result expands only where it leads to the
definition of an array; but the properties of an object are resolved, whatever they refer to. An expansion
without end is an endless path. A service that is described has outlines, and outlines are finite, so no
schema that it starts from has such a path. -/

namespace SwaggerService
open Service

namespace Loaded

/-- The schema that a part unfolds to: one that is written in place, or the definition of an array. -/
def unfolded? (l : Loaded) : RefOr Schema → Option Schema
  | .item s => some s
  | .ref target =>
    match Pointer.parse? target with
    | some (.definition name) => (Entries.get? name l.document.definitions).filter (·.kind == .array)
    | _ => none

/-- The schemas of those parts that can be resolved. -/
def resolved (l : Loaded) (nodes : List (RefOr Schema)) : List Schema :=
  nodes.filterMap fun node => (l.schema node).toOption

/-- The schemas that a schema expands to. -/
def expansions (l : Loaded) (s : Schema) : List Schema :=
  match s.kind with
  | .object =>
    if s.allOf.isEmpty then l.resolved (s.properties.map (·.2))
    else (l.resolved s.allOf).flatMap fun member => l.resolved (member.properties.map (·.2))
  | .array => (s.items.bind l.unfolded?).toList
  | _ => []

/-- The schema that a parameter starts from: that of a body, or else its own keywords. -/
def parameterStart? (l : Loaded) (p : Parameter) : Option Schema :=
  if p.isBody then p.schema.bind l.unfolded? else some p.fields

/-- The schema that the result of an operation starts from: that of the response that describes success. -/
def resultStart? (l : Loaded) (o : Operation) : Option Schema :=
  (SuccessKey.select o.responses).bind fun success =>
    (l.response success.2).toOption.bind fun response => response.schema.bind l.unfolded?

/-- The schemas that an operation starts from: those of its parameters, and that of its result. -/
def operationStarts (l : Loaded) (o : Operation) (shared : List (RefOr Parameter)) : List Schema :=
  (o.parameters ++ shared).filterMap (fun node => (l.parameter node).toOption.bind l.parameterStart?) ++
    (l.resultStart? o).toList

/-- The schemas that a document starts from: its object definitions, and those of its operations. -/
def starts (l : Loaded) : List Schema :=
  l.document.objectDefinitions.map (·.2) ++ l.document.paths.flatMap fun (_, item) =>
    item.operations.flatMap fun (_, o) => l.operationStarts o item.parameters

/-- The schema can be expanded without end. -/
def Endless (l : Loaded) (s : Schema) : Prop :=
  ∃ path : Nat → Schema, path 0 = s ∧ ∀ n, path (n + 1) ∈ l.expansions (path n)

/-- A schema is inside those that expand to it. -/
def Inside (l : Loaded) (t s : Schema) : Prop := t ∈ l.expansions s

/-- Every path of expansions from the schema has fewer than so many steps. -/
def Within (l : Loaded) : Nat → Schema → Prop
  | 0, _ => False
  | n + 1, s => ∀ t ∈ l.expansions s, l.Within n t

variable {l : Loaded}

theorem endless_iff {s : Schema} : l.Endless s ↔ ¬ Acc l.Inside s := by
  rw [acc_iff_isEmpty_descending_chain, not_isEmpty_iff, nonempty_subtype]
  rfl

/-! ## Bounds -/

theorem Within.mono {n m : Nat} {s : Schema} (h : l.Within n s) (hle : n ≤ m) : l.Within m s := by
  induction n generalizing m s with
  | zero => exact h.elim
  | succ n ih =>
    cases m with
    | zero => exact absurd hle (Nat.not_succ_le_zero n)
    | succ m => exact fun t ht => ih (h t ht) (Nat.le_of_succ_le_succ hle)

/-- Bounds for each of finitely many schemas give one for all of them. -/
theorem exists_within {schemas : List Schema} (h : ∀ s ∈ schemas, ∃ n, l.Within n s) :
    ∃ n, ∀ s ∈ schemas, l.Within n s := by
  induction schemas with
  | nil => exact ⟨0, nofun⟩
  | cons s rest ih =>
    obtain ⟨hs, hrest⟩ := List.forall_mem_cons.mp h
    obtain ⟨n, hn⟩ := hs
    obtain ⟨m, hm⟩ := ih hrest
    refine ⟨max n m, List.forall_mem_cons.mpr ⟨hn.mono (Nat.le_max_left n m), ?_⟩⟩
    exact fun t ht => (hm t ht).mono (Nat.le_max_right n m)

/-- Expansions branch finitely, so where none is endless they are bounded. -/
theorem within_of_not_endless {s : Schema} (h : ¬ l.Endless s) : ∃ n, l.Within n s := by
  rw [endless_iff, not_not] at h
  induction h with
  | intro s _ ih =>
    obtain ⟨n, hn⟩ := exists_within ih
    exact ⟨n + 1, hn⟩

/-! ## Outlines -/

theorem resolved_cons {node : RefOr Schema} {s : Schema} (rest : List (RefOr Schema))
    (h : l.schema node = .ok s) : l.resolved (node :: rest) = s :: l.resolved rest := by
  have hfirst : (l.schema node).toOption = some s := by rw [h]; rfl
  simp only [resolved, List.filterMap_cons, hfirst]

theorem resolved_fieldSchemas {required : List String} {properties : List (String × RefOr Schema)}
    {fields : List (Label × Schema)} (h : l.fieldSchemas required properties = .ok fields) :
    l.resolved (properties.map (·.2)) = fields.map (·.2) := by
  induction properties generalizing fields with
  | nil =>
    cases h
    rfl
  | cons entry rest ih =>
    obtain ⟨name, node⟩ := entry
    obtain ⟨s, hs, h⟩ := bind_ok h
    obtain ⟨others, hothers, h⟩ := bind_ok h
    cases h
    rw [List.map_cons, List.map_cons, resolved_cons _ hs, ih hothers]

theorem resolved_memberSchemas {required : List String} {members : List (RefOr Schema)}
    {fields : List (Label × Schema)} (h : l.memberSchemas required members = .ok fields) :
    (l.resolved members).flatMap (fun member => l.resolved (member.properties.map (·.2))) =
      fields.map (·.2) := by
  induction members generalizing fields with
  | nil =>
    cases h
    rfl
  | cons member rest ih =>
    obtain ⟨s, hs, h⟩ := bind_ok h
    obtain ⟨own, hown, h⟩ := bind_ok h
    obtain ⟨others, hothers, h⟩ := bind_ok h
    cases h
    rw [resolved_cons _ hs, List.flatMap_cons, List.map_append, resolved_fieldSchemas hown, ih hothers]

theorem expansions_object {s : Schema} {fields : List (Label × Schema)} (hk : s.kind = .object)
    (h : l.fieldsOf s = .ok fields) : l.expansions s = fields.map (·.2) := by
  unfold fieldsOf at h
  unfold expansions
  rw [hk]
  dsimp only
  split at h
  · next hown =>
    rw [if_pos hown]
    exact resolved_fieldSchemas h
  · next hcomposed =>
    rw [if_neg hcomposed]
    exact resolved_memberSchemas h

theorem expansions_array {s : Schema} (hk : s.kind = .array) :
    l.expansions s = (s.items.bind l.unfolded?).toList := by
  rw [expansions, hk]

theorem expansions_eq_nil {s : Schema} (ho : s.kind ≠ .object) (ha : s.kind ≠ .array) :
    l.expansions s = [] := by
  unfold expansions
  split <;> first | rfl | contradiction

theorem unfolded?_definition {target name : String} {s : Schema}
    (hp : Pointer.parse? target = some (.definition name)) (hs : l.schemaAt target = .ok s) :
    l.unfolded? (.ref target) = if s.kind = .array then some s else none := by
  rw [schemaAt_definition hp, entry] at hs
  simp only [unfolded?, hp]
  split at hs
  · next part hget =>
    cases hs
    rw [hget, Option.filter_some]
    simp only [beq_iff_eq]
  · cases hs

/-- What a part unfolds to has the outline of the part. -/
theorem PartOutline.unfolded {part : Option (RefOr Schema)} {o : Outline} {t : Schema}
    (h : l.PartOutline part o) (ht : part.bind l.unfolded? = some t) : l.SchemaOutline t o := by
  cases h with
  | missing => cases ht
  | part h =>
    rw [Option.bind_some] at ht
    cases h with
    | item h =>
      cases ht
      exact h
    | other hp hn =>
      simp only [unfolded?, hp] at ht
      split at ht
      · next name he => exact absurd (Option.some.inj he) (hn name)
      · cases ht
    | definition hp hs hr h =>
      rw [unfolded?_definition hp hs] at ht
      split at ht
      · next hk =>
        cases ht
        cases h with
        | array _ hi => exact .array hr hk hi
        | object ho => rw [hk] at ho; cases ho
        | bare _ ha => exact absurd hk ha
      · cases ht

theorem acc_of_fields {s : Schema} {fields : List (Label × Schema)} (hk : s.kind = .object)
    (hf : l.fieldsOf s = .ok fields) (h : ∀ field ∈ fields, Acc l.Inside field.2) : Acc l.Inside s := by
  refine ⟨_, fun t ht => ?_⟩
  rw [Inside, expansions_object hk hf] at ht
  obtain ⟨field, hm, rfl⟩ := List.mem_map.mp ht
  exact h field hm

mutual

/-- Outlines are finite, so the schemas that have one do not expand without end. -/
theorem SchemaOutline.acc : ∀ (o : Outline) {s : Schema}, l.SchemaOutline s o → Acc l.Inside s
  | .leaf _, _, h => by
    cases h with
    | bare _ ho ha =>
      refine ⟨_, fun t ht => ?_⟩
      rw [Inside, expansions_eq_nil ho ha] at ht
      cases ht
  | .enum .., _, h => by
    cases h with
    | enum _ hk =>
      refine ⟨_, fun t ht => ?_⟩
      rw [Inside, expansions_eq_nil (by rw [hk]; nofun) (by rw [hk]; nofun)] at ht
      cases ht
  | .array _ items, _, h => by
    cases h with
    | array _ hk hi =>
      refine ⟨_, fun t ht => SchemaOutline.acc items (hi.unfolded ?_)⟩
      rwa [Inside, expansions_array hk, Option.mem_toList] at ht
  | .object _ _ _ slots, _, h => by
    cases h with
    | object _ hk hf ho => exact acc_of_fields hk hf (FieldsOutline.acc slots ho)

theorem FieldsOutline.acc : ∀ (slots : List (Label × Outline)) {fields : List (Label × Schema)},
    l.FieldsOutline fields slots → ∀ field ∈ fields, Acc l.Inside field.2
  | [], _, .nil, _, hm => nomatch hm
  | (_, o) :: rest, _, .cons hs hrest, field, hm => by
    rcases List.mem_cons.mp hm with rfl | hm
    · exact SchemaOutline.acc o hs
    · exact FieldsOutline.acc rest hrest field hm

end

theorem mem_parameterRoots {parentName : String} {nodes : List (RefOr Parameter)} {roots : List Root}
    (h : l.parameterRoots parentName nodes = .ok roots) {node : RefOr Parameter} {p : Parameter}
    (hn : node ∈ nodes) (hp : l.parameter node = .ok p) : p.root parentName ∈ roots := by
  induction nodes generalizing roots with
  | nil => cases hn
  | cons first rest ih =>
    obtain ⟨q, hq, h⟩ := bind_ok h
    obtain ⟨others, hothers, h⟩ := bind_ok h
    cases h
    rcases List.mem_cons.mp hn with rfl | hn
    · rw [hq] at hp
      cases hp
      exact List.mem_cons_self
    · exact List.mem_cons_of_mem _ (ih hothers hn)

theorem parameterStart?_eq (p : Parameter) (parentName : String) :
    l.parameterStart? p = (p.root parentName).part.bind l.unfolded? := by
  unfold parameterStart? Parameter.root
  split
  · rfl
  · rfl

theorem exists_resultRoot {o : Operation} {result : Option Root} (h : l.resultRoot o = .ok result)
    {s : Schema} (hs : l.resultStart? o = some s) :
    ∃ root ∈ result, root.part.bind l.unfolded? = some s := by
  unfold resultRoot at h
  unfold resultStart? at hs
  cases hsuccess : SuccessKey.select o.responses with
  | none => rw [hsuccess] at hs; cases hs
  | some success =>
    rw [hsuccess] at h hs
    obtain ⟨response, hresponse, h⟩ := bind_ok h
    cases h
    rw [Option.bind_some, hresponse] at hs
    change response.schema.bind l.unfolded? = some s at hs
    cases hschema : response.schema with
    | none => rw [hschema] at hs; cases hs
    | some node =>
      rw [hschema] at hs
      exact ⟨_, rfl, hs⟩

end Loaded

variable {l : Loaded}

/-- Whatever an operation starts from is what one of its roots unfolds to. -/
theorem MethodOutline.Draws.exists_root {m : MethodOutline} (h : m.Draws l) {s : Schema}
    (hs : s ∈ l.operationStarts m.operation m.shared) :
    ∃ r ∈ m.roots, r.1.part.bind l.unfolded? = some s := by
  rcases List.mem_append.mp hs with hs | hs
  · obtain ⟨node, hnode, hs⟩ := List.mem_filterMap.mp hs
    cases hp : l.parameter node with
    | error fault => rw [hp] at hs; cases hs
    | ok p =>
      rw [hp] at hs
      obtain ⟨r, hr, hroot⟩ := List.mem_map.mp (Loaded.mem_parameterRoots h.parameters hnode hp)
      refine ⟨r, List.mem_append_left _ hr, ?_⟩
      rw [hroot, ← Loaded.parameterStart?_eq]
      exact hs
  · obtain ⟨root, hroot, hpart⟩ := Loaded.exists_resultRoot h.result (Option.mem_toList.mp hs)
    obtain ⟨r, hr, rfl⟩ := Option.mem_map.mp hroot
    exact ⟨r, List.mem_append_right _ (Option.mem_toList.mpr hr), hpart⟩

/-- What a described document starts from does not expand without end. -/
theorem Loaded.not_endless_of_describe {maxDepth : Nat} {service : Service}
    (h : l.describe maxDepth = .ok service) {s : Schema} (hs : s ∈ l.starts) : ¬ l.Endless s := by
  rw [endless_iff, not_not]
  obtain ⟨b, hb⟩ := exists_blueprint h
  rcases List.mem_append.mp hs with hs | hs
  · obtain ⟨entry, hentry, rfl⟩ := List.mem_map.mp hs
    have hk : entry.2.kind = .object := beq_iff_eq.mp (List.mem_filter.mp hentry).2
    rw [← hb.definitions] at hentry
    obtain ⟨t, ht, rfl⟩ := List.mem_map.mp hentry
    obtain ⟨fields, hf, ho⟩ := hb.fields t ht
    exact acc_of_fields hk hf (FieldsOutline.acc t.fields ho)
  · obtain ⟨⟨path, item⟩, hpath, hs⟩ := List.mem_flatMap.mp hs
    obtain ⟨⟨verb, o⟩, ho, hs⟩ := List.mem_flatMap.mp hs
    have hop : (o, item.parameters) ∈ l.document.operations :=
      Document.mem_operations.mpr ⟨path, item, verb, hpath, ho, rfl⟩
    rw [← hb.operations] at hop
    obtain ⟨m, hm, he⟩ := List.mem_map.mp hop
    obtain ⟨rfl, hshared⟩ := Prod.mk.inj he
    dsimp only at hs
    rw [← hshared] at hs
    obtain ⟨r, hr, hpart⟩ := (hb.methods m hm).exists_root hs
    exact SchemaOutline.acc r.2 (((hb.methods m hm).parts r hr).unfolded hpart)

end SwaggerService
