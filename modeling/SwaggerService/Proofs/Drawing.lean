import SwaggerService.Proofs.Returns
import SwaggerService.Proofs.SchemaOutline

/-! # Walks draw outlines

Whatever a successful walk over a schema returns and leaves in the registry is read off one outline of
that schema: the descriptor is that of the outline, the names are taken and the types and enumerations are
added in its order, and nothing else changes. The outline has no depth, so a walk leaves the depth as it
was. -/

namespace SwaggerService
open Service Walk

namespace Registry

/-- The registry after some names were taken and all that is named among outlines was added. -/
def absorb (r : Registry) (claims : List String) (nodes : List Outline) : Registry where
  names := take r.names claims
  types := r.types ++ nodes.filterMap Outline.typeDef?
  enums := r.enums ++ nodes.filterMap Outline.enumDef?
  depth := r.depth
  maxDepth := r.maxDepth

theorem absorb_nil (r : Registry) : r.absorb [] [] = r := by
  simp [absorb, take]

theorem absorb_absorb (r : Registry) (xs ys : List String) (us vs : List Outline) :
    (r.absorb xs us).absorb ys vs = r.absorb (xs ++ ys) (us ++ vs) := by
  simp only [absorb, take_append, List.filterMap_append, List.append_assoc]

end Registry

/-- An outline describes what happened between two states: its names are those that the first state leaves
free, and its entries are what the second one has more. -/
structure Drawn (o : Outline) (localName parentName : String) (run run' : Run) : Prop where
  named : o.Named run.registry.names localName parentName
  registry : run'.registry = run.registry.absorb o.claims o.nodes

/-- The same of slots, one after the other. -/
structure DrawnIn (slots : List Slot) (parentName : String) (run run' : Run) : Prop where
  named : Outline.NamedIn slots run.registry.names parentName
  registry : run'.registry = run.registry.absorb (Outline.claimsIn slots) (Outline.nodesIn slots)

theorem Drawn.leaf {d : Descriptor} {localName parentName : String} {run run' : Run}
    (h : run'.registry = run.registry) : Drawn (.leaf d) localName parentName run run' :=
  ⟨trivial, by rw [h]; exact (Registry.absorb_nil _).symm⟩

theorem Drawn.congr {o : Outline} {localName parentName : String} {run mid run' : Run}
    (hr : mid.registry = run.registry) (h : Drawn o localName parentName mid run') :
    Drawn o localName parentName run run' :=
  ⟨hr ▸ h.named, hr ▸ h.registry⟩

theorem Drawn.level {o : Outline} {localName parentName : String} {run mid : Run}
    (h : Drawn o localName parentName run.deeper mid) : Drawn o localName parentName run mid.left :=
  ⟨h.named, by rw [Run.left, h.registry]; rfl⟩

theorem DrawnIn.level {slots : List Slot} {parentName : String} {run mid : Run}
    (h : DrawnIn slots parentName run.deeper mid) : DrawnIn slots parentName run mid.left :=
  ⟨h.named, by rw [Run.left, h.registry]; rfl⟩

theorem DrawnIn.nil {parentName : String} {run : Run} : DrawnIn [] parentName run run :=
  ⟨trivial, (Registry.absorb_nil _).symm⟩

theorem Drawn.slot (label : Label) {o : Outline} {parentName : String} {run run' : Run}
    (h : Drawn o label.name parentName run run') : DrawnIn [(label, o)] parentName run run' :=
  ⟨⟨h.named, trivial⟩, by simp only [Outline.claimsIn, Outline.nodesIn, List.append_nil]; exact h.registry⟩

theorem DrawnIn.append {xs ys : List Slot} {parentName : String} {run mid run' : Run}
    (hx : DrawnIn xs parentName run mid) (hy : DrawnIn ys parentName mid run') :
    DrawnIn (xs ++ ys) parentName run run' := by
  refine ⟨Outline.namedIn_append hx.named ?_, ?_⟩
  · have hn := hy.named
    rw [hx.registry] at hn
    exact hn
  · rw [hy.registry, hx.registry, Registry.absorb_absorb, Outline.claimsIn_append, Outline.nodesIn_append]

/-- An object takes its name first, then everything inside it is drawn, and then it is added. -/
theorem Drawn.object {name : String} {s : Schema} {rules : List Rule} {slots : List Slot}
    {localName parentName : String} {run mid inner run' : Run}
    (hn : name = Registry.freeName run.registry.names (typeCandidate parentName localName))
    (hm : mid.registry = run.registry.reserve name) (hs : DrawnIn slots name mid inner)
    (ha : run'.registry =
      inner.registry.addType ⟨name, s.description, slots.map Slot.property, s.objectRules⟩) :
    Drawn (.object name s rules slots) localName parentName run run' := by
  refine ⟨⟨hn, ?_⟩, ?_⟩
  · have hnames := hs.named
    rw [hm] at hnames
    exact hnames
  · rw [ha, hs.registry, hm]
    simp [Registry.absorb, Registry.addType, Registry.reserve, Outline.claims, Outline.nodes,
      Outline.typeDef?, Outline.enumDef?, Registry.take]

/-! ## Classification -/

/-- The three walks of a level all draw outlines. -/
structure Walker.Draws (l : Loaded) (w : Walker) : Prop where
  node : ∀ {part localName parentName run d run'}, Returns (w.node part localName parentName) run d run' →
    ∃ o, l.NodeOutline part o ∧ d = o.descriptor ∧ Drawn o localName parentName run run'
  schema : ∀ {s localName parentName run d run'}, Returns (w.schema s localName parentName) run d run' →
    ∃ o, l.SchemaOutline s o ∧ d = o.descriptor ∧ Drawn o localName parentName run run'
  properties : ∀ {s parentName run properties run'},
    Returns (w.properties s parentName) run properties run' →
    ∃ fields slots, l.fieldsOf s = .ok fields ∧ l.FieldsOutline fields slots ∧
      properties = slots.map Slot.property ∧ DrawnIn slots parentName run run'

namespace Walker

variable {l : Loaded} {below : Unit → Walker} {localName parentName : String} {run run' : Run}

/-- A kind that says too little is noted, and gives an unknown descriptor. -/
theorem untyped_returns {kind : Kind} {e : Event} {rules : List Rule} {d : Descriptor}
    (hk : kind = .file ∨ kind = .unrecognized)
    (h : Returns (do note e; return Descriptor.unknown rules) run d run') :
    kind ≠ .string ∧ kind ≠ .object ∧ kind ≠ .array ∧ d = .bare kind rules ∧
      run'.registry = run.registry := by
  obtain ⟨_, mid, hnote, h⟩ := Returns.bind h
  obtain ⟨rfl, rfl⟩ := Returns.pure h
  rcases hk with rfl | rfl
  · exact ⟨nofun, nofun, nofun, rfl, note_returns hnote⟩
  · exact ⟨nofun, nofun, nofun, rfl, note_returns hnote⟩

theorem array_draws {s : Schema} {rules : List Rule} {d : Descriptor} (hb : (below ()).Draws l)
    (h : Returns (array below s localName parentName rules) run d run') :
    ∃ o, l.PartOutline s.items o ∧ d = (Outline.array rules o).descriptor ∧
      Drawn (.array rules o) localName parentName run run' := by
  unfold array at h
  cases hi : s.items with
  | none =>
    rw [hi] at h
    obtain ⟨item, mid, hitem, h⟩ := Returns.bind h
    obtain ⟨rfl, rfl⟩ := Returns.pure hitem
    obtain ⟨rfl, rfl⟩ := Returns.pure h
    have hd : Drawn (.leaf (.unknown [])) localName parentName run run := .leaf rfl
    exact ⟨_, .missing, rfl, hd.named, hd.registry⟩
  | some items =>
    rw [hi] at h
    obtain ⟨item, mid, hitem, h⟩ := Returns.bind h
    obtain ⟨o, ho, rfl, hd⟩ := hb.node hitem
    obtain ⟨rfl, rfl⟩ := Returns.pure h
    exact ⟨o, .part ho, rfl, hd.named, hd.registry⟩

theorem reference_draws {target : String} {d : Descriptor} (hb : (below ()).Draws l)
    (h : Returns (reference l below target localName parentName) run d run') :
    ∃ o, l.NodeOutline (.ref target) o ∧ d = o.descriptor ∧ Drawn o localName parentName run run' := by
  obtain ⟨p, r₁, hpointer, h⟩ := Returns.bind h
  obtain ⟨s, r₂, hschema, h⟩ := Returns.bind h
  obtain ⟨rules, r₃, hrules, h⟩ := Returns.bind h
  obtain ⟨hp, hr₁⟩ := outcome_returns hpointer
  obtain ⟨hs, hr₂⟩ := schemaAt_returns hschema
  obtain ⟨hr, hr₃⟩ := ruleSet_returns hrules
  have hreg : r₃.registry = run.registry := by rw [hr₃, hr₂, hr₁]
  have hp := Loaded.parse_of_pointer hp
  split at h
  · next name =>
    split at h
    · next hk =>
      obtain ⟨rfl, rfl⟩ := Returns.pure h
      exact ⟨_, .definition hp hs hr (.object hk), rfl, .leaf hreg⟩
    · next hk =>
      obtain ⟨o, ho, rfl, hd⟩ := array_draws hb h
      exact ⟨_, .definition hp hs hr (.array hk ho), rfl, hd.congr hreg⟩
    · next hk =>
      obtain ⟨_, ho, ha, rfl, hnote⟩ := untyped_returns (.inl hk) h
      exact ⟨_, .definition hp hs hr (.bare ho ha), rfl, .leaf (hnote.trans hreg)⟩
    · next hk =>
      obtain ⟨_, ho, ha, rfl, hnote⟩ := untyped_returns (.inr hk) h
      exact ⟨_, .definition hp hs hr (.bare ho ha), rfl, .leaf (hnote.trans hreg)⟩
    · next hobject harray hfile hunrecognized =>
      obtain ⟨rfl, rfl⟩ := Returns.pure h
      exact ⟨_, .definition hp hs hr (.bare hobject harray),
        (Descriptor.bare_plain rules hfile hunrecognized).symm, .leaf hreg⟩
  · next hnot =>
    obtain ⟨rfl, rfl⟩ := Returns.pure h
    exact ⟨_, .other hp hnot hs hr, rfl, .leaf hreg⟩

theorem nameEnum_draws {s : Schema} {values : List String} {rules : List Rule} {d : Descriptor}
    (hr : l.ruleSet s = .ok rules) (hk : s.kind = .string) (hv : s.enumStrings = some values)
    (hne : values ≠ []) (h : Returns (nameEnum values localName parentName rules) run d run') :
    ∃ o, l.SchemaOutline s o ∧ d = o.descriptor ∧ Drawn o localName parentName run run' := by
  obtain ⟨name, r₁, hclaim, h⟩ := Returns.bind h
  obtain ⟨_, r₂, hadd, h⟩ := Returns.bind h
  obtain ⟨rfl, rfl⟩ := Returns.pure h
  obtain ⟨hname, hreg⟩ := claim_returns hclaim
  refine ⟨_, .enum hr hk hv hne, rfl, hname, ?_⟩
  rw [addEnum_returns hadd, hreg]
  simp [Registry.absorb, Registry.addEnum, Registry.reserve, Registry.take, Outline.claims, Outline.nodes,
    Outline.typeDef?, Outline.enumDef?]

theorem nameObject_draws {s : Schema} {rules : List Rule} {d : Descriptor} (hb : (below ()).Draws l)
    (hr : l.ruleSet s = .ok rules) (hk : s.kind = .object)
    (h : Returns (nameObject below s localName parentName rules) run d run') :
    ∃ o, l.SchemaOutline s o ∧ d = o.descriptor ∧ Drawn o localName parentName run run' := by
  obtain ⟨name, r₁, hclaim, h⟩ := Returns.bind h
  obtain ⟨properties, r₂, hinside, h⟩ := Returns.bind h
  obtain ⟨_, r₃, hadd, h⟩ := Returns.bind h
  obtain ⟨rfl, rfl⟩ := Returns.pure h
  obtain ⟨hname, hreg⟩ := claim_returns hclaim
  obtain ⟨fields, slots, hf, ho, rfl, hd⟩ := hb.properties hinside
  exact ⟨_, .object hr hk hf ho, rfl, .object hname hreg hd (addType_returns hadd)⟩

theorem inline_draws {s : Schema} {d : Descriptor} (hb : (below ()).Draws l)
    (h : Returns (inline l below s localName parentName) run d run') :
    ∃ o, l.SchemaOutline s o ∧ d = o.descriptor ∧ Drawn o localName parentName run run' := by
  obtain ⟨rules, r₁, hrules, h⟩ := Returns.bind h
  obtain ⟨hr, hreg⟩ := ruleSet_returns hrules
  split at h
  · next hk =>
    split at h
    · next value values hv =>
      obtain ⟨o, ho, rfl, hd⟩ := nameEnum_draws hr hk hv (List.cons_ne_nil _ _) h
      exact ⟨o, ho, rfl, hd.congr hreg⟩
    · next hnone =>
      obtain ⟨rfl, rfl⟩ := Returns.pure h
      have hv : s.enumStrings.getD [] = [] := by
        match hs : s.enumStrings with
        | none | some [] => rfl
        | some (value :: values) => exact (hnone value values hs).elim
      exact ⟨_, .bare hr (by rw [hk]; nofun) (by rw [hk]; nofun) (fun _ => hv), by rw [hk]; rfl, .leaf hreg⟩
  · next hk =>
    obtain ⟨o, ho, rfl, hd⟩ := array_draws hb h
    exact ⟨_, .array hr hk ho, rfl, hd.congr hreg⟩
  · next hk =>
    obtain ⟨o, ho, rfl, hd⟩ := nameObject_draws hb hr hk h
    exact ⟨o, ho, rfl, hd.congr hreg⟩
  · next hk =>
    obtain ⟨hs, ho, ha, rfl, hnote⟩ := untyped_returns (.inl hk) h
    exact ⟨_, .bare hr ho ha (fun hk => (hs hk).elim), rfl, .leaf (hnote.trans hreg)⟩
  · next hk =>
    obtain ⟨hs, ho, ha, rfl, hnote⟩ := untyped_returns (.inr hk) h
    exact ⟨_, .bare hr ho ha (fun hk => (hs hk).elim), rfl, .leaf (hnote.trans hreg)⟩
  · next hstring harray hobject hfile hunrecognized =>
    obtain ⟨rfl, rfl⟩ := Returns.pure h
    exact ⟨_, .bare hr hobject harray (fun hk => (hstring hk).elim),
      (Descriptor.bare_plain rules hfile hunrecognized).symm, .leaf hreg⟩

theorem property_draws {required : List String} {name : String} {node : RefOr Schema} {p : Property}
    (hb : (below ()).Draws l) (h : Returns (property l below required parentName name node) run p run') :
    ∃ s o, l.schema node = .ok s ∧ l.SchemaOutline s o ∧
      p = Slot.property (⟨name, s.description, required.contains name⟩, o) ∧
      Drawn o name parentName run run' := by
  obtain ⟨s, r₁, hschema, h⟩ := Returns.bind h
  obtain ⟨type, r₂, htype, h⟩ := Returns.bind h
  obtain ⟨rfl, rfl⟩ := Returns.pure h
  obtain ⟨hs, hreg⟩ := schema_returns hschema
  obtain ⟨o, ho, rfl, hd⟩ := hb.schema htype
  exact ⟨s, o, hs, ho, rfl, hd.congr hreg⟩

theorem ownProperties_draws {required : List String} {nodes : List (String × RefOr Schema)}
    {properties : List Property} (hb : (below ()).Draws l)
    (h : Returns (ownProperties l below required parentName nodes) run properties run') :
    ∃ fields slots, l.fieldSchemas required nodes = .ok fields ∧ l.FieldsOutline fields slots ∧
      properties = slots.map Slot.property ∧ DrawnIn slots parentName run run' := by
  induction nodes generalizing run properties with
  | nil =>
    obtain ⟨rfl, rfl⟩ := Returns.pure h
    exact ⟨[], [], rfl, .nil, rfl, .nil⟩
  | cons entry rest ih =>
    obtain ⟨name, node⟩ := entry
    obtain ⟨first, r₁, hfirst, h⟩ := Returns.bind h
    obtain ⟨others, r₂, hothers, h⟩ := Returns.bind h
    obtain ⟨rfl, rfl⟩ := Returns.pure h
    obtain ⟨s, o, hs, ho, rfl, hd⟩ := property_draws hb hfirst
    obtain ⟨fields, slots, hf, hfo, rfl, hds⟩ := ih hothers
    refine ⟨_, (_, o) :: slots, ?_, .cons ho hfo, rfl, DrawnIn.append (Drawn.slot _ hd) hds⟩
    rw [Loaded.fieldSchemas, hs, hf]
    rfl

theorem memberProperties_draws {required : List String} {members : List (RefOr Schema)}
    {properties : List Property} (hb : (below ()).Draws l)
    (h : Returns (memberProperties l below required parentName members) run properties run') :
    ∃ fields slots, l.memberSchemas required members = .ok fields ∧ l.FieldsOutline fields slots ∧
      properties = slots.map Slot.property ∧ DrawnIn slots parentName run run' := by
  induction members generalizing run properties with
  | nil =>
    obtain ⟨rfl, rfl⟩ := Returns.pure h
    exact ⟨[], [], rfl, .nil, rfl, .nil⟩
  | cons member rest ih =>
    obtain ⟨s, r₁, hschema, h⟩ := Returns.bind h
    obtain ⟨own, r₂, hown, h⟩ := Returns.bind h
    obtain ⟨others, r₃, hothers, h⟩ := Returns.bind h
    obtain ⟨rfl, rfl⟩ := Returns.pure h
    obtain ⟨hs, hreg⟩ := schema_returns hschema
    obtain ⟨xs, us, hx, hxo, rfl, hdx⟩ := ownProperties_draws hb hown
    obtain ⟨ys, vs, hy, hyo, rfl, hdy⟩ := ih hothers
    refine ⟨xs ++ ys, us ++ vs, ?_, hxo.append hyo, List.map_append.symm, ?_⟩
    · rw [Loaded.memberSchemas, hs]
      simp only [bind, Except.bind, hx, hy]
      rfl
    · have hall := hdx.append hdy
      exact ⟨hreg ▸ hall.named, hreg ▸ hall.registry⟩

theorem allProperties_draws {s : Schema} {properties : List Property} (hb : (below ()).Draws l)
    (h : Returns (allProperties l below s parentName) run properties run') :
    ∃ fields slots, l.fieldsOf s = .ok fields ∧ l.FieldsOutline fields slots ∧
      properties = slots.map Slot.property ∧ DrawnIn slots parentName run run' := by
  unfold allProperties at h
  unfold Loaded.fieldsOf
  split at h
  · next hall =>
    rw [if_pos hall]
    exact ownProperties_draws hb h
  · next hall =>
    rw [if_neg hall]
    exact memberProperties_draws hb h

theorem above_draws (hb : (below ()).Draws l) : (above l below).Draws l where
  node {part localName parentName run d run'} h := by
    change Returns (level _ _) run d run' at h
    obtain ⟨mid, hbody, rfl⟩ := level_returns h
    cases part with
    | ref target =>
      obtain ⟨o, ho, hdesc, hd⟩ := reference_draws hb hbody
      exact ⟨o, ho, hdesc, hd.level⟩
    | item s =>
      obtain ⟨o, ho, hdesc, hd⟩ := inline_draws hb hbody
      exact ⟨o, .item ho, hdesc, hd.level⟩
  schema {s localName parentName run d run'} h := by
    change Returns (level _ (inline l below s localName parentName)) run d run' at h
    obtain ⟨mid, hbody, rfl⟩ := level_returns h
    obtain ⟨o, ho, hdesc, hd⟩ := inline_draws hb hbody
    exact ⟨o, ho, hdesc, hd.level⟩
  properties {s parentName run properties run'} h := by
    change Returns (level parentName (allProperties l below s parentName)) run properties run' at h
    obtain ⟨mid, hbody, rfl⟩ := level_returns h
    obtain ⟨fields, slots, hf, ho, hp, hd⟩ := allProperties_draws hb hbody
    exact ⟨fields, slots, hf, ho, hp, hd.level⟩

/-- Every walk draws an outline, however many levels it has. -/
theorem withRoom_draws (l : Loaded) : ∀ room, (withRoom l room).Draws l
  | 0 => {
      node := fun h => (refuse_returns h).elim
      schema := fun h => (refuse_returns h).elim
      properties := fun h => (refuse_returns h).elim }
  | room + 1 => above_draws (withRoom_draws l room)

end Walker

end SwaggerService
