import SwaggerService.Proofs.Lookups

/-! # Walks side by side

Two walks over documents that differ somewhere are compared step by step. A coupling says which states
correspond and which faults do, and that every step from corresponding states ends alike; it may leave open
which names are given. What corresponds at the start then corresponds at the end, because whatever a walk
does next depends on what it was told so far and on nothing else. -/

namespace SwaggerService
open Service Walk

/-! ## Couplings -/

/-- How walks over two documents correspond. Names have to be the same when the coupling is `exact`. -/
structure Coupling (l l' : Loaded) where
  reach : Reach
  exact : Prop
  registry : Registry → Registry → Prop
  fault : Fault → Fault → Prop
  lookups : Loaded.Lookups reach fault l l'
  fault_deep : ∀ {limit : Nat} {place place' : String}, (exact → place' = place) →
    fault (.depthExceeded limit place) (.depthExceeded limit place')
  depth : ∀ {r r' : Registry}, registry r r' → r'.depth = r.depth ∧ r'.maxDepth = r.maxDepth
  atDepth : ∀ {r r' : Registry} (depth : Nat), registry r r' →
    registry { r with depth } { r' with depth }
  claim : ∀ {r r' : Registry} {candidate candidate' : String}, registry r r' →
    (exact → candidate' = candidate) → (exact → (r'.claim candidate').1 = (r.claim candidate).1) ∧
      registry (r.claim candidate).2 (r'.claim candidate').2
  addEnum : ∀ {r r' : Registry} {e e' : EnumDef}, registry r r' → (exact → e' = e) →
    registry (r.addEnum e) (r'.addEnum e')
  addType : ∀ {r r' : Registry} {t t' : TypeDef}, registry r r' → (exact → t' = t) →
    registry (r.addType t) (r'.addType t')
  entries : ∀ {r r' : Registry}, registry r r' → exact → r'.types = r.types ∧ r'.enums = r.enums

namespace Coupling

variable {l l' : Loaded} {c : Coupling l l'} {α β : Type} {V : α → α → Prop} {W : β → β → Prop}

/-- The same on both sides, as far as names are. -/
def Same (c : Coupling l l') (a a' : α) : Prop := c.exact → a' = a

theorem Same.refl (a : α) : c.Same a a := fun _ => rfl

theorem Same.map (f : α → β) {a a' : α} (h : c.Same a a') : c.Same (f a) (f a') :=
  fun he => congrArg f (h he)

theorem Same.map₂ {γ : Type} (f : α → β → γ) {a a' : α} {b b' : β} (ha : c.Same a a') (hb : c.Same b b') :
    c.Same (f a b) (f a' b') := fun he => by rw [ha he, hb he]

/-- Two walks end alike: with values that correspond in states that do, or with faults that do. -/
inductive Ends (c : Coupling l l') (V : α → α → Prop) :
    Except Fault α × Run → Except Fault α × Run → Prop
  | ok {a a' : α} {run run' : Run} : V a a' → c.registry run.registry run'.registry →
      Ends c V (.ok a, run) (.ok a', run')
  | error {f f' : Fault} {run run' : Run} : c.fault f f' → Ends c V (.error f, run) (.error f', run')

/-- From states that correspond two walks end alike. -/
def Walks (c : Coupling l l') (V : α → α → Prop) (w w' : Walk α) : Prop :=
  ∀ run run', c.registry run.registry run'.registry → c.Ends V (w run) (w' run')

/-! ## Steps -/

theorem Walks.bind {w w' : Walk α} {f f' : α → Walk β} (hw : c.Walks V w w')
    (hf : ∀ a a', V a a' → c.Walks W (f a) (f' a')) : c.Walks W (w >>= f) (w' >>= f') := by
  intro run run' h
  have hends := hw run run' h
  rw [bind_eq, bind_eq]
  generalize w run = e at hends ⊢
  generalize w' run' = e' at hends ⊢
  cases hends with
  | ok ha hr => exact hf _ _ ha _ _ hr
  | error hfault => exact .error hfault

theorem outcome_walks {e e' : Except Fault α} (h : Alike c.fault V e e') :
    c.Walks V (outcome e) (outcome e') := by
  intro run run' hr
  cases h with
  | ok ha => exact .ok ha hr
  | error hfault => exact .error hfault

theorem pure_walks {a a' : α} (h : V a a') : c.Walks V (pure a) (pure a') := fun _ _ hr => .ok h hr

theorem note_walks (e e' : Event) : c.Walks (fun _ _ => True) (note e) (note e') :=
  fun _ _ hr => .ok trivial hr

theorem noteShapeless_walks (target : String) :
    c.Walks (fun _ _ => True) (noteShapeless l target) (noteShapeless l' target) := by
  have hquiet : ∀ (l : Loaded) (run : Run),
      ∃ after, noteShapeless l target run = (.ok (), after) ∧ after.registry = run.registry := by
    intro l run
    rw [noteShapeless]
    cases l.shapeless? target with
    | some shapeless => exact ⟨_, rfl, rfl⟩
    | none => exact ⟨_, rfl, rfl⟩
  intro run run' hr
  obtain ⟨after, heq, hreg⟩ := hquiet l run
  obtain ⟨after', heq', hreg'⟩ := hquiet l' run'
  rw [heq, heq']
  refine .ok trivial ?_
  rw [hreg, hreg']
  exact hr

theorem noteNode_walks (node : RefOr Schema) :
    c.Walks (fun _ _ => True) (noteNode l node) (noteNode l' node) := by
  cases node with
  | ref target => exact noteShapeless_walks target
  | item s => exact pure_walks trivial

theorem schema_walks {node : RefOr Schema}
    (hn : node.RefsIn c.reach.schema (Schema.RefsIn c.reach.schema)) :
    c.Walks (Equally (Schema.RefsIn c.reach.schema)) (Walk.schema l node) (Walk.schema l' node) :=
  (noteNode_walks node).bind fun _ _ _ => outcome_walks (c.lookups.schema_alike hn)

theorem schemaAt_walks {target : String} (ht : c.reach.schema target) :
    c.Walks (Equally (Schema.RefsIn c.reach.schema)) (Walk.schemaAt l target) (Walk.schemaAt l' target) := by
  have hn : (RefOr.ref target).RefsIn c.reach.schema (Schema.RefsIn c.reach.schema) := ht
  exact schema_walks hn

theorem ruleSet_alike {s : Schema} (hs : s.RefsIn c.reach.schema) :
    Alike c.fault (Equally fun _ => True) (l.ruleSet s) (l'.ruleSet s) := by
  unfold Loaded.ruleSet
  cases hi : s.arrayItems? with
  | none => exact .ok ⟨rfl, trivial⟩
  | some items =>
    refine (c.lookups.schema_alike (hs.part (Schema.mem_parts_of_arrayItems hi))).bind ?_
    rintro item _ ⟨rfl, _⟩
    exact .ok ⟨rfl, trivial⟩

theorem ruleSet_walks {s : Schema} (hs : s.RefsIn c.reach.schema) :
    c.Walks (Equally fun _ => True) (Walk.ruleSet l s) (Walk.ruleSet l' s) := by
  unfold Walk.ruleSet
  split
  · exact (noteNode_walks _).bind fun _ _ _ => outcome_walks (ruleSet_alike hs)
  · exact outcome_walks (ruleSet_alike hs)

theorem pointer_walks (target : String) : c.Walks (Equally fun pointer => Pointer.parse? target = some pointer)
    (outcome (Loaded.pointer target)) (outcome (Loaded.pointer target)) :=
  outcome_walks (c.lookups.pointer_alike target)

theorem claim_walks {candidate candidate' : String} (h : c.Same candidate candidate') :
    c.Walks c.Same (Walk.claim candidate) (Walk.claim candidate') := by
  intro run run' hr
  obtain ⟨hname, hreg⟩ := c.claim hr h
  rw [claim_eq, claim_eq]
  exact .ok hname hreg

theorem addEnum_walks {e e' : EnumDef} (h : c.Same e e') :
    c.Walks (fun _ _ => True) (Walk.addEnum e) (Walk.addEnum e') :=
  fun _ _ hr => .ok trivial (c.addEnum hr h)

theorem addType_walks {t t' : TypeDef} (h : c.Same t t') :
    c.Walks (fun _ _ => True) (Walk.addType t) (Walk.addType t') :=
  fun _ _ hr => .ok trivial (c.addType hr h)

theorem refuse_walks {place place' : String} (hp : c.Same place place') :
    c.Walks V (refuse place) (refuse place') := by
  intro run run' hr
  have hlimit := (c.depth hr).2
  unfold refuse
  rw [hlimit]
  exact .error (c.fault_deep hp)

theorem level_walks {place place' : String} {w w' : Walk α} (hp : c.Same place place')
    (hw : c.Walks V w w') : c.Walks V (level place w) (level place' w') := by
  intro run run' hr
  obtain ⟨hdepth, hlimit⟩ := c.depth hr
  rw [level_eq, level_eq, hdepth, hlimit]
  split
  · exact .error (c.fault_deep hp)
  · have hdeeper : c.registry run.deeper.registry run'.deeper.registry := by
      rw [Run.deeper, Run.deeper, hdepth]
      exact c.atDepth _ hr
    have hends := hw _ _ hdeeper
    generalize w run.deeper = e at hends ⊢
    generalize w' run'.deeper = e' at hends ⊢
    cases hends with
    | error hfault => exact .error hfault
    | @ok a a' mid mid' ha hmid =>
      refine .ok ha ?_
      change c.registry { mid.registry with depth := _ } { mid'.registry with depth := _ }
      rw [(c.depth hmid).1]
      exact c.atDepth _ hmid

/-- The levels that are left are the same on both sides. -/
theorem walk_walks {body body' : Walker → Walk α}
    (h : ∀ room, c.Walks V (body (Walker.withRoom l room)) (body' (Walker.withRoom l' room))) :
    c.Walks V (l.walk body) (l'.walk body') := by
  intro run run' hr
  obtain ⟨hdepth, hlimit⟩ := c.depth hr
  have hroom : run'.registry.room = run.registry.room := by
    rw [Registry.room, Registry.room, hdepth, hlimit]
  unfold Loaded.walk
  rw [hroom]
  exact h _ run run' hr

end Coupling

/-! ## Classification -/

/-- The three walks of one level correspond to those of another. -/
structure Walker.Coupled {l l' : Loaded} (c : Coupling l l') (w w' : Walker) : Prop where
  node : ∀ {part : RefOr Schema} (localName : String) {parent parent' : String},
    part.RefsIn c.reach.schema (Schema.RefsIn c.reach.schema) → c.Same parent parent' →
    c.Walks c.Same (w.node part localName parent) (w'.node part localName parent')
  schema : ∀ {s : Schema} (localName : String) {parent parent' : String}, s.RefsIn c.reach.schema →
    c.Same parent parent' → c.Walks c.Same (w.schema s localName parent) (w'.schema s localName parent')
  properties : ∀ {s : Schema} {parent parent' : String}, s.RefsIn c.reach.schema → c.Same parent parent' →
    c.Walks c.Same (w.properties s parent) (w'.properties s parent')

namespace Walker

open Coupling

variable {l l' : Loaded} {c : Coupling l l'} {below below' : Unit → Walker} {parent parent' : String}

theorem array_walks (hb : (below ()).Coupled c (below' ())) {s : Schema} (hs : s.RefsIn c.reach.schema)
    (localName : String) (hp : c.Same parent parent') (rules : List Rule) :
    c.Walks c.Same (array below s localName parent rules) (array below' s localName parent' rules) := by
  have hitems : ∀ {item item' : Descriptor}, c.Same item item' →
      c.Walks c.Same (pure { item with isArray := true, rules }) (pure { item' with isArray := true, rules }) :=
    fun h => pure_walks (h.map fun item => { item with isArray := true, rules })
  unfold array
  cases hi : s.items with
  | none => exact (pure_walks (.refl _)).bind fun _ _ h => hitems h
  | some items =>
    exact (hb.node localName (hs.part (Schema.mem_parts_of_items hi)) hp).bind fun _ _ h => hitems h

theorem reference_walks (hb : (below ()).Coupled c (below' ())) {target : String}
    (ht : c.reach.schema target) (localName : String) (hp : c.Same parent parent') :
    c.Walks c.Same (reference l below target localName parent)
      (reference l' below' target localName parent') := by
  refine (pointer_walks target).bind ?_
  rintro pointer _ ⟨rfl, _⟩
  refine (schemaAt_walks ht).bind ?_
  rintro s _ ⟨rfl, hs⟩
  refine (ruleSet_walks hs).bind ?_
  rintro rules _ ⟨rfl, _⟩
  cases pointer with
  | definition name =>
    dsimp only
    cases s.kind with
    | array => exact array_walks hb hs localName hp rules
    | file | unrecognized => exact (note_walks _ _).bind fun _ _ _ => pure_walks (.refl _)
    | object | string | number | integer | boolean | null => exact pure_walks (.refl _)
  | parameter | response | other => exact pure_walks (.refl _)

theorem nameEnum_walks (values : List String) (localName : String) (hp : c.Same parent parent')
    (rules : List Rule) : c.Walks c.Same (nameEnum values localName parent rules)
      (nameEnum values localName parent' rules) := by
  refine (claim_walks (hp.map fun parent => enumCandidate parent localName)).bind fun name name' hn => ?_
  refine (addEnum_walks (hn.map fun name => ⟨name, values⟩)).bind fun _ _ _ => ?_
  exact pure_walks (hn.map fun name => Descriptor.local name rules)

theorem nameObject_walks (hb : (below ()).Coupled c (below' ())) {s : Schema} (hs : s.RefsIn c.reach.schema)
    (localName : String) (hp : c.Same parent parent') (rules : List Rule) :
    c.Walks c.Same (nameObject below s localName parent rules)
      (nameObject below' s localName parent' rules) := by
  refine (claim_walks (hp.map fun parent => typeCandidate parent localName)).bind fun name name' hn => ?_
  refine (hb.properties hs hn).bind fun properties properties' hproperties => ?_
  have htype : c.Same (TypeDef.mk name s.description properties s.objectRules)
      ⟨name', s.description, properties', s.objectRules⟩ :=
    hn.map₂ (fun name properties => TypeDef.mk name s.description properties s.objectRules) hproperties
  exact (addType_walks htype).bind fun _ _ _ => pure_walks (hn.map fun name => Descriptor.local name rules)

theorem inline_walks (hb : (below ()).Coupled c (below' ())) {s : Schema} (hs : s.RefsIn c.reach.schema)
    (localName : String) (hp : c.Same parent parent') :
    c.Walks c.Same (inline l below s localName parent) (inline l' below' s localName parent') := by
  refine (ruleSet_walks hs).bind ?_
  rintro rules _ ⟨rfl, _⟩
  cases s.kind with
  | string =>
    dsimp only
    split
    · exact nameEnum_walks _ localName hp rules
    · exact pure_walks (.refl _)
  | array => exact array_walks hb hs localName hp rules
  | object => exact nameObject_walks hb hs localName hp rules
  | file | unrecognized => exact (note_walks _ _).bind fun _ _ _ => pure_walks (.refl _)
  | number | integer | boolean | null => exact pure_walks (.refl _)

theorem ownProperties_walks (hb : (below ()).Coupled c (below' ())) (required : List String)
    (hp : c.Same parent parent') {properties : List (String × RefOr Schema)}
    (hs : ∀ member ∈ properties, member.2.RefsIn c.reach.schema (Schema.RefsIn c.reach.schema)) :
    c.Walks c.Same (ownProperties l below required parent properties)
      (ownProperties l' below' required parent' properties) := by
  induction properties with
  | nil => exact pure_walks (.refl _)
  | cons member rest ih =>
    obtain ⟨name, node⟩ := member
    obtain ⟨hnode, hrest⟩ := List.forall_mem_cons.mp hs
    have hfirst : c.Walks c.Same (property l below required parent name node)
        (property l' below' required parent' name node) := by
      refine (schema_walks hnode).bind ?_
      rintro s _ ⟨rfl, hs⟩
      refine (hb.schema name hs hp).bind fun type type' htype => ?_
      exact pure_walks (htype.map fun type =>
        Property.mk name s.description (type.withRequired (required.contains name)))
    exact hfirst.bind fun _ _ hp => (ih hrest).bind fun _ _ hps => pure_walks (hp.map₂ List.cons hps)

theorem memberProperties_walks (hb : (below ()).Coupled c (below' ())) (required : List String)
    (hp : c.Same parent parent') {members : List (RefOr Schema)}
    (hm : ∀ member ∈ members, member.RefsIn c.reach.schema (Schema.RefsIn c.reach.schema)) :
    c.Walks c.Same (memberProperties l below required parent members)
      (memberProperties l' below' required parent' members) := by
  induction members with
  | nil => exact pure_walks (.refl _)
  | cons member rest ih =>
    obtain ⟨hmember, hrest⟩ := List.forall_mem_cons.mp hm
    refine (schema_walks hmember).bind ?_
    rintro s _ ⟨rfl, hs⟩
    have hproperties := (Schema.forall_parts.mp (Schema.refsIn_iff.mp hs)).2.1
    exact (ownProperties_walks hb required hp hproperties).bind fun _ _ hps =>
      (ih hrest).bind fun _ _ hothers => pure_walks (hps.map₂ List.append hothers)

theorem allProperties_walks (hb : (below ()).Coupled c (below' ())) {s : Schema}
    (hs : s.RefsIn c.reach.schema) (hp : c.Same parent parent') :
    c.Walks c.Same (allProperties l below s parent) (allProperties l' below' s parent') := by
  obtain ⟨_, hproperties, hmembers⟩ := Schema.forall_parts.mp (Schema.refsIn_iff.mp hs)
  unfold allProperties
  split
  · exact ownProperties_walks hb s.required hp hproperties
  · exact memberProperties_walks hb s.required hp hmembers

theorem above_coupled (hb : (below ()).Coupled c (below' ())) :
    (above l below).Coupled c (above l' below') where
  node {part} localName parent parent' hn hp := by
    refine level_walks (hp.map fun parent => place parent localName) ?_
    cases part with
    | ref target => exact reference_walks hb hn localName hp
    | item s => exact inline_walks hb hn localName hp
  schema localName parent parent' hs hp :=
    level_walks (hp.map fun parent => place parent localName) (inline_walks hb hs localName hp)
  properties hs hp := level_walks hp (allProperties_walks hb hs hp)

theorem withRoom_coupled (c : Coupling l l') : ∀ room, (withRoom l room).Coupled c (withRoom l' room)
  | 0 => {
      node := fun localName _ _ _ hp => refuse_walks (hp.map fun parent => place parent localName)
      schema := fun localName _ _ _ hp => refuse_walks (hp.map fun parent => place parent localName)
      properties := fun _ hp => refuse_walks hp }
  | room + 1 => above_coupled (withRoom_coupled c room)

end Walker

/-! ## Documents -/

namespace Coupling

variable {l l' : Loaded} {c : Coupling l l'}

theorem classify_walks {node : RefOr Schema} (hn : node.RefsIn c.reach.schema (Schema.RefsIn c.reach.schema))
    (localName parentName : String) : c.Walks c.Same (l.classify node localName parentName)
      (l'.classify node localName parentName) :=
  walk_walks fun room => (Walker.withRoom_coupled c room).node localName hn (.refl _)

theorem properties_walks {s : Schema} (hs : s.RefsIn c.reach.schema) (parentName : String) :
    c.Walks c.Same (l.properties s parentName) (l'.properties s parentName) :=
  walk_walks fun room => (Walker.withRoom_coupled c room).properties hs (.refl _)

theorem methodParameter_walks {p : Parameter} (hp : p.RefsIn c.reach.schema) (parentName : String) :
    c.Walks c.Same (l.methodParameter p parentName) (l'.methodParameter p parentName) := by
  have htype : c.Walks c.Same (l.parameterType p parentName) (l'.parameterType p parentName) := by
    unfold Loaded.parameterType
    split
    · cases hs : p.schema with
      | none => exact pure_walks (.refl _)
      | some node => exact classify_walks (hp.schema node hs) p.name parentName
    · exact walk_walks fun room => (Walker.withRoom_coupled c room).schema p.name hp.fields (.refl _)
  exact htype.bind fun _ _ h => pure_walks (h.map fun type =>
    Service.Parameter.mk p.name p.description (type.withRequired p.required))

theorem methodParameters_walks (parentName : String) {nodes : List (RefOr Parameter)}
    (h : ∀ node ∈ nodes, node.RefsIn c.reach.parameter (Parameter.RefsIn c.reach.schema)) :
    c.Walks c.Same (l.methodParameters parentName nodes) (l'.methodParameters parentName nodes) := by
  induction nodes with
  | nil => exact pure_walks (.refl _)
  | cons node rest ih =>
    obtain ⟨hnode, hrest⟩ := List.forall_mem_cons.mp h
    refine (outcome_walks (c.lookups.parameter_alike hnode)).bind ?_
    rintro p _ ⟨rfl, hp⟩
    exact (methodParameter_walks hp parentName).bind fun _ _ hfirst => (ih hrest).bind fun _ _ hothers =>
      pure_walks (hfirst.map₂ (fun first others => (first, p.wire) :: others) hothers)

theorem returnType_walks {node : RefOr Response}
    (hn : node.RefsIn c.reach.response (Response.RefsIn c.reach.schema)) (parentName : String) :
    c.Walks c.Same (l.returnType node parentName) (l'.returnType node parentName) := by
  refine (outcome_walks (c.lookups.response_alike hn)).bind ?_
  rintro response _ ⟨rfl, hr⟩
  cases hs : response.schema with
  | none => exact pure_walks (.refl _)
  | some schema => exact (classify_walks (hr schema hs) _ _).bind fun _ _ h => pure_walks (h.map some)

theorem method_walks (verb : Verb) {o : Operation} {shared : List (RefOr Parameter)}
    (ho : o.Confined c.reach)
    (hs : ∀ node ∈ shared, node.RefsIn c.reach.parameter (Parameter.RefsIn c.reach.schema)) :
    c.Walks c.Same (l.method verb o shared) (l'.method verb o shared) := by
  have hparameters := List.forall_mem_append.mpr ⟨ho.parameters, hs⟩
  refine (note_walks _ _).bind fun _ _ _ => ?_
  refine (methodParameters_walks o.parentName hparameters).bind fun ps ps' hps => ?_
  dsimp only
  cases hsuccess : SuccessKey.select o.responses with
  | none =>
    have hresult : c.Walks c.Same (pure (none : Option Descriptor)) (pure none) := pure_walks (.refl _)
    exact hresult.bind fun _ _ hr => pure_walks fun he => by rw [hps he, hr he]
  | some success =>
    obtain ⟨entry, hentry, hnode⟩ := SuccessKey.mem_of_select hsuccess
    have hresponse := hnode ▸ ho.responses entry hentry
    exact (returnType_walks hresponse o.parentName).bind fun _ _ hr =>
      pure_walks fun he => by rw [hps he, hr he]

theorem pathMethods_walks {shared : List (RefOr Parameter)} {operations : List (Verb × Operation)}
    (hs : ∀ node ∈ shared, node.RefsIn c.reach.parameter (Parameter.RefsIn c.reach.schema))
    (ho : ∀ operation ∈ operations, operation.2.Confined c.reach) :
    c.Walks c.Same (l.pathMethods shared operations) (l'.pathMethods shared operations) := by
  induction operations with
  | nil => exact pure_walks (.refl _)
  | cons operation rest ih =>
    obtain ⟨hfirst, hrest⟩ := List.forall_mem_cons.mp ho
    exact (method_walks _ hfirst hs).bind fun _ _ hm => (ih hrest).bind fun _ _ hms =>
      pure_walks (hm.map₂ List.cons hms)

theorem groupMethods_walks {paths : List (String × PathItem)}
    (h : ∀ path ∈ paths, path.2.Confined c.reach) :
    c.Walks c.Same (l.groupMethods paths) (l'.groupMethods paths) := by
  induction paths with
  | nil => exact pure_walks (.refl _)
  | cons path rest ih =>
    obtain ⟨hfirst, hrest⟩ := List.forall_mem_cons.mp h
    exact (pathMethods_walks hfirst.parameters hfirst.operations).bind fun _ _ hm =>
      (ih hrest).bind fun _ _ hms => pure_walks fun he => by rw [hm he, hms he]

theorem interfacesOf_walks {groups : List (String × List (String × PathItem))}
    (h : ∀ group ∈ groups, ∀ path ∈ group.2, path.2.Confined c.reach) :
    c.Walks c.Same (l.interfacesOf groups) (l'.interfacesOf groups) := by
  induction groups with
  | nil => exact pure_walks (.refl _)
  | cons group rest ih =>
    obtain ⟨hfirst, hrest⟩ := List.forall_mem_cons.mp h
    have hinterface : c.Walks c.Same (l.interface group.1 group.2) (l'.interface group.1 group.2) :=
      (note_walks _ _).bind fun _ _ _ => (groupMethods_walks hfirst).bind fun _ _ hm =>
        pure_walks fun he => by rw [hm he]
    exact hinterface.bind fun _ _ hi => (ih hrest).bind fun _ _ his => pure_walks (hi.map₂ List.cons his)

/-- The interfaces of two documents with the same paths. -/
theorem interfaces_walks (hd : l.document.Confined c.reach) (hp : l'.document.paths = l.document.paths) :
    c.Walks c.Same l.interfaces l'.interfaces := by
  unfold Loaded.interfaces
  rw [hp]
  exact interfacesOf_walks fun group hgroup path hpath => hd.paths path (mem_groupPaths hgroup hpath)

theorem definitionTypes_walks {definitions : List (String × Schema)}
    (h : ∀ entry ∈ definitions, entry.2.RefsIn c.reach.schema) :
    c.Walks c.Same (l.definitionTypes definitions) (l'.definitionTypes definitions) := by
  induction definitions with
  | nil => exact pure_walks (.refl _)
  | cons entry rest ih =>
    obtain ⟨hfirst, hrest⟩ := List.forall_mem_cons.mp h
    exact (properties_walks hfirst entry.1).bind fun _ _ hps => (ih hrest).bind fun _ _ hts =>
      pure_walks fun he => by rw [hps he, hts he]

/-- All parts of two documents with the same paths and the same object definitions. -/
theorem parts_walks (hd : l.document.Confined c.reach) (hp : l'.document.paths = l.document.paths)
    (ho : l'.document.objectDefinitions = l.document.objectDefinitions) :
    c.Walks c.Same l.parts l'.parts := by
  unfold Loaded.parts
  rw [ho]
  refine (interfaces_walks hd hp).bind fun _ _ his => (definitionTypes_walks ?_).bind fun _ _ hts => ?_
  · exact fun entry hentry => hd.definitions entry (List.mem_filter.mp hentry).1
  · exact pure_walks (his.map₂ Prod.mk hts)

/-- Two documents that say the same of themselves, with the same paths and the same object definitions, have
the same service, or each has a fault. -/
theorem describe_alike (he : c.exact) (hd : l.document.Confined c.reach)
    (hp : l'.document.paths = l.document.paths)
    (ho : l'.document.objectDefinitions = l.document.objectDefinitions)
    (hi : l'.document.info = l.document.info) {maxDepth : Nat}
    (hr : c.registry (l.startRegistry maxDepth) (l'.startRegistry maxDepth)) :
    Alike c.fault (· = ·) (l.describe maxDepth) (l'.describe maxDepth) := by
  have hmajor : l'.majorVersion = l.majorVersion := by rw [Loaded.majorVersion, Loaded.majorVersion, hi]
  have hparts := c.parts_walks hd hp ho { registry := l.startRegistry maxDepth }
    { registry := l'.startRegistry maxDepth } hr
  rw [Loaded.describe_eq, Loaded.describe_eq, hmajor]
  cases l.majorVersion with
  | error fault => exact .error (c.lookups.fault_refl fault)
  | ok major =>
    dsimp only [bind, Except.bind]
    generalize l.parts _ = e at hparts ⊢
    generalize l'.parts _ = e' at hparts ⊢
    cases hparts with
    | error hfault => exact .error hfault
    | ok hsame hreg =>
      obtain ⟨htypes, henums⟩ := c.entries hreg he
      rw [hsame he]
      refine .ok ?_
      simp only [Loaded.assemble, hi, htypes, henums]

end Coupling

end SwaggerService
