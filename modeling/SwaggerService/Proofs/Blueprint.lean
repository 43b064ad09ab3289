import SwaggerService.Describe
import SwaggerService.Proofs.Drawing

/-! # Blueprints

A blueprint holds the outlines of everything that a service describes: of the parameters and the result of
each method, and of the fields of each object definition. `exists_blueprint` says that every described
service is read off a blueprint of its document, so a statement about services becomes one about
outlines. -/

namespace SwaggerService
open Service Walk

/-- A schema that a walk starts from. The names inside it are derived from `parentName`; a body may lack
its schema. -/
structure Root where
  label : Label
  parentName : String
  part : Option (RefOr Schema)

/-- The root of a parameter: the schema of a body, or else its own keywords. -/
def Parameter.root (p : Parameter) (parentName : String) : Root where
  label := ⟨p.name, p.description, p.required⟩
  parentName
  part := if p.isBody then p.schema else some (.item p.fields)

/-- The names of the object definitions. -/
def Document.objectNames (d : Document) : List String := d.objectDefinitions.map (·.1)

/-- The operations of a document, each with the parameters that its path shares, in the order in which
interfaces have them. -/
def Document.operations (d : Document) : List (Operation × List (RefOr Parameter)) :=
  (groupPaths d.paths).flatMap fun (_, paths) =>
    paths.flatMap fun (_, item) => item.operations.map fun (_, o) => (o, item.parameters)

namespace Loaded

/-- The roots of parameters. -/
def parameterRoots (l : Loaded) (parentName : String) :
    List (RefOr Parameter) → Except Fault (List Root)
  | [] => .ok []
  | node :: rest => do
    let p ← l.parameter node
    return p.root parentName :: (← l.parameterRoots parentName rest)

/-- The root of the result of an operation, if the response that describes success has a schema. -/
def resultRoot (l : Loaded) (o : Operation) : Except Fault (Option Root) :=
  match SuccessKey.select o.responses with
  | none => .ok none
  | some (_, node) => do
    let response ← l.response node
    return response.schema.map fun schema =>
      ⟨⟨"response", none, false⟩, (sharedResponse? node).getD o.parentName, some schema⟩

end Loaded

namespace Outline

/-- The names of labelled outlines under several parents, one parent after the other. -/
def NamedAll : List (String × List Slot) → (taken : List String) → Prop
  | [], _ => True
  | (parentName, slots) :: rest, taken =>
    NamedIn slots taken parentName ∧ NamedAll rest (Registry.take taken (claimsIn slots))

theorem namedAll_append {xs ys : List (String × List Slot)} {taken : List String}
    (hx : NamedAll xs taken) (hy : NamedAll ys (Registry.take taken (claimsIn (xs.flatMap (·.2))))) :
    NamedAll (xs ++ ys) taken := by
  induction xs generalizing taken with
  | nil => exact hy
  | cons branch rest ih =>
    refine ⟨hx.1, ih hx.2 ?_⟩
    rw [← Registry.take_append, ← claimsIn_append]
    exact hy

theorem NamedAll.fresh : ∀ (branches : List (String × List Slot)) {taken : List String},
    NamedAll branches taken → Registry.Fresh taken (claimsIn (branches.flatMap (·.2)))
  | [], _, _ => .nil _
  | (_, slots) :: rest, _, h => by
    rw [List.flatMap_cons, claimsIn_append]
    exact (NamedIn.fresh slots h.1).append (NamedAll.fresh rest h.2)

end Outline

/-- Slots under several parents describe what happened between two states. -/
structure DrawnAll (branches : List (String × List Slot)) (run run' : Run) : Prop where
  named : Outline.NamedAll branches run.registry.names
  registry : run'.registry = run.registry.absorb (Outline.claimsIn (branches.flatMap (·.2)))
    (Outline.nodesIn (branches.flatMap (·.2)))

theorem DrawnAll.nil {run run' : Run} (h : run'.registry = run.registry) : DrawnAll [] run run' :=
  ⟨trivial, by rw [h]; exact (Registry.absorb_nil _).symm⟩

theorem DrawnAll.append {xs ys : List (String × List Slot)} {run mid run' : Run}
    (hx : DrawnAll xs run mid) (hy : DrawnAll ys mid run') : DrawnAll (xs ++ ys) run run' := by
  refine ⟨Outline.namedAll_append hx.named ?_, ?_⟩
  · have hn := hy.named
    rw [hx.registry] at hn
    exact hn
  · rw [hy.registry, hx.registry, Registry.absorb_absorb, List.flatMap_append, Outline.claimsIn_append,
      Outline.nodesIn_append]

theorem DrawnAll.congr {xs : List (String × List Slot)} {run mid run' : Run}
    (hr : mid.registry = run.registry) (h : DrawnAll xs mid run') : DrawnAll xs run run' :=
  ⟨hr ▸ h.named, hr ▸ h.registry⟩

theorem DrawnIn.branch {slots : List Slot} {parentName : String} {run run' : Run}
    (h : DrawnIn slots parentName run run') : DrawnAll [(parentName, slots)] run run' := by
  refine ⟨⟨h.named, trivial⟩, ?_⟩
  rw [List.flatMap_singleton]
  exact h.registry

/-! ## Methods -/

/-- The slot of a drawn root. -/
def Root.slot (r : Root × Outline) : Slot := (r.1.label, r.2)

/-- A method with the outlines of its parameters and of its result. -/
structure MethodOutline where
  operation : Operation
  shared : List (RefOr Parameter)
  parameters : List (Root × Outline)
  result : Option (Root × Outline)

namespace MethodOutline

/-- The drawn roots: those of the parameters, then that of the result. -/
def roots (m : MethodOutline) : List (Root × Outline) := m.parameters ++ m.result.toList

/-- The slots of the parameters and of the result. -/
def slots (m : MethodOutline) : List Slot := m.roots.map Root.slot

/-- Every slot under the name that its names are derived from. -/
def branches (m : MethodOutline) : List (String × List Slot) :=
  m.roots.map fun r => (r.1.parentName, [Root.slot r])

/-- The method. -/
def method (m : MethodOutline) : Method where
  name := m.operation.name
  description := Description.combine m.operation.summary m.operation.description
  parameters := m.parameters.map fun r => ⟨r.1.label.name, r.1.label.description, (Root.slot r).type⟩
  returnType := m.result.map fun r => (Root.slot r).type

/-- The outlines are those of the schemas of the operation. -/
structure Draws (m : MethodOutline) (l : Loaded) : Prop where
  parameters : l.parameterRoots m.operation.parentName (m.operation.parameters ++ m.shared) =
    .ok (m.parameters.map (·.1))
  result : l.resultRoot m.operation = .ok (m.result.map (·.1))
  parts : ∀ r ∈ m.roots, l.PartOutline r.1.part r.2

theorem descriptors_method (m : MethodOutline) : m.method.descriptors = m.slots.map Slot.type := by
  simp only [Method.descriptors, method, slots, roots, List.map_append, List.map_map, Option.toList_map]
  rfl

end MethodOutline

/-- Operations with what became their methods. -/
def MethodsDrawn (l : Loaded) (operations : List (Operation × List (RefOr Parameter)))
    (methods : List Method) (run run' : Run) : Prop :=
  ∃ drawn : List MethodOutline, drawn.map (fun m => (m.operation, m.shared)) = operations ∧
    (∀ m ∈ drawn, m.Draws l) ∧ methods = drawn.map MethodOutline.method ∧
    DrawnAll (drawn.flatMap MethodOutline.branches) run run'

theorem MethodsDrawn.nil {l : Loaded} {run run' : Run} (h : run'.registry = run.registry) :
    MethodsDrawn l [] [] run run' :=
  ⟨[], rfl, nofun, rfl, .nil h⟩

theorem MethodsDrawn.single {l : Loaded} {o : Operation} {shared : List (RefOr Parameter)}
    {ps : List (Root × Outline)} {result : Option (Root × Outline)} {run mid run' : Run}
    (hroots : l.parameterRoots o.parentName (o.parameters ++ shared) = .ok (ps.map (·.1)))
    (hresult : l.resultRoot o = .ok (result.map (·.1)))
    (hparts : ∀ r ∈ ps, l.PartOutline r.1.part r.2) (hpart : ∀ r ∈ result, l.PartOutline r.1.part r.2)
    (hd : DrawnAll (ps.map fun r => (r.1.parentName, [Root.slot r])) run mid)
    (hd' : DrawnAll (result.toList.map fun r => (r.1.parentName, [Root.slot r])) mid run') :
    MethodsDrawn l [(o, shared)] [(⟨o, shared, ps, result⟩ : MethodOutline).method] run run' := by
  refine ⟨[⟨o, shared, ps, result⟩], rfl, ?_, rfl, ?_⟩
  · refine List.forall_mem_singleton.mpr ⟨hroots, hresult, List.forall_mem_append.mpr ⟨hparts, ?_⟩⟩
    exact fun r hr => hpart r (Option.mem_toList.mp hr)
  · rw [List.flatMap_singleton, MethodOutline.branches, MethodOutline.roots, List.map_append]
    exact hd.append hd'

theorem MethodsDrawn.append {l : Loaded} {xs ys : List (Operation × List (RefOr Parameter))}
    {us vs : List Method} {run mid run' : Run} (hx : MethodsDrawn l xs us run mid)
    (hy : MethodsDrawn l ys vs mid run') : MethodsDrawn l (xs ++ ys) (us ++ vs) run run' := by
  obtain ⟨ms, rfl, hms, rfl, hd₁⟩ := hx
  obtain ⟨ns, rfl, hns, rfl, hd₂⟩ := hy
  refine ⟨ms ++ ns, List.map_append, List.forall_mem_append.mpr ⟨hms, hns⟩, List.map_append.symm, ?_⟩
  rw [List.flatMap_append]
  exact hd₁.append hd₂

theorem MethodsDrawn.congr {l : Loaded} {xs : List (Operation × List (RefOr Parameter))}
    {us : List Method} {run mid run' : Run} (hr : mid.registry = run.registry)
    (h : MethodsDrawn l xs us mid run') : MethodsDrawn l xs us run run' := by
  obtain ⟨ms, hm, hms, hu, hd⟩ := h
  exact ⟨ms, hm, hms, hu, hd.congr hr⟩

namespace Loaded

variable {l : Loaded} {run run' : Run}

theorem classify_draws {node : RefOr Schema} {localName parentName : String} {d : Descriptor}
    (h : Returns (l.classify node localName parentName) run d run') :
    ∃ o, l.NodeOutline node o ∧ d = o.descriptor ∧ Drawn o localName parentName run run' :=
  (Walker.withRoom_draws l run.registry.room).node h

theorem classifySchema_draws {s : Schema} {localName parentName : String} {d : Descriptor}
    (h : Returns (l.classifySchema s localName parentName) run d run') :
    ∃ o, l.SchemaOutline s o ∧ d = o.descriptor ∧ Drawn o localName parentName run run' :=
  (Walker.withRoom_draws l run.registry.room).schema h

theorem properties_draws {s : Schema} {parentName : String} {properties : List Property}
    (h : Returns (l.properties s parentName) run properties run') :
    ∃ fields slots, l.fieldsOf s = .ok fields ∧ l.FieldsOutline fields slots ∧
      properties = slots.map Slot.property ∧ DrawnIn slots parentName run run' :=
  (Walker.withRoom_draws l run.registry.room).properties h

theorem parameterType_draws {p : Parameter} {parentName : String} {d : Descriptor}
    (h : Returns (l.parameterType p parentName) run d run') :
    ∃ o, l.PartOutline (p.root parentName).part o ∧ d = o.descriptor ∧
      Drawn o p.name parentName run run' := by
  unfold parameterType at h
  unfold Parameter.root
  split at h
  · next hbody =>
    rw [if_pos hbody]
    split at h
    · next node hnode =>
      obtain ⟨o, ho, hdesc, hd⟩ := classify_draws h
      exact ⟨o, by rw [hnode]; exact .part ho, hdesc, hd⟩
    · next hnode =>
      obtain ⟨rfl, rfl⟩ := Returns.pure h
      exact ⟨_, by rw [hnode]; exact .missing, rfl, .leaf rfl⟩
  · next hbody =>
    rw [if_neg hbody]
    obtain ⟨o, ho, hdesc, hd⟩ := classifySchema_draws h
    exact ⟨o, ho.toPart, hdesc, hd⟩

theorem methodParameters_draws {parentName : String} {nodes : List (RefOr Parameter)}
    {result : List (Service.Parameter × WireParameter)}
    (h : Returns (l.methodParameters parentName nodes) run result run') :
    ∃ drawn : List (Root × Outline), l.parameterRoots parentName nodes = .ok (drawn.map (·.1)) ∧
      (∀ r ∈ drawn, l.PartOutline r.1.part r.2) ∧
      result.map (·.1) = drawn.map (fun r => ⟨r.1.label.name, r.1.label.description, (Root.slot r).type⟩) ∧
      DrawnAll (drawn.map fun r => (r.1.parentName, [Root.slot r])) run run' := by
  induction nodes generalizing run result with
  | nil =>
    obtain ⟨rfl, rfl⟩ := Returns.pure h
    exact ⟨[], rfl, nofun, rfl, .nil rfl⟩
  | cons node rest ih =>
    obtain ⟨p, r₁, hparameter, h⟩ := Returns.bind h
    obtain ⟨first, r₂, hfirst, h⟩ := Returns.bind h
    obtain ⟨others, r₃, hothers, h⟩ := Returns.bind h
    obtain ⟨rfl, rfl⟩ := Returns.pure h
    obtain ⟨type, r₄, htype, hfirst⟩ := Returns.bind hfirst
    obtain ⟨rfl, rfl⟩ := Returns.pure hfirst
    obtain ⟨hp, rfl⟩ := outcome_returns hparameter
    obtain ⟨o, ho, rfl, hd⟩ := parameterType_draws htype
    obtain ⟨drawn, hroots, hparts, hresult, hds⟩ := ih hothers
    refine ⟨(p.root parentName, o) :: drawn, ?_, List.forall_mem_cons.mpr ⟨ho, hparts⟩, ?_, ?_⟩
    · rw [parameterRoots, hp, hroots]
      rfl
    · rw [List.map_cons, hresult]
      rfl
    · exact DrawnAll.append (Drawn.slot (p.root parentName).label hd).branch hds

theorem returnType_draws {o : Operation} {node : RefOr Response} {key : SuccessKey}
    {result : Option Descriptor} (hs : SuccessKey.select o.responses = some (key, node))
    (h : Returns (l.returnType node o.parentName) run result run') :
    ∃ drawn : Option (Root × Outline), l.resultRoot o = .ok (drawn.map (·.1)) ∧
      (∀ r ∈ drawn, l.PartOutline r.1.part r.2) ∧ result = drawn.map (fun r => (Root.slot r).type) ∧
      DrawnAll (drawn.toList.map fun r => (r.1.parentName, [Root.slot r])) run run' := by
  obtain ⟨response, r₁, hresponse, h⟩ := Returns.bind h
  obtain ⟨hr, rfl⟩ := outcome_returns hresponse
  split at h
  · next hnone =>
    obtain ⟨rfl, rfl⟩ := Returns.pure h
    refine ⟨none, ?_, nofun, rfl, .nil rfl⟩
    simp only [resultRoot, hs, hr, bind, Except.bind, hnone]
    rfl
  · next schema hsome =>
    obtain ⟨d, r₂, htype, h⟩ := Returns.bind h
    obtain ⟨rfl, rfl⟩ := Returns.pure h
    obtain ⟨outline, ho, rfl, hd⟩ := classify_draws htype
    let root : Root :=
      ⟨⟨"response", none, false⟩, (sharedResponse? node).getD o.parentName, some schema⟩
    refine ⟨some (root, outline), ?_, ?_, rfl, ?_⟩
    · simp only [resultRoot, hs, hr, bind, Except.bind, hsome]
      rfl
    · rintro r ⟨⟩
      exact .part ho
    · exact (Drawn.slot root.label hd).branch

/-- The steps of a method: its parameters, and then the result type of the response that was chosen. -/
theorem method_steps {verb : Verb} {o : Operation} {shared : List (RefOr Parameter)}
    {built : Method × WireMethod} (h : Returns (l.method verb o shared) run built run') :
    ∃ parameters result start mid, start.registry = run.registry ∧
      Returns (l.methodParameters o.parentName (o.parameters ++ shared)) start parameters mid ∧
      Returns ((SuccessKey.select o.responses).elim (pure none) fun choice =>
        l.returnType choice.2 o.parentName) mid result run' ∧
      built = (⟨o.name, Description.combine o.summary o.description, parameters.map (·.1), result⟩,
        ⟨o.name, verb, parameters.map (·.2), UInt16.ofNat (SuccessKey.code verb
          ((SuccessKey.select o.responses).map (·.1)) result.isSome)⟩) := by
  obtain ⟨_, start, hnote, h⟩ := Returns.bind h
  obtain ⟨parameters, mid, hparameters, h⟩ := Returns.bind h
  dsimp only at h
  split at h
  · next key node hselect =>
    obtain ⟨result, out, hresult, h⟩ := Returns.bind h
    obtain ⟨rfl, rfl⟩ := Returns.pure h
    refine ⟨parameters, result, start, mid, note_returns hnote, hparameters, ?_, rfl⟩
    rwa [hselect]
  · next hselect =>
    obtain ⟨result, out, hresult, h⟩ := Returns.bind h
    obtain ⟨rfl, rfl⟩ := Returns.pure h
    refine ⟨parameters, result, start, mid, note_returns hnote, hparameters, ?_, rfl⟩
    rwa [hselect]

theorem method_draws {verb : Verb} {o : Operation} {shared : List (RefOr Parameter)}
    {result : Method × WireMethod} (h : Returns (l.method verb o shared) run result run') :
    MethodsDrawn l [(o, shared)] [result.1] run run' := by
  obtain ⟨parameters, type, start, mid, hstart, hparameters, htype, rfl⟩ := method_steps h
  obtain ⟨ps, hroots, hparts, hps, hd⟩ := methodParameters_draws hparameters
  cases hs : SuccessKey.select o.responses with
  | some choice =>
    rw [hs] at htype
    obtain ⟨result, hresult, hpart, rfl, hd'⟩ := returnType_draws hs htype
    have hm := MethodsDrawn.single hroots hresult hparts hpart hd hd'
    simp only [MethodOutline.method, ← hps] at hm
    exact hm.congr hstart
  | none =>
    rw [hs] at htype
    obtain ⟨rfl, rfl⟩ := Returns.pure htype
    have hresult : l.resultRoot o = .ok ((none : Option (Root × Outline)).map (·.1)) := by
      rw [resultRoot, hs]
      rfl
    have hm := MethodsDrawn.single hroots hresult hparts nofun hd (.nil rfl)
    simp only [MethodOutline.method, ← hps] at hm
    exact hm.congr hstart

theorem pathMethods_draws {shared : List (RefOr Parameter)} {operations : List (Verb × Operation)}
    {methods : List (Method × WireMethod)}
    (h : Returns (l.pathMethods shared operations) run methods run') :
    MethodsDrawn l (operations.map fun (_, o) => (o, shared)) (methods.map (·.1)) run run' := by
  induction operations generalizing run methods with
  | nil =>
    obtain ⟨rfl, rfl⟩ := Returns.pure h
    exact .nil rfl
  | cons entry rest ih =>
    obtain ⟨first, r₁, hfirst, h⟩ := Returns.bind h
    obtain ⟨others, r₂, hothers, h⟩ := Returns.bind h
    obtain ⟨rfl, rfl⟩ := Returns.pure h
    exact (method_draws hfirst).append (ih hothers)

theorem groupMethods_draws {paths : List (String × PathItem)} {methods : List (List Method × WirePath)}
    (h : Returns (l.groupMethods paths) run methods run') :
    MethodsDrawn l (paths.flatMap fun (_, item) => item.operations.map fun (_, o) => (o, item.parameters))
      (methods.flatMap (·.1)) run run' := by
  induction paths generalizing run methods with
  | nil =>
    obtain ⟨rfl, rfl⟩ := Returns.pure h
    exact .nil rfl
  | cons entry rest ih =>
    obtain ⟨first, r₁, hfirst, h⟩ := Returns.bind h
    obtain ⟨others, r₂, hothers, h⟩ := Returns.bind h
    obtain ⟨rfl, rfl⟩ := Returns.pure h
    exact (pathMethods_draws hfirst).append (ih hothers)

theorem interfacesOf_draws {groups : List (String × List (String × PathItem))}
    {interfaces : List Interface} (h : Returns (l.interfacesOf groups) run interfaces run') :
    MethodsDrawn l (groups.flatMap fun (_, paths) =>
      paths.flatMap fun (_, item) => item.operations.map fun (_, o) => (o, item.parameters))
      (interfaces.flatMap (·.methods)) run run' := by
  induction groups generalizing run interfaces with
  | nil =>
    obtain ⟨rfl, rfl⟩ := Returns.pure h
    exact .nil rfl
  | cons entry rest ih =>
    obtain ⟨first, r₁, hfirst, h⟩ := Returns.bind h
    obtain ⟨others, r₂, hothers, h⟩ := Returns.bind h
    obtain ⟨rfl, rfl⟩ := Returns.pure h
    obtain ⟨_, r₃, hnote, hfirst⟩ := Returns.bind hfirst
    obtain ⟨methods, r₄, hmethods, hfirst⟩ := Returns.bind hfirst
    obtain ⟨rfl, rfl⟩ := Returns.pure hfirst
    exact ((groupMethods_draws hmethods).congr (note_returns hnote)).append (ih hothers)

end Loaded

/-! ## Services -/

/-- An object definition with the outlines of its fields. -/
structure ObjectOutline where
  name : String
  source : Schema
  fields : List Slot

/-- The type of an object definition. -/
def ObjectOutline.typeDef (t : ObjectOutline) : TypeDef :=
  ⟨t.name, t.source.description, t.fields.map Slot.property, t.source.objectRules⟩

/-- The outlines of everything that a service describes. -/
structure Blueprint where
  methods : List MethodOutline
  definitions : List ObjectOutline

namespace Blueprint

/-- Every slot under the name that its names are derived from, in the order in which names are taken. -/
def branches (b : Blueprint) : List (String × List Slot) :=
  b.methods.flatMap MethodOutline.branches ++ b.definitions.map fun t => (t.name, t.fields)

/-- The slots of methods and definitions. -/
def outer (b : Blueprint) : List Slot := b.branches.flatMap (·.2)

/-- All that was given a name. -/
def nodes (b : Blueprint) : List Outline := Outline.nodesIn b.outer

/-- Every slot, also those inside what was given a name, in the order of the descriptors of the service. -/
def slots (b : Blueprint) : List Slot := b.outer ++ b.nodes.flatMap Outline.fields

/-- The service is read off the blueprint, and the outlines are those of the schemas of the document. -/
structure Draws (b : Blueprint) (l : Loaded) (service : Service) : Prop where
  operations : b.methods.map (fun m => (m.operation, m.shared)) = l.document.operations
  methods : ∀ m ∈ b.methods, m.Draws l
  definitions : b.definitions.map (fun t => (t.name, t.source)) = l.document.objectDefinitions
  fields : ∀ t ∈ b.definitions, ∃ fields, l.fieldsOf t.source = .ok fields ∧ l.FieldsOutline fields t.fields
  named : Outline.NamedAll b.branches (Registry.take [] l.document.objectNames)
  service_methods : service.interfaces.flatMap (·.methods) = b.methods.map MethodOutline.method
  service_types : service.types =
    b.definitions.map ObjectOutline.typeDef ++ b.nodes.filterMap Outline.typeDef?
  service_enums : service.enums = b.nodes.filterMap Outline.enumDef?

end Blueprint

namespace Loaded

variable {l : Loaded} {run run' : Run}

theorem definitionTypes_draws {definitions : List (String × Schema)} {types : List TypeDef}
    (h : Returns (l.definitionTypes definitions) run types run') :
    ∃ drawn : List ObjectOutline, drawn.map (fun t => (t.name, t.source)) = definitions ∧
      (∀ t ∈ drawn, ∃ fields, l.fieldsOf t.source = .ok fields ∧ l.FieldsOutline fields t.fields) ∧
      types = drawn.map ObjectOutline.typeDef ∧
      DrawnAll (drawn.map fun t => (t.name, t.fields)) run run' := by
  induction definitions generalizing run types with
  | nil =>
    obtain ⟨rfl, rfl⟩ := Returns.pure h
    exact ⟨[], rfl, nofun, rfl, .nil rfl⟩
  | cons entry rest ih =>
    obtain ⟨name, s⟩ := entry
    obtain ⟨properties, r₁, hproperties, h⟩ := Returns.bind h
    obtain ⟨others, r₂, hothers, h⟩ := Returns.bind h
    obtain ⟨rfl, rfl⟩ := Returns.pure h
    obtain ⟨fields, slots, hf, ho, rfl, hd⟩ := properties_draws hproperties
    obtain ⟨drawn, rfl, hfields, rfl, hds⟩ := ih hothers
    exact ⟨⟨name, s, slots⟩ :: drawn, rfl, List.forall_mem_cons.mpr ⟨⟨fields, hf, ho⟩, hfields⟩, rfl,
      DrawnAll.append hd.branch hds⟩

theorem startRegistry_eq (l : Loaded) (maxDepth : Nat) : l.startRegistry maxDepth =
    { maxDepth, names := Registry.take [] l.document.objectNames } := by
  have hfold : ∀ (entries : List (String × Schema)) (r : Registry),
      entries.foldl (fun r entry => r.reserve entry.1) r =
        { r with names := Registry.take r.names (entries.map (·.1)) } := by
    intro entries
    induction entries with
    | nil => intro r; rfl
    | cons entry rest ih => intro r; exact ih (r.reserve entry.1)
  exact hfold _ _

/-- A description, apart from what is noted on the way. -/
theorem describe_eq (l : Loaded) (maxDepth : Nat) : l.describe maxDepth = (do
    let major ← l.majorVersion
    match l.parts { registry := l.startRegistry maxDepth } with
    | (.error fault, _) => .error fault
    | (.ok (interfaces, types), run) => .ok (l.assemble major interfaces types run.registry)) := by
  unfold describe describeLogged
  cases l.majorVersion with
  | error fault => rfl
  | ok major =>
    dsimp only [bind, Except.bind]
    rcases l.parts { registry := l.startRegistry maxDepth } with ⟨fault | ⟨interfaces, types⟩, run⟩
    · rfl
    · rfl

/-- A service that is described is put together from what two walks return, one after the other. -/
theorem describe_returns {maxDepth : Nat} {service : Service} (h : l.describe maxDepth = .ok service) :
    ∃ major interfaces types mid run',
      Returns l.interfaces { registry := l.startRegistry maxDepth } interfaces mid ∧
      Returns (l.definitionTypes l.document.objectDefinitions) mid types run' ∧
      service = l.assemble major interfaces types run'.registry := by
  rw [describe_eq] at h
  obtain ⟨major, _, h⟩ := bind_ok h
  split at h
  · cases h
  · next interfaces types run hparts =>
    cases h
    obtain ⟨_, mid, hinterfaces, hrest⟩ := Returns.bind hparts
    obtain ⟨_, _, htypes, hrest⟩ := Returns.bind hrest
    cases hrest
    exact ⟨major, interfaces, types, mid, run, hinterfaces, htypes, rfl⟩

/-- Every service that is described is read off a blueprint. -/
theorem exists_blueprint {maxDepth : Nat} {service : Service} (h : l.describe maxDepth = .ok service) :
    ∃ b : Blueprint, b.Draws l service := by
  obtain ⟨major, interfaces, types, mid, run', hinterfaces, htypes, rfl⟩ := describe_returns h
  obtain ⟨methods, hops, hmethods, hservice, hd⟩ := interfacesOf_draws hinterfaces
  obtain ⟨definitions, hdefs, hfields, rfl, hd'⟩ := definitionTypes_draws htypes
  have hall := hd.append hd'
  rw [startRegistry_eq] at hall
  refine ⟨⟨methods, definitions⟩, hops, hmethods, hdefs, hfields, hall.named, hservice, ?_, ?_⟩
  · rw [assemble, hall.registry]
    rfl
  · rw [assemble, hall.registry]
    rfl

end Loaded

/-! ## What a blueprint says -/

namespace Blueprint

variable {b : Blueprint} {l : Loaded} {service : Service}

theorem outer_eq (b : Blueprint) :
    b.outer = b.methods.flatMap MethodOutline.slots ++ b.definitions.flatMap ObjectOutline.fields := by
  have hmethod : ∀ m : MethodOutline, m.branches.flatMap (·.2) = m.slots := fun m => by
    rw [MethodOutline.branches, MethodOutline.slots, List.flatMap_map, List.map_eq_flatMap]
  have hmethods : (b.methods.flatMap MethodOutline.branches).flatMap (·.2) =
      b.methods.flatMap MethodOutline.slots := by
    rw [List.flatMap_assoc]
    exact List.flatMap_congr fun m _ => hmethod m
  rw [outer, branches, List.flatMap_append, hmethods, List.flatMap_map]

/-- The descriptors of a service are those of the slots of its blueprint, in the same order. -/
theorem Draws.descriptors (h : b.Draws l service) : service.descriptors = b.slots.map Slot.type := by
  have hmethods : service.interfaces.flatMap (fun i => i.methods.flatMap Method.descriptors) =
      (b.methods.flatMap MethodOutline.slots).map Slot.type := by
    rw [← List.flatMap_assoc, h.service_methods, List.flatMap_map, List.map_flatMap]
    exact List.flatMap_congr fun m _ => m.descriptors_method
  have hdefinitions : (b.definitions.map ObjectOutline.typeDef).flatMap
      (fun t => t.properties.map Property.type) =
        (b.definitions.flatMap ObjectOutline.fields).map Slot.type := by
    rw [List.flatMap_map, List.map_flatMap]
    exact List.flatMap_congr fun t _ => List.map_map
  have hnodes : ∀ nodes : List Outline,
      (nodes.filterMap Outline.typeDef?).flatMap (fun t => t.properties.map Property.type) =
        (nodes.flatMap Outline.fields).map Slot.type := by
    intro nodes
    induction nodes with
    | nil => rfl
    | cons node rest ih =>
      rw [List.flatMap_cons, List.map_append, ← ih]
      cases node with
      | leaf | enum | array => rfl
      | object name s rules fields =>
        change (fields.map Slot.property).map Property.type ++ _ = _
        rw [List.map_map]
        rfl
  rw [Service.descriptors, h.service_types, List.flatMap_append, hmethods, hdefinitions, hnodes, slots,
    outer_eq, List.map_append, List.map_append, List.append_assoc]

theorem Draws.part_of_outer (h : b.Draws l service) {slot : Slot} (hs : slot ∈ b.outer) :
    ∃ part, l.PartOutline part slot.2 := by
  rw [outer_eq] at hs
  rcases List.mem_append.mp hs with hs | hs
  · obtain ⟨m, hm, hs⟩ := List.mem_flatMap.mp hs
    obtain ⟨r, hr, rfl⟩ := List.mem_map.mp hs
    exact ⟨_, (h.methods m hm).parts r hr⟩
  · obtain ⟨t, ht, hs⟩ := List.mem_flatMap.mp hs
    obtain ⟨fields, _, hf⟩ := h.fields t ht
    obtain ⟨s, ho⟩ := hf.of_mem hs
    exact ⟨_, ho.toPart⟩

/-- Every slot has the outline of a part of the document. -/
theorem Draws.part (h : b.Draws l service) {slot : Slot} (hs : slot ∈ b.slots) :
    ∃ part, l.PartOutline part slot.2 := by
  rcases List.mem_append.mp hs with hs | hs
  · exact h.part_of_outer hs
  · obtain ⟨node, hn, hs⟩ := List.mem_flatMap.mp hs
    obtain ⟨first, hfirst, hn⟩ := Outline.mem_nodesIn.mp hn
    obtain ⟨part, hp⟩ := h.part_of_outer hfirst
    obtain ⟨s, ho⟩ := hp.of_mem_fields hn hs
    exact ⟨_, ho.toPart⟩

/-- The names that were given are distinct, and none is that of an object definition. -/
theorem Draws.fresh (h : b.Draws l service) :
    Registry.Fresh (Registry.take [] l.document.objectNames) (Outline.claimsIn b.outer) :=
  Outline.NamedAll.fresh b.branches h.named

end Blueprint

end SwaggerService
