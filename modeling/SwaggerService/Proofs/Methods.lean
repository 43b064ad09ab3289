import SwaggerService.Proofs.Blueprint

/-! # Methods of operations

What a successful walk over the paths of a document says about the interfaces that it returns, one step at
a time: about a parameter of a method and its HTTP details, about a method and its HTTP details, about the
methods of a path, and about an interface. Registries do not matter here. -/

namespace SwaggerService
open Service Walk

/-- A parameter of a method and its HTTP details, with the parameter of the document that both are of. -/
structure ParameterBuilt (p : Parameter) (built : Service.Parameter × WireParameter) : Prop where
  name : built.1.name = p.name
  wire : built.2 = p.wire
  isArray : p.isBody = false → (built.1.type.isArray = true ↔ p.fields.kind = .array)

/-- A method and its HTTP details, with the operation that both are of. -/
structure Loaded.MethodBuilt (l : Loaded) (verb : Verb) (o : Operation) (shared : List (RefOr Parameter))
    (built : Method × WireMethod) : Prop where
  name : built.1.name = o.name
  wireName : built.2.name = o.name
  verb : built.2.verb = verb
  parameters : ∃ ps : List (Service.Parameter × WireParameter),
    List.Forall₂ (fun node pair => ∃ p, l.parameter node = .ok p ∧ ParameterBuilt p pair)
      (o.parameters ++ shared) ps ∧
    built.1.parameters = ps.map (·.1) ∧ built.2.parameters = ps.map (·.2)

/-- The methods of a path, with the path item that they are of. -/
def Loaded.PathBuilt (l : Loaded) (entry : String × PathItem) (built : List Method × WirePath) : Prop :=
  ∃ methods : List (Method × WireMethod),
    List.Forall₂ (fun operation => l.MethodBuilt operation.1 operation.2 entry.2.parameters)
      entry.2.operations methods ∧
    built = (methods.map (·.1), ⟨entry.1, methods.map (·.2)⟩)

/-- An interface, with the group of paths that it is of. -/
def Loaded.InterfaceBuilt (l : Loaded) (group : String × List (String × PathItem)) (i : Interface) : Prop :=
  ∃ paths : List (List Method × WirePath), List.Forall₂ l.PathBuilt group.2 paths ∧
    i = ⟨Naming.singularize group.1, paths.flatMap (·.1), ⟨paths.map (·.2)⟩⟩

theorem Service.Descriptor.isArray_withRequired (required : Bool) (d : Descriptor) :
    (d.withRequired required).isArray = d.isArray := by
  rw [Descriptor.withRequired]
  split
  · rfl
  · rfl

namespace Loaded

variable {l : Loaded} {run run' : Run}

theorem SchemaOutline.isArray_iff {s : Schema} {o : Outline} (h : l.SchemaOutline s o) :
    o.descriptor.isArray = true ↔ s.kind = .array := by
  cases h with
  | enum _ hk => simp [Outline.descriptor, Descriptor.local, hk]
  | array _ hk => simp [Outline.descriptor, hk]
  | object _ hk => simp [Outline.descriptor, Descriptor.local, hk]
  | bare _ _ ha =>
    have hb : ∀ (kind : Kind) (rules : List Rule), (Descriptor.bare kind rules).isArray = false := by
      intro kind rules
      cases kind <;> rfl
    simp [Outline.descriptor, hb, ha]

theorem methodParameter_returns {p : Parameter} {parentName : String} {built : Service.Parameter}
    (h : Returns (l.methodParameter p parentName) run built run') : ParameterBuilt p (built, p.wire) := by
  obtain ⟨type, mid, htype, h⟩ := Returns.bind h
  obtain ⟨rfl, rfl⟩ := Returns.pure h
  refine ⟨rfl, rfl, fun hbody => ?_⟩
  obtain ⟨o, ho, rfl, _⟩ := parameterType_draws htype
  have hpart : (p.root parentName).part = some (.item p.fields) := by
    simp [Parameter.root, hbody]
  rw [hpart] at ho
  cases ho with
  | part ho =>
    cases ho with
    | item hs =>
      change (Descriptor.withRequired p.required o.descriptor).isArray = true ↔ _
      rw [Descriptor.isArray_withRequired]
      exact hs.isArray_iff

theorem methodParameters_returns {parentName : String} {nodes : List (RefOr Parameter)}
    {built : List (Service.Parameter × WireParameter)}
    (h : Returns (l.methodParameters parentName nodes) run built run') :
    List.Forall₂ (fun node pair => ∃ p, l.parameter node = .ok p ∧ ParameterBuilt p pair) nodes built := by
  induction nodes generalizing run built with
  | nil =>
    obtain ⟨rfl, rfl⟩ := Returns.pure h
    exact .nil
  | cons node rest ih =>
    obtain ⟨p, r₁, hp, h⟩ := Returns.bind h
    obtain ⟨first, r₂, hfirst, h⟩ := Returns.bind h
    obtain ⟨others, r₃, hothers, h⟩ := Returns.bind h
    obtain ⟨rfl, rfl⟩ := Returns.pure h
    exact .cons ⟨p, (outcome_returns hp).1, methodParameter_returns hfirst⟩ (ih hothers)

theorem method_returns {verb : Verb} {o : Operation} {shared : List (RefOr Parameter)}
    {built : Method × WireMethod} (h : Returns (l.method verb o shared) run built run') :
    l.MethodBuilt verb o shared built := by
  obtain ⟨ps, type, _, _, _, hparameters, _, rfl⟩ := method_steps h
  exact ⟨rfl, rfl, rfl, ps, methodParameters_returns hparameters, rfl, rfl⟩

theorem pathMethods_returns {shared : List (RefOr Parameter)} {operations : List (Verb × Operation)}
    {built : List (Method × WireMethod)} (h : Returns (l.pathMethods shared operations) run built run') :
    List.Forall₂ (fun operation => l.MethodBuilt operation.1 operation.2 shared) operations built := by
  induction operations generalizing run built with
  | nil =>
    obtain ⟨rfl, rfl⟩ := Returns.pure h
    exact .nil
  | cons operation rest ih =>
    obtain ⟨first, r₁, hfirst, h⟩ := Returns.bind h
    obtain ⟨others, r₂, hothers, h⟩ := Returns.bind h
    obtain ⟨rfl, rfl⟩ := Returns.pure h
    exact .cons (method_returns hfirst) (ih hothers)

theorem groupMethods_returns {paths : List (String × PathItem)} {built : List (List Method × WirePath)}
    (h : Returns (l.groupMethods paths) run built run') : List.Forall₂ l.PathBuilt paths built := by
  induction paths generalizing run built with
  | nil =>
    obtain ⟨rfl, rfl⟩ := Returns.pure h
    exact .nil
  | cons entry rest ih =>
    obtain ⟨methods, r₁, hmethods, h⟩ := Returns.bind h
    obtain ⟨others, r₂, hothers, h⟩ := Returns.bind h
    obtain ⟨rfl, rfl⟩ := Returns.pure h
    exact .cons ⟨methods, pathMethods_returns hmethods, rfl⟩ (ih hothers)

theorem interfacesOf_returns {groups : List (String × List (String × PathItem))}
    {interfaces : List Interface} (h : Returns (l.interfacesOf groups) run interfaces run') :
    List.Forall₂ l.InterfaceBuilt groups interfaces := by
  induction groups generalizing run interfaces with
  | nil =>
    obtain ⟨rfl, rfl⟩ := Returns.pure h
    exact .nil
  | cons group rest ih =>
    obtain ⟨first, r₁, hfirst, h⟩ := Returns.bind h
    obtain ⟨others, r₂, hothers, h⟩ := Returns.bind h
    obtain ⟨rfl, rfl⟩ := Returns.pure h
    obtain ⟨_, r₃, _, hfirst⟩ := Returns.bind hfirst
    obtain ⟨paths, r₄, hpaths, hfirst⟩ := Returns.bind hfirst
    obtain ⟨rfl, rfl⟩ := Returns.pure hfirst
    exact .cons ⟨paths, groupMethods_returns hpaths, rfl⟩ (ih hothers)

/-- The interfaces of a service that is described are built from the groups of the paths, in order. -/
theorem interfaces_built {maxDepth : Nat} {service : Service} (h : l.describe maxDepth = .ok service) :
    List.Forall₂ l.InterfaceBuilt (groupPaths l.document.paths) service.interfaces := by
  obtain ⟨major, interfaces, types, mid, run', hinterfaces, _, rfl⟩ := describe_returns h
  exact interfacesOf_returns hinterfaces

end Loaded

end SwaggerService
