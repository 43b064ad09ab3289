import SwaggerService.Proofs.PathTable

/-! # The two views of methods

An interface lists its methods, and beside them the HTTP details of its paths. The type of a parameter
comes from its classification, and whether its HTTP details say how to join items from its declared kind
alone; yet the lists align method by method and parameter by parameter, and the two agree on arrays. -/

namespace SwaggerService
open Service

/-- A parameter of a method and its HTTP details agree: how items are joined is said exactly for an array
that travels in a query, a header or a path. -/
structure Service.ParametersAgree (p : Service.Parameter) (wire : WireParameter) : Prop where
  name : p.name = wire.name
  array : wire.array.isSome = true ↔
    p.type.isArray = true ∧ (wire.location = .query ∨ wire.location = .header ∨ wire.location = .path)

/-- A method and its HTTP details agree on the name and on every parameter. -/
structure Service.MethodsAgree (m : Method) (wire : WireMethod) : Prop where
  name : m.name = wire.name
  parameters : List.Forall₂ ParametersAgree m.parameters wire.parameters

/-- A method has the parameters of an operation, and then those that its path shares. -/
structure Loaded.MethodOf (l : Loaded) (operation : Operation × List (RefOr Parameter)) (m : Method) :
    Prop where
  name : m.name = operation.1.name
  parameters : List.Forall₂ (fun node p => ∃ source, l.parameter node = .ok source ∧ p.name = source.name)
    (operation.1.parameters ++ operation.2) m.parameters

/-- The operations of some paths, each with the parameters that its path shares. -/
def PathItem.operationsOf (paths : List (String × PathItem)) : List (Operation × List (RefOr Parameter)) :=
  paths.flatMap fun p => p.2.operations.map fun operation => (operation.2, p.2.parameters)

/-- The methods of an interface are those of the operations of its paths, and both views of them agree. -/
structure Loaded.InterfaceAgrees (l : Loaded) (paths : List (String × PathItem)) (i : Interface) : Prop where
  views : List.Forall₂ MethodsAgree i.methods (i.protocols.http.flatMap WirePath.methods)
  operations : List.Forall₂ l.MethodOf (PathItem.operationsOf paths) i.methods

theorem Parameter.isDelimited_iff (location : Location) : location.isDelimited = true ↔
    location = .query ∨ location = .header ∨ location = .path := by
  cases location <;> simp [Location.isDelimited]

theorem ParameterBuilt.agree {p : Parameter} {built : Service.Parameter × WireParameter}
    (h : ParameterBuilt p built) : ParametersAgree built.1 built.2 := by
  refine ⟨?_, ?_⟩
  · rw [h.name, h.wire]
    rfl
  · rw [h.wire, ← Parameter.isDelimited_iff]
    change (Parameter.wire p).array.isSome = true ↔ built.1.type.isArray = true ∧ p.location.isDelimited = true
    by_cases hd : p.location.isDelimited = true
    · -- Where items are joined there is no body, so the type is that of the declared kind.
      have hbody : p.isBody = false := by
        cases hl : p.location <;> simp [Location.isDelimited, hl, Parameter.isBody] at hd ⊢
      rw [h.isArray hbody]
      by_cases hk : p.fields.kind = .array
      · simp [Parameter.wire, hk, hd]
      · simp [Parameter.wire, hk]
    · simp [Parameter.wire, hd]

theorem ParameterBuilt.views {l : Loaded} {nodes : List (RefOr Parameter)}
    {built : List (Service.Parameter × WireParameter)}
    (h : List.Forall₂ (fun node pair => ∃ p, l.parameter node = .ok p ∧ ParameterBuilt p pair) nodes built) :
    List.Forall₂ ParametersAgree (built.map (·.1)) (built.map (·.2)) := by
  induction h with
  | nil => exact .nil
  | cons hp _ ih =>
    obtain ⟨p, _, hbuilt⟩ := hp
    exact .cons hbuilt.agree ih

namespace Loaded

variable {l : Loaded}

theorem MethodBuilt.agree {verb : Verb} {o : Operation} {shared : List (RefOr Parameter)}
    {built : Method × WireMethod} (h : l.MethodBuilt verb o shared built) :
    MethodsAgree built.1 built.2 := by
  refine ⟨h.name.trans h.wireName.symm, ?_⟩
  obtain ⟨ps, hps, habstract, hwire⟩ := h.parameters
  rw [habstract, hwire]
  exact ParameterBuilt.views hps

theorem MethodBuilt.methodOf {verb : Verb} {o : Operation} {shared : List (RefOr Parameter)}
    {built : Method × WireMethod} (h : l.MethodBuilt verb o shared built) :
    l.MethodOf (o, shared) built.1 := by
  refine ⟨h.name, ?_⟩
  obtain ⟨ps, hps, habstract, _⟩ := h.parameters
  rw [habstract]
  refine List.forall₂_map_right_iff.mpr (hps.imp ?_)
  rintro node pair ⟨p, hp, hbuilt⟩
  exact ⟨p, hp, hbuilt.name⟩

theorem MethodBuilt.views {shared : List (RefOr Parameter)} {operations : List (Verb × Operation)}
    {built : List (Method × WireMethod)}
    (h : List.Forall₂ (fun operation => l.MethodBuilt operation.1 operation.2 shared) operations built) :
    List.Forall₂ MethodsAgree (built.map (·.1)) (built.map (·.2)) ∧
      List.Forall₂ l.MethodOf (operations.map fun operation => (operation.2, shared)) (built.map (·.1)) := by
  induction h with
  | nil => exact ⟨.nil, .nil⟩
  | cons hm _ ih => exact ⟨.cons hm.agree ih.1, .cons hm.methodOf ih.2⟩

theorem PathBuilt.views {paths : List (String × PathItem)} {built : List (List Method × WirePath)}
    (h : List.Forall₂ l.PathBuilt paths built) :
    List.Forall₂ MethodsAgree (built.flatMap (·.1)) ((built.map (·.2)).flatMap WirePath.methods) ∧
      List.Forall₂ l.MethodOf (PathItem.operationsOf paths) (built.flatMap (·.1)) := by
  induction h with
  | nil => exact ⟨.nil, .nil⟩
  | cons hp _ ih =>
    obtain ⟨methods, hmethods, rfl⟩ := hp
    have hviews := MethodBuilt.views hmethods
    exact ⟨List.rel_append hviews.1 ih.1, List.rel_append hviews.2 ih.2⟩

theorem InterfaceBuilt.agree {group : String × List (String × PathItem)} {i : Interface}
    (h : l.InterfaceBuilt group i) : l.InterfaceAgrees group.2 i := by
  obtain ⟨paths, hpaths, rfl⟩ := h
  exact ⟨(PathBuilt.views hpaths).1, (PathBuilt.views hpaths).2⟩

end Loaded

/-- The interfaces are those of the groups of the paths, and in each one both views agree. -/
theorem views_agree {l : Loaded} {maxDepth : Nat} {service : Service}
    (h : l.describe maxDepth = .ok service) :
    List.Forall₂ (fun group i => l.InterfaceAgrees group.2 i) (groupPaths l.document.paths)
      service.interfaces :=
  (Loaded.interfaces_built h).imp fun _ _ => Loaded.InterfaceBuilt.agree

/-- For each method, its parameters that are arrays, and those of them whose items are joined. -/
def Service.Interface.arrays (i : Interface) : List (List String × List String) :=
  List.zip (i.methods.map fun m => (m.parameters.filter (·.type.isArray)).map (·.name))
    ((i.protocols.http.flatMap WirePath.methods).map fun m =>
      (m.parameters.filter (·.array.isSome)).map (·.name))

-- Neither the body of `addCar` nor the form field of the vans has its items joined.
theorem garage_views_agree : ∃ l service, Loaded.ofJson Json.garage = .ok l ∧
    l.describe defaultMaxDepth = .ok service ∧
    service.interfaces.map Interface.arrays =
      [[(["tags"], ["tags"]), (["car", "trace"], ["trace"]), (["id"], ["id"]), (["id"], ["id"])],
        [(["seats"], [])]] ∧
    List.Forall₂ (fun group i => l.InterfaceAgrees group.2 i) (groupPaths l.document.paths)
      service.interfaces := by
  obtain ⟨l, service, hl, h, harrays⟩ := Loaded.exists_described Json.garage defaultMaxDepth
    (fun _ service => service.interfaces.map Interface.arrays)
    [[(["tags"], ["tags"]), (["car", "trace"], ["trace"]), (["id"], ["id"]), (["id"], ["id"])],
      [(["seats"], [])]] (by decide +kernel)
  exact ⟨l, service, hl, h, harrays, views_agree h⟩

end SwaggerService
