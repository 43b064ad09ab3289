import SwaggerService.Describe

/-! # Congruence of walks

Every walk over a document is put together from the same few steps. A relation between walks that holds of
the steps, and that putting walks together keeps, therefore holds of the walks over two whole documents.
The induction over the classification is done once here, for any such relation. -/

namespace SwaggerService
open Service Walk

/-- A relation between walks over two documents that steps have and that putting walks together keeps.
`Fits` relates the levels that two walkers have. -/
structure Walk.Congruence (l l' : Loaded) (Fits : Nat → Nat → Prop)
    (R : ∀ α : Type, Walk α → Walk α → Prop) : Prop where
  pure : ∀ {α : Type} (a : α), R α (Pure.pure a) (Pure.pure a)
  bind : ∀ {α β : Type} {w w' : Walk α} {f f' : α → Walk β},
    R α w w' → (∀ a, R β (f a) (f' a)) → R β (w >>= f) (w' >>= f')
  note : ∀ e, R Unit (note e) (note e)
  claim : ∀ candidate, R String (claim candidate) (claim candidate)
  addEnum : ∀ e, R Unit (addEnum e) (addEnum e)
  addType : ∀ t, R Unit (addType t) (addType t)
  pointer : ∀ target, R Pointer (outcome (Loaded.pointer target)) (outcome (Loaded.pointer target))
  schemaAt : ∀ target, R Schema (schemaAt l target) (schemaAt l' target)
  schema : ∀ node, R Schema (schema l node) (schema l' node)
  ruleSet : ∀ s, R (List Rule) (ruleSet l s) (ruleSet l' s)
  parameter : ∀ node, R Parameter (outcome (l.parameter node)) (outcome (l'.parameter node))
  response : ∀ node, R Response (outcome (l.response node)) (outcome (l'.response node))
  level : ∀ {α : Type} {place : String} {w w' : Walk α}, R α w w' → R α (level place w) (level place w')
  /-- Where no level is left, a walk is refused. -/
  refuse : ∀ {α : Type} {room : Nat} {place : String} {w : Walk α}, Fits 0 room →
    (room = 0 → w = refuse place) → R α (refuse place) w
  below : ∀ {room room' : Nat}, Fits (room + 1) room' → ∃ lower, room' = lower + 1 ∧ Fits room lower
  walk : ∀ {α : Type} {body : Walker → Walk α},
    (∀ room room', Fits room room' → R α (body (Walker.withRoom l room)) (body (Walker.withRoom l' room'))) →
    R α (l.walk body) (l'.walk body)

/-- The three walks of one level are related to those of another. -/
structure Walker.Related (R : ∀ α : Type, Walk α → Walk α → Prop) (w w' : Walker) : Prop where
  node : ∀ part localName parentName,
    R Descriptor (w.node part localName parentName) (w'.node part localName parentName)
  schema : ∀ s localName parentName,
    R Descriptor (w.schema s localName parentName) (w'.schema s localName parentName)
  properties : ∀ s parentName,
    R (List Property) (w.properties s parentName) (w'.properties s parentName)

namespace Walk.Congruence

variable {l l' : Loaded} {Fits : Nat → Nat → Prop} {R : ∀ α : Type, Walk α → Walk α → Prop}
variable {below below' : Unit → Walker}

/-! ## Classification -/

theorem array (c : Congruence l l' Fits R) (hb : (below ()).Related R (below' ())) (s : Schema)
    (localName parentName : String) (rules : List Rule) :
    R Descriptor (Walker.array below s localName parentName rules)
      (Walker.array below' s localName parentName rules) := by
  unfold Walker.array
  cases s.items with
  | none => exact c.bind (c.pure _) fun _ => c.pure _
  | some items => exact c.bind (hb.node items localName parentName) fun _ => c.pure _

theorem reference (c : Congruence l l' Fits R) (hb : (below ()).Related R (below' ()))
    (target localName parentName : String) :
    R Descriptor (Walker.reference l below target localName parentName)
      (Walker.reference l' below' target localName parentName) := by
  unfold Walker.reference
  refine c.bind (c.pointer target) fun pointer => c.bind (c.schemaAt target) fun s =>
    c.bind (c.ruleSet s) fun rules => ?_
  cases pointer with
  | definition name =>
    dsimp only
    cases s.kind with
    | array => exact c.array hb s localName parentName rules
    | file | unrecognized => exact c.bind (c.note _) fun _ => c.pure _
    | object | string | number | integer | boolean | null => exact c.pure _
  | parameter | response | other => exact c.pure _

theorem nameEnum (c : Congruence l l' Fits R) (values : List String) (localName parentName : String)
    (rules : List Rule) :
    R Descriptor (Walker.nameEnum values localName parentName rules)
      (Walker.nameEnum values localName parentName rules) :=
  c.bind (c.claim _) fun _ => c.bind (c.addEnum _) fun _ => c.pure _

theorem nameObject (c : Congruence l l' Fits R) (hb : (below ()).Related R (below' ())) (s : Schema)
    (localName parentName : String) (rules : List Rule) :
    R Descriptor (Walker.nameObject below s localName parentName rules)
      (Walker.nameObject below' s localName parentName rules) :=
  c.bind (c.claim _) fun name => c.bind (hb.properties s name) fun _ =>
    c.bind (c.addType _) fun _ => c.pure _

theorem inline (c : Congruence l l' Fits R) (hb : (below ()).Related R (below' ())) (s : Schema)
    (localName parentName : String) :
    R Descriptor (Walker.inline l below s localName parentName)
      (Walker.inline l' below' s localName parentName) := by
  unfold Walker.inline
  refine c.bind (c.ruleSet s) fun rules => ?_
  cases s.kind with
  | string =>
    dsimp only
    match s.enumStrings with
    | some (value :: values) => exact c.nameEnum (value :: values) localName parentName rules
    | none | some [] => exact c.pure _
  | array => exact c.array hb s localName parentName rules
  | object => exact c.nameObject hb s localName parentName rules
  | file | unrecognized => exact c.bind (c.note _) fun _ => c.pure _
  | number | integer | boolean | null => exact c.pure _

theorem ownProperties (c : Congruence l l' Fits R) (hb : (below ()).Related R (below' ()))
    (required : List String) (parentName : String) (nodes : List (String × RefOr Schema)) :
    R (List Property) (Walker.ownProperties l below required parentName nodes)
      (Walker.ownProperties l' below' required parentName nodes) := by
  induction nodes with
  | nil => exact c.pure _
  | cons entry rest ih =>
    obtain ⟨name, node⟩ := entry
    have hfirst : R Property (Walker.property l below required parentName name node)
        (Walker.property l' below' required parentName name node) :=
      c.bind (c.schema node) fun s => c.bind (hb.schema s name parentName) fun _ => c.pure _
    exact c.bind hfirst fun _ => c.bind ih fun _ => c.pure _

theorem memberProperties (c : Congruence l l' Fits R) (hb : (below ()).Related R (below' ()))
    (required : List String) (parentName : String) (members : List (RefOr Schema)) :
    R (List Property) (Walker.memberProperties l below required parentName members)
      (Walker.memberProperties l' below' required parentName members) := by
  induction members with
  | nil => exact c.pure _
  | cons member rest ih =>
    exact c.bind (c.schema member) fun s =>
      c.bind (c.ownProperties hb required parentName s.properties) fun _ => c.bind ih fun _ => c.pure _

theorem allProperties (c : Congruence l l' Fits R) (hb : (below ()).Related R (below' ())) (s : Schema)
    (parentName : String) :
    R (List Property) (Walker.allProperties l below s parentName)
      (Walker.allProperties l' below' s parentName) := by
  unfold Walker.allProperties
  split
  · exact c.ownProperties hb s.required parentName s.properties
  · exact c.memberProperties hb s.required parentName s.allOf

theorem above (c : Congruence l l' Fits R) (hb : (below ()).Related R (below' ())) :
    (Walker.above l below).Related R (Walker.above l' below') where
  node part localName parentName := by
    refine c.level ?_
    cases part with
    | ref target => exact c.reference hb target localName parentName
    | item s => exact c.inline hb s localName parentName
  schema s localName parentName := c.level (c.inline hb s localName parentName)
  properties s parentName := c.level (c.allProperties hb s parentName)

theorem withRoom (c : Congruence l l' Fits R) : ∀ {room room' : Nat}, Fits room room' →
    (Walker.withRoom l room).Related R (Walker.withRoom l' room')
  | 0, _, h => {
      node := fun _ _ _ => c.refuse h fun h0 => by subst h0; rfl
      schema := fun _ _ _ => c.refuse h fun h0 => by subst h0; rfl
      properties := fun _ _ => c.refuse h fun h0 => by subst h0; rfl }
  | room + 1, _, h => by
    obtain ⟨lower, rfl, hlower⟩ := c.below h
    exact c.above (c.withRoom hlower)

/-! ## Documents -/

theorem classify (c : Congruence l l' Fits R) (node : RefOr Schema) (localName parentName : String) :
    R Descriptor (l.classify node localName parentName) (l'.classify node localName parentName) :=
  c.walk fun _ _ h => (c.withRoom h).node node localName parentName

theorem classifySchema (c : Congruence l l' Fits R) (s : Schema) (localName parentName : String) :
    R Descriptor (l.classifySchema s localName parentName) (l'.classifySchema s localName parentName) :=
  c.walk fun _ _ h => (c.withRoom h).schema s localName parentName

theorem properties (c : Congruence l l' Fits R) (s : Schema) (parentName : String) :
    R (List Property) (l.properties s parentName) (l'.properties s parentName) :=
  c.walk fun _ _ h => (c.withRoom h).properties s parentName

theorem methodParameter (c : Congruence l l' Fits R) (p : Parameter) (parentName : String) :
    R Service.Parameter (l.methodParameter p parentName) (l'.methodParameter p parentName) := by
  refine c.bind ?_ fun _ => c.pure _
  unfold Loaded.parameterType
  split
  · cases p.schema with
    | none => exact c.pure _
    | some node => exact c.classify node p.name parentName
  · exact c.classifySchema p.fields p.name parentName

theorem methodParameters (c : Congruence l l' Fits R) (parentName : String)
    (nodes : List (RefOr Parameter)) :
    R (List (Service.Parameter × WireParameter)) (l.methodParameters parentName nodes)
      (l'.methodParameters parentName nodes) := by
  induction nodes with
  | nil => exact c.pure _
  | cons node rest ih =>
    exact c.bind (c.parameter node) fun p =>
      c.bind (c.methodParameter p parentName) fun _ => c.bind ih fun _ => c.pure _

theorem returnType (c : Congruence l l' Fits R) (node : RefOr Response) (parentName : String) :
    R (Option Descriptor) (l.returnType node parentName) (l'.returnType node parentName) := by
  refine c.bind (c.response node) fun response => ?_
  cases response.schema with
  | none => exact c.pure _
  | some schema => exact c.bind (c.classify schema _ _) fun _ => c.pure _

theorem method (c : Congruence l l' Fits R) (verb : Verb) (o : Operation)
    (shared : List (RefOr Parameter)) :
    R (Method × WireMethod) (l.method verb o shared) (l'.method verb o shared) := by
  refine c.bind (c.note _) fun _ => c.bind (c.methodParameters _ _) fun parameters => ?_
  dsimp only
  cases SuccessKey.select o.responses with
  | none => exact c.bind (c.pure _) fun _ => c.pure _
  | some success => exact c.bind (c.returnType success.2 o.parentName) fun _ => c.pure _

theorem pathMethods (c : Congruence l l' Fits R) (shared : List (RefOr Parameter))
    (operations : List (Verb × Operation)) :
    R (List (Method × WireMethod)) (l.pathMethods shared operations) (l'.pathMethods shared operations) := by
  induction operations with
  | nil => exact c.pure _
  | cons entry rest ih => exact c.bind (c.method _ _ _) fun _ => c.bind ih fun _ => c.pure _

theorem groupMethods (c : Congruence l l' Fits R) (paths : List (String × PathItem)) :
    R (List (List Method × WirePath)) (l.groupMethods paths) (l'.groupMethods paths) := by
  induction paths with
  | nil => exact c.pure _
  | cons entry rest ih => exact c.bind (c.pathMethods _ _) fun _ => c.bind ih fun _ => c.pure _

theorem interfacesOf (c : Congruence l l' Fits R) (groups : List (String × List (String × PathItem))) :
    R (List Interface) (l.interfacesOf groups) (l'.interfacesOf groups) := by
  induction groups with
  | nil => exact c.pure _
  | cons group rest ih =>
    have hfirst : R Interface (l.interface group.1 group.2) (l'.interface group.1 group.2) :=
      c.bind (c.note _) fun _ => c.bind (c.groupMethods group.2) fun _ => c.pure _
    exact c.bind hfirst fun _ => c.bind ih fun _ => c.pure _

theorem definitionTypes (c : Congruence l l' Fits R) (definitions : List (String × Schema)) :
    R (List TypeDef) (l.definitionTypes definitions) (l'.definitionTypes definitions) := by
  induction definitions with
  | nil => exact c.pure _
  | cons entry rest ih => exact c.bind (c.properties _ _) fun _ => c.bind ih fun _ => c.pure _

/-- Whole documents, when they have the same paths and the same object definitions. -/
theorem parts (c : Congruence l l' Fits R) (hp : l'.document.paths = l.document.paths)
    (hd : l'.document.objectDefinitions = l.document.objectDefinitions) :
    R (List Interface × List TypeDef) l.parts l'.parts := by
  unfold Loaded.parts Loaded.interfaces
  rw [hp, hd]
  exact c.bind (c.interfacesOf _) fun _ => c.bind (c.definitionTypes _) fun _ => c.pure _

end Walk.Congruence

end SwaggerService
