import SwaggerService.Proofs.Citations
import SwaggerService.Proofs.Steps

/-! # Culprits

Describing a loaded document fails only for a reason that can be pointed at: a reference that is written in
the document and leads out of it or nowhere in it, or a limit that was in force. Typed sections and the
written document are two places to look a reference up; that a section lacks a name settles it for both. -/

namespace SwaggerService
open Service

/-- A fault has a cause: a reference that is written in a document and does not lead to a value of it, or
leads to one of another kind, or a limit that was reached. It is never one of reading a text. -/
def Fault.Blames (raw : Json) (maxDepth : Nat) : Fault → Prop
  | .unresolvedReference reference => reference.toList.head? = some '#' ∧ raw.Cites reference ∧
      ∃ steps, Pointer.steps? reference = some steps ∧ raw.at? steps = none
  | .externalReference reference => raw.Cites reference ∧ reference.toList.head? ≠ some '#'
  | .depthExceeded limit _ => limit = maxDepth ∨ limit = 32
  | .document (.target reference _) => raw.Cites reference
  | .document _ => False
  | .invalidVersion _ _ => True
  | .json _ => False
  | .yaml => False

theorem Pointer.steps?_of_parse {reference : String} {p : Pointer} (h : parse? reference = some p) :
    match p with
    | .definition name => steps? reference = some ["definitions", name]
    | .parameter name => steps? reference = some ["parameters", name]
    | .response name => steps? reference = some ["responses", name]
    | .other _ => steps? reference ≠ none := by
  unfold parse? at h
  split at h
  · cases h
  · cases h; assumption
  · cases h; assumption
  · cases h; assumption
  · next hs =>
    cases h
    simp [hs]

theorem Pointer.head_ne_of_steps {reference : String} (h : steps? reference = none) :
    reference.toList.head? ≠ some '#' := by
  intro hhead
  unfold steps? at h
  cases hraw : reference.toList with
  | nil => rw [hraw] at hhead; cases hhead
  | cons c path =>
    rw [hraw] at h hhead
    cases hhead
    cases h

theorem Pointer.steps?_eq_none {reference : String} (h : parse? reference = none) :
    steps? reference = none := by
  unfold parse? at h
  split at h
  · assumption
  · cases h
  · cases h
  · cases h
  · cases h

/-- Every reference of a landing is a known one. -/
def Landing.RefsIn (known : String → Prop) : Landing → Prop
  | .schema s => s.RefsIn known
  | .shapeless _ _ => True
  | .next further => known further

theorem Landing.ofNode_refsIn {known : String → Prop} {node : RefOr Schema}
    (h : node.RefsIn known (Schema.RefsIn known)) : (ofNode node).RefsIn known := by
  cases node with
  | ref target => exact h
  | item s => exact h

theorem Schema.mem_parts_of_items {s : Schema} {items : RefOr Schema} (h : s.items = some items) :
    items ∈ s.parts := by
  simp [parts, h]

theorem Schema.mem_parts_of_arrayItems {s : Schema} {items : RefOr Schema}
    (h : s.arrayItems? = some items) : items ∈ s.parts := by
  unfold arrayItems? at h
  split at h
  · exact mem_parts_of_items h
  · cases h

/-! ## Outcomes -/

namespace Loaded

variable {α β : Type} {l : Loaded} {limit : Nat} {good : α → Prop} {reference : String}

/-- An outcome is good, or a fault that has a cause. -/
def Honest (l : Loaded) (limit : Nat) (good : α → Prop) : Except Fault α → Prop
  | .ok a => good a
  | .error fault => fault.Blames l.raw limit

theorem Honest.bind {good' : β → Prop} {e : Except Fault α} {f : α → Except Fault β}
    (he : l.Honest limit good e) (hf : ∀ a, good a → l.Honest limit good' (f a)) :
    l.Honest limit good' (e >>= f) := by
  cases e with
  | error fault => exact he
  | ok a => exact hf a he

theorem pointer_honest (hr : l.raw.Cites reference) :
    l.Honest limit (fun p => Pointer.parse? reference = some p) (pointer reference) := by
  unfold pointer
  split
  · next p hp => exact hp
  · next hp => exact ⟨hr, Pointer.head_ne_of_steps (Pointer.steps?_eq_none hp)⟩

theorem entry_honest {parts : List (String × α)} {key name : String} (hr : l.raw.Cites reference)
    (hp : Pointer.steps? reference = some [key, name]) (hgood : ∀ entry ∈ parts, good entry.2)
    (hmiss : ∀ name, Entries.get? name parts = none → l.raw.at? [key, name] = none) :
    l.Honest limit good (entry parts reference name) := by
  unfold entry
  split
  · next part hpart => exact hgood _ (Entries.mem_of_get? hpart)
  · next hnone => exact ⟨Pointer.head_of_steps hp, hr, _, hp, hmiss name hnone⟩

theorem rawAt_honest (hr : l.raw.Cites reference) :
    l.Honest limit (Json.RefsIn l.raw.Cites) (l.rawAt reference) := by
  unfold rawAt
  split
  · next hp => exact ⟨hr, Pointer.head_ne_of_steps hp⟩
  · next steps hp =>
    split
    · next v hv => exact l.raw.refsIn_cites.at hv
    · next hnone => exact ⟨Pointer.head_of_steps hp, hr, steps, hp, hnone⟩

theorem partAt_honest {decode : Decoder α} (hr : l.raw.Cites reference)
    (hd : decode.Keeps l.raw.Cites good) : l.Honest limit good (l.partAt decode reference) := by
  refine (rawAt_honest hr).bind fun v hv => ?_
  cases hread : decode v with
  | error fault => exact hr
  | ok a => exact hd v a hv hread

theorem landRaw_refsIn {v : Json} (hv : v.RefsIn l.raw.Cites) :
    (landRaw reference v).RefsIn l.raw.Cites := by
  unfold landRaw
  split
  · next further hfurther => exact hv.target hfurther
  · split
    · next s hs => exact Schema.decode_refsIn v hv hs
    · trivial

theorem land_honest (hl : l.Faithful) (hr : l.raw.Cites reference) :
    l.Honest limit (Landing.RefsIn l.raw.Cites) (l.land reference) := by
  refine (pointer_honest hr).bind fun pointer hp => ?_
  cases pointer with
  | definition name =>
    -- What a section lacks the written document lacks too, so a miss here is one there.
    exact (entry_honest hr (Pointer.steps?_of_parse hp) hl.refs.definitions hl.definitions).bind
      fun s hs => hs
  | parameter name =>
    refine (entry_honest hr (Pointer.steps?_of_parse hp) hl.refs.parameters hl.parameters).bind
      fun p hgood => ?_
    cases hs : p.schema with
    | some node =>
      dsimp only
      split
      · exact Landing.ofNode_refsIn (hgood.schema node hs)
      · exact hgood.fields
    | none => exact hgood.fields
  | response name =>
    refine (entry_honest hr (Pointer.steps?_of_parse hp) hl.refs.responses hl.responses).bind
      fun r hgood => ?_
    cases hs : r.schema with
    | some node => exact Landing.ofNode_refsIn (hgood node hs)
    | none => exact Schema.refsIn_empty
  | other raw => exact (rawAt_honest hr).bind fun v hv => landRaw_refsIn hv

theorem chase_honest (hl : l.Faithful) (hops : Nat) (hr : l.raw.Cites reference) :
    l.Honest limit (Landing.RefsIn l.raw.Cites) (l.chase hops reference) := by
  induction hops generalizing reference with
  | zero => exact .inr rfl
  | succ hops ih =>
    refine (land_honest hl hr).bind fun landing hgood => ?_
    cases landing with
    | next further => exact ih hgood
    | schema s => exact hgood
    | shapeless => exact hgood

theorem schemaAt_honest (hl : l.Faithful) (hr : l.raw.Cites reference) :
    l.Honest limit (Schema.RefsIn l.raw.Cites) (l.schemaAt reference) := by
  have hchase : l.Honest limit (Landing.RefsIn l.raw.Cites) (l.chase maxHops reference) :=
    chase_honest hl maxHops hr
  unfold schemaAt
  cases hlanding : l.chase maxHops reference with
  | error fault =>
    rw [hlanding] at hchase
    exact hchase
  | ok landing =>
    rw [hlanding] at hchase
    cases landing with
    | schema s => exact hchase
    | shapeless | next => exact Schema.refsIn_empty

theorem schema_honest (hl : l.Faithful) {node : RefOr Schema}
    (hn : node.RefsIn l.raw.Cites (Schema.RefsIn l.raw.Cites)) :
    l.Honest limit (Schema.RefsIn l.raw.Cites) (l.schema node) := by
  cases node with
  | item s => exact hn
  | ref target => exact schemaAt_honest hl hn

theorem parameter_honest (hl : l.Faithful) {node : RefOr Parameter}
    (hn : node.RefsIn l.raw.Cites (Parameter.RefsIn l.raw.Cites)) :
    l.Honest limit (Parameter.RefsIn l.raw.Cites) (l.parameter node) := by
  cases node with
  | item p => exact hn
  | ref target =>
    refine (pointer_honest hn).bind fun pointer hp => ?_
    cases pointer with
    | parameter name =>
      exact entry_honest hn (Pointer.steps?_of_parse hp) hl.refs.parameters hl.parameters
    | definition | response | other => exact partAt_honest hn Parameter.decode_keeps

theorem response_honest (hl : l.Faithful) {node : RefOr Response}
    (hn : node.RefsIn l.raw.Cites (Response.RefsIn l.raw.Cites)) :
    l.Honest limit (Response.RefsIn l.raw.Cites) (l.response node) := by
  cases node with
  | item r => exact hn
  | ref target =>
    refine (pointer_honest hn).bind fun pointer hp => ?_
    cases pointer with
    | response name =>
      exact entry_honest hn (Pointer.steps?_of_parse hp) hl.refs.responses hl.responses
    | definition | parameter | other => exact partAt_honest hn Response.decode_keeps

theorem ruleSet_honest (hl : l.Faithful) {s : Schema} (hs : s.RefsIn l.raw.Cites) :
    l.Honest limit (fun _ => True) (l.ruleSet s) := by
  unfold ruleSet
  cases hi : s.arrayItems? with
  | none => trivial
  | some items => exact (schema_honest hl (hs.part (Schema.mem_parts_of_arrayItems hi))).bind fun _ _ => trivial

end Loaded

/-! ## Walks -/

namespace Walk

open Loaded

variable {α β : Type} {l : Loaded} {limit : Nat} {good : α → Prop}

/-- Under a limit a walk keeps to it, and gives a good value or a fault that has a cause. -/
def Honest (l : Loaded) (limit : Nat) (good : α → Prop) (w : Walk α) : Prop :=
  ∀ run, run.registry.maxDepth = limit →
    l.Honest limit good (w run).1 ∧ (w run).2.registry.maxDepth = limit

/-- The same of a walk whose value does not matter. -/
def Sincere (l : Loaded) (limit : Nat) (w : Walk α) : Prop := Honest l limit (fun _ => True) w

theorem Honest.bind {good' : β → Prop} {w : Walk α} {f : α → Walk β} (hw : Honest l limit good w)
    (hf : ∀ a, good a → Honest l limit good' (f a)) : Honest l limit good' (w >>= f) := by
  intro run hrun
  obtain ⟨hout, hlimit⟩ := hw run hrun
  rw [bind_eq]
  rcases hres : w run with ⟨fault | a, mid⟩
  · rw [hres] at hout hlimit
    exact ⟨hout, hlimit⟩
  · rw [hres] at hout hlimit
    exact hf a hout mid hlimit

theorem outcome_honest {e : Except Fault α} (h : l.Honest limit good e) :
    Honest l limit good (outcome e) := fun _ hrun => ⟨h, hrun⟩

theorem pure_sincere (a : α) : Sincere l limit (Pure.pure a) := fun _ hrun => ⟨trivial, hrun⟩

theorem Steady.sincere {w : Walk α} (hw : Steady w) (hok : ∀ run, ∃ a, (w run).1 = .ok a) :
    Sincere l limit w := by
  intro run hrun
  obtain ⟨a, ha⟩ := hok run
  rw [ha]
  exact ⟨trivial, (hw run).maxDepth.trans hrun⟩

theorem note_sincere (e : Event) : Sincere l limit (note e) :=
  (note_steady e).sincere fun _ => ⟨(), rfl⟩

theorem addEnum_sincere (e : EnumDef) : Sincere l limit (addEnum e) :=
  (addEnum_steady e).sincere fun _ => ⟨(), rfl⟩

theorem addType_sincere (t : TypeDef) : Sincere l limit (addType t) :=
  (addType_steady t).sincere fun _ => ⟨(), rfl⟩

theorem claim_sincere (candidate : String) : Sincere l limit (claim candidate) :=
  (claim_steady candidate).sincere fun run => ⟨_, by rw [claim_eq]⟩

theorem noteShapeless_sincere (target : String) : Sincere l limit (noteShapeless l target) := by
  unfold noteShapeless
  split
  · exact note_sincere _
  · exact pure_sincere _

theorem noteNode_sincere (node : RefOr Schema) : Sincere l limit (noteNode l node) := by
  cases node with
  | ref target => exact noteShapeless_sincere target
  | item s => exact pure_sincere _

theorem schemaAt_honest (hl : l.Faithful) {target : String} (hr : l.raw.Cites target) :
    Honest l limit (Schema.RefsIn l.raw.Cites) (schemaAt l target) :=
  (noteShapeless_sincere target).bind fun _ _ => outcome_honest (Loaded.schemaAt_honest hl hr)

theorem schema_honest (hl : l.Faithful) {node : RefOr Schema}
    (hn : node.RefsIn l.raw.Cites (Schema.RefsIn l.raw.Cites)) :
    Honest l limit (Schema.RefsIn l.raw.Cites) (schema l node) :=
  (noteNode_sincere node).bind fun _ _ => outcome_honest (Loaded.schema_honest hl hn)

theorem ruleSet_sincere (hl : l.Faithful) {s : Schema} (hs : s.RefsIn l.raw.Cites) :
    Sincere l limit (ruleSet l s) := by
  unfold ruleSet
  split
  · exact (noteNode_sincere _).bind fun _ _ => outcome_honest (Loaded.ruleSet_honest hl hs)
  · exact outcome_honest (Loaded.ruleSet_honest hl hs)

theorem level_sincere {place : String} {w : Walk α} (hw : Sincere l limit w) :
    Sincere l limit (level place w) := by
  intro run hrun
  rw [level_eq]
  split
  · exact ⟨.inl hrun, hrun⟩
  · exact hw run.deeper hrun

theorem refuse_sincere (place : String) : Sincere l limit (refuse place : Walk α) :=
  fun _ hrun => ⟨.inl hrun, hrun⟩

end Walk

/-! ## Classification -/

namespace Walker

open Walk Loaded

variable {l : Loaded} {limit : Nat} {below : Unit → Walker}

/-- Walks over schemas whose references are written ones give values, or faults that have a cause. -/
structure Sincere (l : Loaded) (limit : Nat) (w : Walker) : Prop where
  node : ∀ {part : RefOr Schema} (localName parentName : String),
    part.RefsIn l.raw.Cites (Schema.RefsIn l.raw.Cites) →
    Walk.Sincere l limit (w.node part localName parentName)
  schema : ∀ {s : Schema} (localName parentName : String), s.RefsIn l.raw.Cites →
    Walk.Sincere l limit (w.schema s localName parentName)
  properties : ∀ {s : Schema} (parentName : String), s.RefsIn l.raw.Cites →
    Walk.Sincere l limit (w.properties s parentName)

theorem array_sincere (hb : (below ()).Sincere l limit) {s : Schema} (hs : s.RefsIn l.raw.Cites)
    (localName parentName : String) (rules : List Rule) :
    Walk.Sincere l limit (array below s localName parentName rules) := by
  unfold array
  cases hi : s.items with
  | none => exact (pure_sincere _).bind fun _ _ => pure_sincere _
  | some items =>
    exact (hb.node localName parentName (hs.part (Schema.mem_parts_of_items hi))).bind fun _ _ =>
      pure_sincere _

theorem reference_sincere (hl : l.Faithful) (hb : (below ()).Sincere l limit) {target : String}
    (hr : l.raw.Cites target) (localName parentName : String) :
    Walk.Sincere l limit (reference l below target localName parentName) := by
  refine (outcome_honest (pointer_honest hr)).bind fun pointer _ => ?_
  refine (Walk.schemaAt_honest hl hr).bind fun s hs => ?_
  refine (ruleSet_sincere hl hs).bind fun rules _ => ?_
  cases pointer with
  | definition name =>
    dsimp only
    cases s.kind with
    | array => exact array_sincere hb hs localName parentName rules
    | file | unrecognized => exact (note_sincere _).bind fun _ _ => pure_sincere _
    | object | string | number | integer | boolean | null => exact pure_sincere _
  | parameter | response | other => exact pure_sincere _

theorem inline_sincere (hl : l.Faithful) (hb : (below ()).Sincere l limit) {s : Schema}
    (hs : s.RefsIn l.raw.Cites) (localName parentName : String) :
    Walk.Sincere l limit (inline l below s localName parentName) := by
  refine (ruleSet_sincere hl hs).bind fun rules _ => ?_
  cases s.kind with
  | string =>
    dsimp only
    split
    · exact (claim_sincere _).bind fun _ _ => (addEnum_sincere _).bind fun _ _ => pure_sincere _
    · exact pure_sincere _
  | array => exact array_sincere hb hs localName parentName rules
  | object =>
    refine (claim_sincere _).bind fun name _ => (hb.properties name hs).bind fun _ _ => ?_
    exact (addType_sincere _).bind fun _ _ => pure_sincere _
  | file | unrecognized => exact (note_sincere _).bind fun _ _ => pure_sincere _
  | number | integer | boolean | null => exact pure_sincere _

theorem ownProperties_sincere (hl : l.Faithful) (hb : (below ()).Sincere l limit)
    (required : List String) (parentName : String) {properties : List (String × RefOr Schema)}
    (hp : ∀ member ∈ properties, member.2.RefsIn l.raw.Cites (Schema.RefsIn l.raw.Cites)) :
    Walk.Sincere l limit (ownProperties l below required parentName properties) := by
  induction properties with
  | nil => exact pure_sincere _
  | cons member rest ih =>
    obtain ⟨name, node⟩ := member
    obtain ⟨hnode, hrest⟩ := List.forall_mem_cons.mp hp
    have hproperty : Walk.Sincere l limit (property l below required parentName name node) := by
      refine (Walk.schema_honest hl hnode).bind fun s hs => ?_
      exact (hb.schema name parentName hs).bind fun _ _ => pure_sincere _
    exact hproperty.bind fun _ _ => (ih hrest).bind fun _ _ => pure_sincere _

theorem memberProperties_sincere (hl : l.Faithful) (hb : (below ()).Sincere l limit)
    (required : List String) (parentName : String) {members : List (RefOr Schema)}
    (hm : ∀ member ∈ members, member.RefsIn l.raw.Cites (Schema.RefsIn l.raw.Cites)) :
    Walk.Sincere l limit (memberProperties l below required parentName members) := by
  induction members with
  | nil => exact pure_sincere _
  | cons member rest ih =>
    obtain ⟨hmember, hrest⟩ := List.forall_mem_cons.mp hm
    refine (Walk.schema_honest hl hmember).bind fun s hs => ?_
    have hproperties := (Schema.forall_parts.mp (Schema.refsIn_iff.mp hs)).2.1
    exact (ownProperties_sincere hl hb required parentName hproperties).bind fun _ _ =>
      (ih hrest).bind fun _ _ => pure_sincere _

theorem allProperties_sincere (hl : l.Faithful) (hb : (below ()).Sincere l limit) {s : Schema}
    (hs : s.RefsIn l.raw.Cites) (parentName : String) :
    Walk.Sincere l limit (allProperties l below s parentName) := by
  obtain ⟨_, hproperties, hmembers⟩ := Schema.forall_parts.mp (Schema.refsIn_iff.mp hs)
  unfold allProperties
  split
  · exact ownProperties_sincere hl hb s.required parentName hproperties
  · exact memberProperties_sincere hl hb s.required parentName hmembers

theorem above_sincere (hl : l.Faithful) (hb : (below ()).Sincere l limit) :
    (above l below).Sincere l limit where
  node {part} localName parentName hp := by
    refine level_sincere ?_
    cases part with
    | ref target => exact reference_sincere hl hb hp localName parentName
    | item s => exact inline_sincere hl hb hp localName parentName
  schema localName parentName hs := level_sincere (inline_sincere hl hb hs localName parentName)
  properties parentName hs := level_sincere (allProperties_sincere hl hb hs parentName)

theorem withRoom_sincere (hl : l.Faithful) : ∀ room, (withRoom l room).Sincere l limit
  | 0 => ⟨fun _ _ _ => refuse_sincere _, fun _ _ _ => refuse_sincere _, fun _ _ => refuse_sincere _⟩
  | room + 1 => above_sincere hl (withRoom_sincere hl room)

end Walker

/-! ## Documents -/

theorem SuccessKey.mem_of_least {α : Type} {entries : List (Nat × α)} {found : Nat × α}
    (h : least? entries = some found) : found ∈ entries := by
  induction entries generalizing found with
  | nil => cases h
  | cons first rest ih =>
    unfold least? at h
    split at h
    · next other hother =>
      split at h
      · cases h
        exact List.mem_cons_of_mem _ (ih hother)
      · cases h
        exact List.mem_cons_self
    · cases h
      exact List.mem_cons_self

theorem SuccessKey.mem_of_select {α : Type} {responses : List (String × α)} {found : SuccessKey × α}
    (h : select responses = some found) : ∃ entry ∈ responses, entry.2 = found.2 := by
  unfold select at h
  split at h
  · next code response hleast =>
    cases h
    obtain ⟨⟨key, _⟩, hentry, hcode⟩ := List.mem_filterMap.mp (mem_of_least hleast)
    obtain ⟨_, _, hpair⟩ := Option.map_eq_some_iff.mp hcode
    cases hpair
    exact ⟨_, hentry, rfl⟩
  · obtain ⟨response, hdefault, rfl⟩ := Option.map_eq_some_iff.mp h
    exact ⟨_, Entries.mem_of_get? hdefault, rfl⟩

namespace Loaded

open Walk

variable {l : Loaded} {limit : Nat}

theorem walk_sincere {α : Type} {body : Walker → Walk α} (hl : l.Faithful)
    (h : ∀ w : Walker, w.Sincere l limit → Sincere l limit (body w)) : Sincere l limit (l.walk body) :=
  fun run => h _ (Walker.withRoom_sincere hl run.registry.room) run

theorem classify_sincere (hl : l.Faithful) {node : RefOr Schema} (localName parentName : String)
    (hn : node.RefsIn l.raw.Cites (Schema.RefsIn l.raw.Cites)) :
    Sincere l limit (l.classify node localName parentName) :=
  walk_sincere hl fun _ hw => hw.node localName parentName hn

theorem methodParameter_sincere (hl : l.Faithful) {p : Parameter} (hp : p.RefsIn l.raw.Cites)
    (parentName : String) : Sincere l limit (l.methodParameter p parentName) := by
  have htype : Sincere l limit (l.parameterType p parentName) := by
    unfold parameterType
    split
    · cases hs : p.schema with
      | none => exact pure_sincere _
      | some node => exact classify_sincere hl p.name parentName (hp.schema node hs)
    · exact walk_sincere hl fun _ hw => hw.schema p.name parentName hp.fields
  exact htype.bind fun _ _ => pure_sincere _

theorem methodParameters_sincere (hl : l.Faithful) (parentName : String) {nodes : List (RefOr Parameter)}
    (h : ∀ node ∈ nodes, node.RefsIn l.raw.Cites (Parameter.RefsIn l.raw.Cites)) :
    Sincere l limit (l.methodParameters parentName nodes) := by
  induction nodes with
  | nil => exact pure_sincere _
  | cons node rest ih =>
    obtain ⟨hnode, hrest⟩ := List.forall_mem_cons.mp h
    refine (outcome_honest (parameter_honest hl hnode)).bind fun p hp => ?_
    exact (methodParameter_sincere hl hp parentName).bind fun _ _ => (ih hrest).bind fun _ _ =>
      pure_sincere _

theorem returnType_sincere (hl : l.Faithful) {node : RefOr Response}
    (hn : node.RefsIn l.raw.Cites (Response.RefsIn l.raw.Cites)) (parentName : String) :
    Sincere l limit (l.returnType node parentName) := by
  refine (outcome_honest (response_honest hl hn)).bind fun response hr => ?_
  cases hs : response.schema with
  | none => exact pure_sincere _
  | some schema => exact (classify_sincere hl _ _ (hr schema hs)).bind fun _ _ => pure_sincere _

theorem method_sincere (hl : l.Faithful) (verb : Verb) {o : Operation} {shared : List (RefOr Parameter)}
    (ho : o.RefsIn l.raw.Cites)
    (hs : ∀ node ∈ shared, node.RefsIn l.raw.Cites (Parameter.RefsIn l.raw.Cites)) :
    Sincere l limit (l.method verb o shared) := by
  have hparameters := List.forall_mem_append.mpr ⟨ho.parameters, hs⟩
  refine (note_sincere _).bind fun _ _ => ?_
  refine (methodParameters_sincere hl o.parentName hparameters).bind fun _ _ => ?_
  dsimp only
  cases hsuccess : SuccessKey.select o.responses with
  | none => exact (pure_sincere _).bind fun _ _ => pure_sincere _
  | some success =>
    obtain ⟨entry, hentry, hnode⟩ := SuccessKey.mem_of_select hsuccess
    have hresponse := hnode ▸ ho.responses entry hentry
    exact (returnType_sincere hl hresponse o.parentName).bind fun _ _ => pure_sincere _

theorem pathMethods_sincere (hl : l.Faithful) {shared : List (RefOr Parameter)}
    {operations : List (Verb × Operation)}
    (hs : ∀ node ∈ shared, node.RefsIn l.raw.Cites (Parameter.RefsIn l.raw.Cites))
    (ho : ∀ operation ∈ operations, operation.2.RefsIn l.raw.Cites) :
    Sincere l limit (l.pathMethods shared operations) := by
  induction operations with
  | nil => exact pure_sincere _
  | cons operation rest ih =>
    obtain ⟨hfirst, hrest⟩ := List.forall_mem_cons.mp ho
    exact (method_sincere hl _ hfirst hs).bind fun _ _ => (ih hrest).bind fun _ _ => pure_sincere _

theorem groupMethods_sincere (hl : l.Faithful) {paths : List (String × PathItem)}
    (h : ∀ path ∈ paths, path.2.RefsIn l.raw.Cites) : Sincere l limit (l.groupMethods paths) := by
  induction paths with
  | nil => exact pure_sincere _
  | cons path rest ih =>
    obtain ⟨hfirst, hrest⟩ := List.forall_mem_cons.mp h
    exact (pathMethods_sincere hl hfirst.parameters hfirst.operations).bind fun _ _ =>
      (ih hrest).bind fun _ _ => pure_sincere _

theorem interfacesOf_sincere (hl : l.Faithful) {groups : List (String × List (String × PathItem))}
    (h : ∀ group ∈ groups, ∀ path ∈ group.2, path.2.RefsIn l.raw.Cites) :
    Sincere l limit (l.interfacesOf groups) := by
  induction groups with
  | nil => exact pure_sincere _
  | cons group rest ih =>
    obtain ⟨hfirst, hrest⟩ := List.forall_mem_cons.mp h
    have hinterface : Sincere l limit (l.interface group.1 group.2) :=
      (note_sincere _).bind fun _ _ => (groupMethods_sincere hl hfirst).bind fun _ _ => pure_sincere _
    exact hinterface.bind fun _ _ => (ih hrest).bind fun _ _ => pure_sincere _

theorem definitionTypes_sincere (hl : l.Faithful) {definitions : List (String × Schema)}
    (h : ∀ entry ∈ definitions, entry.2.RefsIn l.raw.Cites) :
    Sincere l limit (l.definitionTypes definitions) := by
  induction definitions with
  | nil => exact pure_sincere _
  | cons entry rest ih =>
    obtain ⟨hfirst, hrest⟩ := List.forall_mem_cons.mp h
    have hproperties : Sincere l limit (l.properties entry.2 entry.1) :=
      walk_sincere hl fun _ hw => hw.properties entry.1 hfirst
    exact hproperties.bind fun _ _ => (ih hrest).bind fun _ _ => pure_sincere _

theorem parts_sincere (hl : l.Faithful) : Sincere l limit l.parts := by
  refine (interfacesOf_sincere hl ?_).bind fun _ _ => (definitionTypes_sincere hl ?_).bind fun _ _ =>
    pure_sincere _
  · exact fun group hgroup path hpath => hl.refs.paths path (mem_groupPaths hgroup hpath)
  · exact fun entry hentry => hl.refs.definitions entry (List.mem_filter.mp hentry).1

theorem majorVersion_honest (l : Loaded) : l.Honest limit (fun _ => True) l.majorVersion := by
  dsimp only [majorVersion]
  cases Version.parse l.document.info.version with
  | error cause => trivial
  | ok version => trivial

theorem describe_honest (hl : l.Faithful) (maxDepth : Nat) :
    l.Honest maxDepth (fun _ => True) (l.describe maxDepth) := by
  have hstart : (l.startRegistry maxDepth).maxDepth = maxDepth := by rw [startRegistry_eq]
  have hparts := (parts_sincere hl { registry := l.startRegistry maxDepth } hstart).1
  rw [describe_eq]
  refine l.majorVersion_honest.bind fun major _ => ?_
  rcases hrun : l.parts { registry := l.startRegistry maxDepth } with ⟨fault | ⟨interfaces, types⟩, run⟩
  · rw [hrun] at hparts
    exact hparts
  · trivial

end Loaded

/-- A loaded document is described, or fails for a reason that can be pointed at in it. -/
theorem describe_blames {raw : Json} {l : Loaded} {maxDepth : Nat} {fault : Fault}
    (hl : Loaded.ofJson raw = .ok l) (h : l.describe maxDepth = .error fault) :
    fault.Blames raw maxDepth := by
  obtain ⟨hfaithful, rfl⟩ := Loaded.ofJson_faithful hl
  have hhonest := Loaded.describe_honest hfaithful maxDepth
  rw [h] at hhonest
  exact hhonest

/-- A document with a reference out of a definition. -/
def Json.shelf (target : String) : Json :=
  let ref (target : String) : Json := .object [("$ref", .string target)]
  .object [
    ("info", .object [("title", .string "shelf"), ("version", .string "1.0.0")]),
    ("definitions", .object [("Shelf", .object [("type", .string "object"), ("properties", .object [
      ("next", .object [("type", .string "array"), ("items", ref "#/definitions/Shelf")]),
      ("first", ref target)])])])]

/-- Loading a document and failing to describe it, to look at the fault. -/
theorem Loaded.exists_failed (raw : Json) (maxDepth : Nat) (text : String)
    (h : ((ofJson raw).toOption.bind fun l =>
      match l.describe maxDepth with
      | .ok _ => none
      | .error fault => some fault.message) = some text) :
    ∃ l fault, ofJson raw = .ok l ∧ l.describe maxDepth = .error fault ∧ fault.message = text := by
  obtain ⟨l, hl, h⟩ := Option.bind_eq_some_iff.mp h
  have hread : ofJson raw = .ok l := toOption_eq_some.mp hl
  split at h
  · cases h
  · next fault hfault => exact ⟨l, fault, hread, hfault, Option.some.inj h⟩

theorem shelf_describe_blames :
    (∃ l fault, Loaded.ofJson (Json.shelf "#/definitions/a~1b") = .ok l ∧
      l.describe defaultMaxDepth = .error fault ∧
      fault.message = "Unable to resolve reference '#/definitions/a~1b'" ∧
      fault.Blames (Json.shelf "#/definitions/a~1b") defaultMaxDepth) ∧
    (∃ l fault, Loaded.ofJson (Json.shelf "books.json") = .ok l ∧
      l.describe defaultMaxDepth = .error fault ∧
      fault.message = "External reference 'books.json' is not supported" ∧
      fault.Blames (Json.shelf "books.json") defaultMaxDepth) := by
  constructor
  · obtain ⟨l, fault, hl, h, hm⟩ := Loaded.exists_failed (Json.shelf "#/definitions/a~1b") defaultMaxDepth
      "Unable to resolve reference '#/definitions/a~1b'" (by decide +kernel)
    exact ⟨l, fault, hl, h, hm, describe_blames hl h⟩
  · obtain ⟨l, fault, hl, h, hm⟩ := Loaded.exists_failed (Json.shelf "books.json") defaultMaxDepth
      "External reference 'books.json' is not supported" (by decide +kernel)
    exact ⟨l, fault, hl, h, hm, describe_blames hl h⟩

end SwaggerService
