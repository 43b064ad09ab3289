import SwaggerService.Proofs.Returns

/-! # Steps that no limit of depth matters to

All that a walk does besides going down a level. Such a step leaves the depth and its limit as they are,
does the same under any other limit, and when it fails the limit has no part in that. What a walk does at a
limit is then a matter of its levels alone. -/

namespace SwaggerService
open Service

/-- The same state under another limit. -/
def Run.withLimit (run : Run) (limit : Nat) : Run :=
  { run with registry := { run.registry with maxDepth := limit } }

/-- A fault that the limit of nesting has no part in. Chains of references have a limit of their own. -/
def Fault.Unlimited : Fault → Prop
  | .depthExceeded limit _ => limit = Loaded.maxHops
  | _ => True

namespace Loaded

variable {α β : Type} {l : Loaded}

/-- The limit of nesting has no part in the fault of an outcome, if there is one. -/
def Unlimited (e : Except Fault α) : Prop := ∀ fault, e = .error fault → fault.Unlimited

theorem Unlimited.ok (a : α) : Unlimited (.ok a) := nofun

theorem Unlimited.error {fault : Fault} (h : fault.Unlimited) :
    Unlimited (.error fault : Except Fault α) := by
  rintro _ ⟨⟩
  exact h

theorem Unlimited.bind {e : Except Fault α} {f : α → Except Fault β} (he : Unlimited e)
    (hf : ∀ a, Unlimited (f a)) : Unlimited (e >>= f) := by
  cases e with
  | error fault => exact .error (he fault rfl)
  | ok a => exact hf a

theorem pointer_unlimited (reference : String) : Unlimited (pointer reference) := by
  unfold pointer
  split
  · exact .ok _
  · exact .error trivial

theorem entry_unlimited (parts : List (String × α)) (reference name : String) :
    Unlimited (entry parts reference name) := by
  unfold entry
  split
  · exact .ok _
  · exact .error trivial

theorem rawAt_unlimited (l : Loaded) (reference : String) : Unlimited (l.rawAt reference) := by
  unfold rawAt
  split
  · exact .error trivial
  · split
    · exact .ok _
    · exact .error trivial

theorem partAt_unlimited (l : Loaded) (decode : Decoder α) (reference : String) :
    Unlimited (l.partAt decode reference) := by
  refine (rawAt_unlimited l reference).bind fun v => ?_
  cases decode v with
  | error fault => exact .error trivial
  | ok a => exact .ok a

theorem land_unlimited (l : Loaded) (reference : String) : Unlimited (l.land reference) := by
  refine (pointer_unlimited reference).bind fun pointer => ?_
  cases pointer with
  | definition name => exact (entry_unlimited _ _ _).bind fun _ => .ok _
  | parameter name =>
    refine (entry_unlimited _ _ _).bind fun p => ?_
    cases p.schema with
    | some node => exact .ok _
    | none => exact .ok _
  | response name =>
    refine (entry_unlimited _ _ _).bind fun r => ?_
    cases r.schema with
    | some node => exact .ok _
    | none => exact .ok _
  | other raw => exact (rawAt_unlimited l reference).bind fun _ => .ok _

theorem chase_unlimited (l : Loaded) (hops : Nat) (reference : String) :
    Unlimited (l.chase hops reference) := by
  induction hops generalizing reference with
  | zero => exact .error rfl
  | succ hops ih =>
    refine (land_unlimited l reference).bind fun landing => ?_
    cases landing with
    | next further => exact ih further
    | schema found => exact .ok _
    | shapeless reference fault => exact .ok _

theorem schemaAt_unlimited (l : Loaded) (reference : String) : Unlimited (l.schemaAt reference) := by
  have hmap : l.schemaAt reference = l.chase maxHops reference >>= fun landing => .ok landing.toSchema := by
    rw [schemaAt]
    cases l.chase maxHops reference <;> rfl
  rw [hmap]
  exact (chase_unlimited l _ _).bind fun _ => .ok _

theorem schema_unlimited (l : Loaded) (node : RefOr Schema) : Unlimited (l.schema node) := by
  cases node with
  | item part => exact .ok part
  | ref target => exact schemaAt_unlimited l target

theorem parameter_unlimited (l : Loaded) (node : RefOr Parameter) : Unlimited (l.parameter node) := by
  cases node with
  | item p => exact .ok p
  | ref target =>
    refine (pointer_unlimited target).bind fun pointer => ?_
    cases pointer with
    | parameter name => exact entry_unlimited _ _ _
    | definition | response | other => exact partAt_unlimited l _ _

theorem response_unlimited (l : Loaded) (node : RefOr Response) : Unlimited (l.response node) := by
  cases node with
  | item r => exact .ok r
  | ref target =>
    refine (pointer_unlimited target).bind fun pointer => ?_
    cases pointer with
    | response name => exact entry_unlimited _ _ _
    | definition | parameter | other => exact partAt_unlimited l _ _

theorem ruleSet_unlimited (l : Loaded) (s : Schema) : Unlimited (l.ruleSet s) := by
  unfold ruleSet
  split
  · exact .ok _
  · exact (schema_unlimited l _).bind fun _ => .ok _

end Loaded

namespace Walk

open Loaded

variable {α β : Type} {w : Walk α}

/-- From a state, a walk leaves the depth and its limit as they are, the limit has no part in its fault, and
under any other limit it does the same. -/
structure SteadyAt (w : Walk α) (run : Run) : Prop where
  fault : Unlimited (w run).1
  depth : (w run).2.registry.depth = run.registry.depth
  maxDepth : (w run).2.registry.maxDepth = run.registry.maxDepth
  withLimit : ∀ limit, w (run.withLimit limit) = ((w run).1, (w run).2.withLimit limit)

/-- A step that no limit of depth matters to. -/
def Steady (w : Walk α) : Prop := ∀ run, SteadyAt w run

theorem Steady.bind {f : α → Walk β} (hw : Steady w) (hf : ∀ a, Steady (f a)) : Steady (w >>= f) := by
  intro run
  obtain ⟨hfault, hdepth, hmaxDepth, hsame⟩ := hw run
  rcases hrun : w run with ⟨fault | a, mid⟩
  · simp only [hrun] at hfault hdepth hmaxDepth hsame
    constructor <;> simp only [bind_eq, hrun, hsame, implies_true]
    · exact .error (hfault fault rfl)
    · exact hdepth
    · exact hmaxDepth
  · simp only [hrun] at hdepth hmaxDepth hsame
    obtain ⟨hfault', hdepth', hmaxDepth', hsame'⟩ := hf a mid
    constructor <;> simp only [bind_eq, hrun, hsame]
    · exact hfault'
    · exact hdepth'.trans hdepth
    · exact hmaxDepth'.trans hmaxDepth
    · exact hsame'

theorem outcome_steady {e : Except Fault α} (h : Unlimited e) : Steady (outcome e) :=
  fun _ => ⟨h, rfl, rfl, fun _ => rfl⟩

theorem pure_steady (a : α) : Steady (Pure.pure a) := outcome_steady (.ok a)

theorem note_steady (e : Event) : Steady (note e) := fun _ => ⟨.ok _, rfl, rfl, fun _ => rfl⟩

theorem noteShapeless_steady (l : Loaded) (target : String) : Steady (noteShapeless l target) := by
  unfold noteShapeless
  split
  · exact note_steady _
  · exact pure_steady _

theorem noteNode_steady (l : Loaded) (node : RefOr Schema) : Steady (noteNode l node) := by
  cases node with
  | ref target => exact noteShapeless_steady l target
  | item s => exact pure_steady _

theorem schema_steady (l : Loaded) (node : RefOr Schema) : Steady (schema l node) :=
  (noteNode_steady l node).bind fun _ => outcome_steady (schema_unlimited l node)

theorem schemaAt_steady (l : Loaded) (target : String) : Steady (schemaAt l target) :=
  (noteShapeless_steady l target).bind fun _ => outcome_steady (schemaAt_unlimited l target)

theorem ruleSet_steady (l : Loaded) (s : Schema) : Steady (ruleSet l s) := by
  unfold ruleSet
  split
  · exact (noteNode_steady l _).bind fun _ => outcome_steady (ruleSet_unlimited l s)
  · exact outcome_steady (ruleSet_unlimited l s)

theorem claim_steady (candidate : String) : Steady (claim candidate) := by
  intro run
  constructor <;> simp only [claim_eq]
  · exact .ok _
  · rfl
  · rfl
  · exact fun _ => rfl

theorem addEnum_steady (e : EnumDef) : Steady (addEnum e) := fun _ => ⟨.ok _, rfl, rfl, fun _ => rfl⟩

theorem addType_steady (t : TypeDef) : Steady (addType t) := fun _ => ⟨.ok _, rfl, rfl, fun _ => rfl⟩

end Walk

end SwaggerService
