import SwaggerService.Walk

/-! # What walks return

The outcome of a successful walk, step by step: what each step of a walk says about the value that it
returns and about the registry that it leaves. Notes never matter here. -/

namespace SwaggerService
open Service

theorem bind_ok {ε α β : Type} {e : Except ε α} {f : α → Except ε β} {b : β} (h : e >>= f = .ok b) :
    ∃ a, e = .ok a ∧ f a = .ok b := by
  cases e with
  | error fault => cases h
  | ok a => exact ⟨a, rfl, h⟩

theorem toOption_eq_some {ε α : Type} {e : Except ε α} {a : α} : e.toOption = some a ↔ e = .ok a := by
  cases e with
  | error _ => simp [Except.toOption]
  | ok _ => simp [Except.toOption]

/-- The state one level deeper. -/
def Run.deeper (run : Run) : Run :=
  { run with registry := { run.registry with depth := run.registry.depth + 1 } }

/-- The state when a level is left. -/
def Run.left (run : Run) : Run := { run with registry := run.registry.leave }

namespace Walk

variable {α β : Type} {run run' : Run}

/-- The walk succeeds from one state with a value, and leaves another state. -/
def Returns (w : Walk α) (run : Run) (a : α) (run' : Run) : Prop := w run = (.ok a, run')

theorem bind_eq (w : Walk α) (f : α → Walk β) (run : Run) :
    (w >>= f) run = match w run with
      | (.ok a, mid) => f a mid
      | (.error fault, mid) => (.error fault, mid) := by
  change ExceptT.bindCont f (w run).1 (w run).2 = _
  rcases w run with ⟨fault | a, mid⟩
  · rfl
  · rfl

theorem Returns.bind {w : Walk α} {f : α → Walk β} {b : β} (h : Returns (w >>= f) run b run') :
    ∃ a mid, Returns w run a mid ∧ Returns (f a) mid b run' := by
  unfold Returns at h
  rw [bind_eq] at h
  split at h
  · next a mid hw => exact ⟨a, mid, hw, h⟩
  · cases h

theorem Returns.pure {a b : α} (h : Returns (Pure.pure a) run b run') : a = b ∧ run = run' := by
  cases h
  exact ⟨rfl, rfl⟩

theorem outcome_returns {e : Except Fault α} {a : α} (h : Returns (outcome e) run a run') :
    e = .ok a ∧ run = run' := by
  cases h
  exact ⟨rfl, rfl⟩

theorem note_returns {e : Event} {u : Unit} (h : Returns (note e) run u run') :
    run'.registry = run.registry := by
  cases h
  rfl

theorem noteShapeless_returns {l : Loaded} {target : String} {u : Unit}
    (h : Returns (noteShapeless l target) run u run') : run'.registry = run.registry := by
  unfold noteShapeless at h
  split at h
  · exact note_returns h
  · rw [(Returns.pure h).2]

theorem noteNode_returns {l : Loaded} {node : RefOr Schema} {u : Unit}
    (h : Returns (noteNode l node) run u run') : run'.registry = run.registry := by
  cases node with
  | ref target => exact noteShapeless_returns h
  | item s => rw [(Returns.pure h).2]

theorem schemaAt_returns {l : Loaded} {target : String} {s : Schema}
    (h : Returns (schemaAt l target) run s run') :
    l.schemaAt target = .ok s ∧ run'.registry = run.registry := by
  obtain ⟨u, mid, hn, h⟩ := Returns.bind h
  obtain ⟨hs, hr⟩ := outcome_returns h
  exact ⟨hs, hr ▸ noteShapeless_returns hn⟩

theorem schema_returns {l : Loaded} {node : RefOr Schema} {s : Schema}
    (h : Returns (schema l node) run s run') : l.schema node = .ok s ∧ run'.registry = run.registry := by
  obtain ⟨u, mid, hn, h⟩ := Returns.bind h
  obtain ⟨hs, hr⟩ := outcome_returns h
  exact ⟨hs, hr ▸ noteNode_returns hn⟩

theorem ruleSet_returns {l : Loaded} {s : Schema} {rules : List Rule}
    (h : Returns (ruleSet l s) run rules run') :
    l.ruleSet s = .ok rules ∧ run'.registry = run.registry := by
  unfold ruleSet at h
  split at h
  · obtain ⟨u, mid, hn, h⟩ := Returns.bind h
    obtain ⟨hs, hr⟩ := outcome_returns h
    exact ⟨hs, hr ▸ noteNode_returns hn⟩
  · obtain ⟨hs, hr⟩ := outcome_returns h
    exact ⟨hs, by rw [hr]⟩

/-- All that taking a name does: a name that differs from its candidate is noted. -/
theorem claim_eq (candidate : String) (run : Run) :
    claim candidate run = (.ok (run.registry.claim candidate).1,
      { registry := (run.registry.claim candidate).2
        log := if (run.registry.claim candidate).1 != candidate then
            run.log.push (.renamed candidate (run.registry.claim candidate).1)
          else run.log }) := by
  let rest : Walk String := do
    update fun _ => (run.registry.claim candidate).2
    return (run.registry.claim candidate).1
  have hclaim : claim candidate run = (if (run.registry.claim candidate).1 != candidate then
      note (.renamed candidate (run.registry.claim candidate).1) >>= fun _ => rest else rest) run := rfl
  rw [hclaim]
  split
  · rfl
  · rfl

theorem claim_returns {candidate name : String} (h : Returns (claim candidate) run name run') :
    name = Registry.freeName run.registry.names candidate ∧
      run'.registry = run.registry.reserve name := by
  unfold Returns at h
  rw [claim_eq] at h
  cases h
  exact ⟨rfl, rfl⟩

theorem addEnum_returns {e : EnumDef} {u : Unit} (h : Returns (addEnum e) run u run') :
    run'.registry = run.registry.addEnum e := by
  obtain ⟨_, mid, hn, h⟩ := Returns.bind h
  cases h
  rw [← note_returns hn]

theorem addType_returns {t : TypeDef} {u : Unit} (h : Returns (addType t) run u run') :
    run'.registry = run.registry.addType t := by
  obtain ⟨_, mid, hn, h⟩ := Returns.bind h
  cases h
  rw [← note_returns hn]

/-- A level down and back up leaves the depth to what happens inside. -/
theorem level_eq (place : String) (body : Walk α) (run : Run) :
    level place body run =
      if run.registry.maxDepth ≤ run.registry.depth then
        (.error (.depthExceeded run.registry.maxDepth place), run)
      else ((body run.deeper).1, (body run.deeper).2.left) := by
  unfold level Registry.enter
  by_cases h : run.registry.maxDepth ≤ run.registry.depth
  · rw [if_pos h, if_pos h]
  · rw [if_neg h, if_neg h]
    rfl

theorem level_returns {place : String} {body : Walk α} {a : α}
    (h : Returns (level place body) run a run') :
    ∃ mid, Returns body run.deeper a mid ∧ run' = mid.left := by
  unfold Returns at h
  rw [level_eq] at h
  split at h
  · cases h
  · obtain ⟨hvalue, rfl⟩ := Prod.mk.inj h
    exact ⟨(body run.deeper).2, Prod.ext hvalue rfl, rfl⟩

theorem refuse_returns {place : String} {a : α} (h : Returns (refuse place) run a run') : False := by
  cases h

end Walk

end SwaggerService
