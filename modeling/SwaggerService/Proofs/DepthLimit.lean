import SwaggerService.Proofs.Blueprint
import SwaggerService.Proofs.Congruence
import SwaggerService.Proofs.Loading
import SwaggerService.Proofs.Steps

/-! # The limit of depth

A limit only cuts off. A registry holds its limit, but a walk asks for it only where it goes a level deeper;
so two walks over one document whose limits differ do the same, step by step, until the narrower one is
refused a level. No answer but that refusal depends on the limit. -/

namespace SwaggerService
open Service

namespace Walk

variable {α β : Type} {limit wider : Nat}

/-- Under a limit a walk is refused a level, or else another walk does the same as it under a wider one. -/
def Widens (limit wider : Nat) (w w' : Walk α) : Prop :=
  ∀ run, run.registry.maxDepth = limit →
    (∃ location, (w run).1 = .error (.depthExceeded limit location)) ∨
      (w run).2.registry.maxDepth = limit ∧
        w' (run.withLimit wider) = ((w run).1, (w run).2.withLimit wider)

theorem Widens.bind {w w' : Walk α} {f f' : α → Walk β} (hw : Widens limit wider w w')
    (hf : ∀ a, Widens limit wider (f a) (f' a)) : Widens limit wider (w >>= f) (w' >>= f') := by
  intro run hrun
  rcases hw run hrun with ⟨location, hcut⟩ | ⟨hlimit, hsame⟩
  · left
    refine ⟨location, ?_⟩
    rw [bind_eq]
    rcases hrun : w run with ⟨fault | a, mid⟩
    · rw [hrun] at hcut
      cases hcut
      rfl
    · rw [hrun] at hcut
      cases hcut
  · rw [bind_eq, bind_eq, hsame]
    rcases hrun : w run with ⟨fault | a, mid⟩
    · rw [hrun] at hlimit
      exact .inr ⟨hlimit, rfl⟩
    · rw [hrun] at hlimit
      exact hf a mid hlimit

theorem Steady.widens {w : Walk α} (h : Steady w) : Widens limit wider w w :=
  fun run hrun => .inr ⟨(h run).maxDepth.trans hrun, (h run).withLimit wider⟩

theorem level_widens (hle : limit ≤ wider) {place : String} {w w' : Walk α}
    (h : Widens limit wider w w') : Widens limit wider (level place w) (level place w') := by
  intro run hrun
  by_cases hfull : limit ≤ run.registry.depth
  · left
    refine ⟨place, ?_⟩
    rw [level_eq, hrun, if_pos hfull]
  · -- A level that the narrower limit leaves is also left by the wider one.
    have hroom : ¬ (run.withLimit wider).registry.maxDepth ≤ (run.withLimit wider).registry.depth :=
      fun h => hfull (Nat.le_trans hle h)
    have hroom' : ¬ run.registry.maxDepth ≤ run.registry.depth := by rwa [hrun]
    rw [level_eq, level_eq, if_neg hroom, if_neg hroom']
    rcases h run.deeper hrun with hcut | ⟨hlimit, hsame⟩
    · exact .inl hcut
    · right
      refine ⟨hlimit, ?_⟩
      have hdeeper : (run.withLimit wider).deeper = run.deeper.withLimit wider := rfl
      rw [hdeeper, hsame]
      rfl

theorem refuse_widens {place : String} {w : Walk α} : Widens limit wider (refuse place) w := by
  intro run hrun
  exact .inl ⟨place, by rw [← hrun]; rfl⟩

theorem widens_congruence (l : Loaded) (hle : limit ≤ wider) :
    Congruence l l (· ≤ ·) fun _ => Widens limit wider where
  pure a := (pure_steady a).widens
  bind hw hf := hw.bind hf
  note e := (note_steady e).widens
  claim candidate := (claim_steady candidate).widens
  addEnum e := (addEnum_steady e).widens
  addType t := (addType_steady t).widens
  pointer target := (outcome_steady (Loaded.pointer_unlimited target)).widens
  schemaAt target := (schemaAt_steady l target).widens
  schema node := (schema_steady l node).widens
  ruleSet s := (ruleSet_steady l s).widens
  parameter node := (outcome_steady (l.parameter_unlimited node)).widens
  response node := (outcome_steady (l.response_unlimited node)).widens
  level h := level_widens hle h
  refuse _ _ := refuse_widens
  below {room room'} h := by
    cases room' with
    | zero => exact absurd h (Nat.not_succ_le_zero room)
    | succ lower => exact ⟨lower, rfl, Nat.le_of_succ_le_succ h⟩
  walk {α body} h run hrun := by
    refine h _ _ ?_ run hrun
    change run.registry.maxDepth - run.registry.depth ≤ wider - run.registry.depth
    omega

end Walk

namespace Loaded

/-- Under a wider limit the answer is the same, unless the narrower limit was exceeded. -/
theorem describe_of_le (l : Loaded) {limit wider : Nat} (hle : limit ≤ wider) :
    (∃ location, l.describe limit = .error (.depthExceeded limit location)) ∨
      l.describe wider = l.describe limit := by
  rw [describe_eq, describe_eq]
  cases l.majorVersion with
  | error fault => exact .inr rfl
  | ok major =>
    let start : Run := { registry := l.startRegistry limit }
    have hstart : start.registry.maxDepth = limit := congrArg Registry.maxDepth (l.startRegistry_eq limit)
    have hwide : ({ registry := l.startRegistry wider } : Run) = start.withLimit wider := by
      simp only [start, Run.withLimit, startRegistry_eq]
    rcases (Walk.widens_congruence l hle).parts rfl rfl start hstart with ⟨location, hcut⟩ | ⟨_, hsame⟩
    · left
      refine ⟨location, ?_⟩
      dsimp only [bind, Except.bind]
      rcases hp : l.parts start with ⟨_ | _, run⟩
      · rw [hp] at hcut
        cases hcut
        rfl
      · rw [hp] at hcut
        cases hcut
    · right
      dsimp only [bind, Except.bind]
      rw [hwide, hsame]
      rcases hp : l.parts start with ⟨_ | _, run⟩
      · rfl
      · rfl

end Loaded

/-- Whether a fault is that of too deep a nesting, or of too long a chain of references. -/
def Fault.TooDeep : Fault → Prop
  | .depthExceeded _ _ => True
  | _ => False

/-- An answer stays what it is when the limit grows, unless it is that something is too deep; and what is
too deep for one limit is so for every smaller one. -/
theorem answer_of_le {l : Loaded} {limit wider : Nat} (hle : limit ≤ wider) :
    (∀ service, l.describe limit = .ok service → l.describe wider = .ok service) ∧
      (∀ fault, l.describe limit = .error fault → ¬ fault.TooDeep → l.describe wider = .error fault) ∧
      ∀ fault, l.describe wider = .error fault → fault.TooDeep →
        ∃ narrow, l.describe limit = .error narrow ∧ narrow.TooDeep := by
  rcases l.describe_of_le hle with ⟨location, hcut⟩ | hsame
  · refine ⟨?_, ?_, ?_⟩
    · intro service h
      rw [hcut] at h
      cases h
    · intro fault h hshallow
      rw [hcut] at h
      cases h
      exact absurd trivial hshallow
    · intro fault _ _
      exact ⟨_, hcut, trivial⟩
  · rw [hsame]
    exact ⟨fun _ h => h, fun _ h _ => h, fun fault h hdeep => ⟨fault, h, hdeep⟩⟩

/-- Six levels are enough here, and five are not. -/
theorem orders_answer_of_le : ∃ l service, Loaded.ofJson Json.orders = .ok l ∧
    l.describe 6 = .ok service ∧ l.describe defaultMaxDepth = .ok service ∧
    ∃ narrow, l.describe 4 = .error narrow ∧ narrow.TooDeep := by
  obtain ⟨l, service, hl, h, hfive⟩ := Loaded.exists_described Json.orders 6
    (fun l _ => (l.describe 5).toOption.isSome) false (by decide +kernel)
  have hwide := (answer_of_le (l := l) (show 6 ≤ defaultMaxDepth by decide)).1 service h
  refine ⟨l, service, hl, h, hwide, ?_⟩
  cases hd : l.describe 5 with
  | ok _ => rw [hd] at hfive; cases hfive
  | error fault =>
    have hdeep : fault.TooDeep := by
      by_contra hshallow
      have hsix := (answer_of_le (by decide : 5 ≤ 6)).2.1 fault hd hshallow
      rw [h] at hsix
      cases hsix
    exact (answer_of_le (by decide : 4 ≤ 5)).2.2 fault hd hdeep

end SwaggerService
