import SwaggerService.Proofs.Blueprint
import SwaggerService.Proofs.Decimals
import SwaggerService.Proofs.Loading

/-! # The response that describes success

Of the responses of an operation one is chosen: the first one with the least status code from 200 to 299,
or else the default one. Which keys are status codes is a matter of how the code is written, so `2XX` is
none and `+0200` is. The code to answer with and the result type of the method follow from the choice. -/

namespace SwaggerService
open Service Walk

namespace SuccessKey

variable {α : Type} {responses rest : List (String × α)} {key : String} {code : Nat} {response : α}

/-! ## Choosing a response -/

/-- A key is a status code of success: a way of writing a number from 200 to 299. -/
def IsStatus (key : String) (code : Nat) : Prop := WrittenAs key code ∧ 200 ≤ code ∧ code ≤ 299

theorem statusCode?_eq_some : statusCode? key = some code ↔ IsStatus key code := by
  have hword : code ≤ 299 → code < UInt16.size := fun h => Nat.lt_of_le_of_lt h (by decide)
  unfold statusCode? IsStatus
  rw [Option.filter_eq_some_iff, readNatural?_eq_some]
  simp only [Bool.and_eq_true, decide_eq_true_eq]
  constructor
  · rintro ⟨⟨hwritten, _⟩, hlow, hhigh⟩
    exact ⟨hwritten, hlow, Nat.le_of_lt_succ hhigh⟩
  · rintro ⟨hwritten, hlow, hhigh⟩
    exact ⟨⟨hwritten, hword hhigh⟩, hlow, Nat.lt_succ_of_le hhigh⟩

theorem IsStatus.unique {code' : Nat} (h : IsStatus key code) (h' : IsStatus key code') : code = code' :=
  Option.some.inj ((statusCode?_eq_some.mpr h).symm.trans (statusCode?_eq_some.mpr h'))

/-- A response has the least status code of all, and no response before it has the same one. -/
def Foremost (responses : List (String × α)) (code : Nat) (response : α) : Prop :=
  ∃ before key after, responses = before ++ (key, response) :: after ∧ IsStatus key code ∧
    (∀ other ∈ before, ∀ c, IsStatus other.1 c → code < c) ∧
    ∀ other ∈ after, ∀ c, IsStatus other.1 c → code ≤ c

/-- No response has a status code of success. -/
def NoStatus (responses : List (String × α)) : Prop := ∀ other ∈ responses, ∀ c, ¬ IsStatus other.1 c

/-- Which response describes success, if any. -/
inductive Chosen (responses : List (String × α)) : Option (SuccessKey × α) → Prop
  | status {code : Nat} {response : α} :
      Foremost responses code response → Chosen responses (some (.status code, response))
  | default {response : α} : NoStatus responses → Entries.get? "default" responses = some response →
      Chosen responses (some (.default, response))
  | nothing : NoStatus responses → Entries.get? "default" responses = none → Chosen responses none

/-- The first response is the foremost one, or else it has a greater code than the foremost one. -/
theorem foremost_cons {first : α} : Foremost ((key, first) :: rest) code response ↔
    (first = response ∧ IsStatus key code ∧ ∀ other ∈ rest, ∀ c, IsStatus other.1 c → code ≤ c) ∨
      (∀ c, IsStatus key c → code < c) ∧ Foremost rest code response := by
  constructor
  · rintro ⟨before, own, after, hsplit, hstatus, hbefore, hafter⟩
    cases before with
    | nil =>
      cases hsplit
      exact .inl ⟨rfl, hstatus, hafter⟩
    | cons other others =>
      cases hsplit
      obtain ⟨hfirst, hothers⟩ := List.forall_mem_cons.mp hbefore
      exact .inr ⟨hfirst, others, own, after, rfl, hstatus, hothers, hafter⟩
  · rintro (⟨rfl, hstatus, hrest⟩ | ⟨hfirst, before, own, after, rfl, hstatus, hbefore, hafter⟩)
    · exact ⟨[], key, rest, rfl, hstatus, nofun, hrest⟩
    · exact ⟨(key, first) :: before, own, after, rfl, hstatus,
        List.forall_mem_cons.mpr ⟨hfirst, hbefore⟩, hafter⟩

theorem Foremost.le (h : Foremost responses code response) :
    ∀ other ∈ responses, ∀ c, IsStatus other.1 c → code ≤ c := by
  obtain ⟨before, own, after, rfl, hstatus, hbefore, hafter⟩ := h
  intro other hother c hc
  rcases List.mem_append.mp hother with hother | hother
  · exact Nat.le_of_lt (hbefore other hother c hc)
  · rcases List.mem_cons.mp hother with rfl | hother
    · exact Nat.le_of_eq (hstatus.unique hc)
    · exact hafter other hother c hc

theorem Foremost.exists_status (h : Foremost responses code response) :
    ∃ key, (key, response) ∈ responses ∧ IsStatus key code := by
  obtain ⟨before, own, after, rfl, hstatus, _⟩ := h
  exact ⟨own, by simp, hstatus⟩

theorem Foremost.unique {code' : Nat} {response' : α} (h : Foremost responses code response)
    (h' : Foremost responses code' response') : code = code' ∧ response = response' := by
  have hcode : code = code' := by
    obtain ⟨key, hmem, hstatus⟩ := h.exists_status
    obtain ⟨key', hmem', hstatus'⟩ := h'.exists_status
    exact Nat.le_antisymm (h.le _ hmem' _ hstatus') (h'.le _ hmem _ hstatus)
  subst hcode
  refine ⟨rfl, ?_⟩
  induction responses with
  | nil => obtain ⟨key, hmem, _⟩ := h.exists_status; cases hmem
  | cons entry rest ih =>
    obtain ⟨key, first⟩ := entry
    -- The first response cannot have the least code for one of the two and a greater one for the other.
    rcases foremost_cons.mp h with ⟨rfl, hstatus, _⟩ | ⟨hlater, hrest⟩
    · rcases foremost_cons.mp h' with ⟨rfl, _, _⟩ | ⟨hlater', _⟩
      · rfl
      · exact absurd (hlater' code hstatus) (Nat.lt_irrefl code)
    · rcases foremost_cons.mp h' with ⟨_, hstatus', _⟩ | ⟨_, hrest'⟩
      · exact absurd (hlater code hstatus') (Nat.lt_irrefl code)
      · exact ih hrest hrest'

/-- The search finds the foremost response, or else there is no status code. -/
theorem least?_candidates (responses : List (String × α)) :
    (least? (candidates responses) = none ∧ NoStatus responses) ∨
      ∃ code response, least? (candidates responses) = some (code, response) ∧
        Foremost responses code response := by
  induction responses with
  | nil => exact .inl ⟨rfl, nofun⟩
  | cons entry rest ih =>
    obtain ⟨key, first⟩ := entry
    cases hkey : statusCode? key with
    | none =>
      have hskip : candidates ((key, first) :: rest) = candidates rest := by
        simp [candidates, hkey]
      have hno : ∀ c, ¬ IsStatus key c := fun c hc => by
        rw [statusCode?_eq_some.mpr hc] at hkey
        cases hkey
      rw [hskip]
      rcases ih with ⟨hleast, hrest⟩ | ⟨code, response, hleast, hrest⟩
      · exact .inl ⟨hleast, List.forall_mem_cons.mpr ⟨hno, hrest⟩⟩
      · exact .inr ⟨code, response, hleast, foremost_cons.mpr (.inr ⟨fun c hc => absurd hc (hno c), hrest⟩)⟩
    | some own =>
      have hstatus := statusCode?_eq_some.mp hkey
      have htake : candidates ((key, first) :: rest) = (own, first) :: candidates rest := by
        simp [candidates, hkey]
      right
      rw [htake, least?]
      rcases ih with ⟨hleast, hrest⟩ | ⟨code, response, hleast, hrest⟩
      · rw [hleast]
        exact ⟨own, first, rfl, foremost_cons.mpr
          (.inl ⟨rfl, hstatus, fun other ho c hc => absurd hc (hrest other ho c)⟩)⟩
      · rw [hleast]
        by_cases hless : code < own
        · refine ⟨code, response, if_pos hless, foremost_cons.mpr (.inr ⟨fun c hc => ?_, hrest⟩)⟩
          rwa [← hstatus.unique hc]
        · -- Of two equal codes the earlier one stays.
          refine ⟨own, first, if_neg hless, foremost_cons.mpr (.inl ⟨rfl, hstatus, fun other ho c hc => ?_⟩)⟩
          exact Nat.le_trans (Nat.le_of_not_lt hless) (hrest.le other ho c hc)

theorem select_chosen (responses : List (String × α)) : Chosen responses (select responses) := by
  unfold select
  rcases least?_candidates responses with ⟨hleast, hno⟩ | ⟨code, response, hleast, hforemost⟩
  · rw [hleast]
    cases hdefault : Entries.get? "default" responses with
    | none => exact .nothing hno hdefault
    | some response => exact .default hno hdefault
  · rw [hleast]
    exact .status hforemost

theorem NoStatus.not_foremost (h : NoStatus responses) : ¬ Foremost responses code response := by
  intro hforemost
  obtain ⟨key, hmem, hstatus⟩ := hforemost.exists_status
  exact h _ hmem _ hstatus

theorem Chosen.unique {choice choice' : Option (SuccessKey × α)} (h : Chosen responses choice)
    (h' : Chosen responses choice') : choice = choice' := by
  cases h with
  | status hforemost =>
    cases h' with
    | status hforemost' =>
      obtain ⟨rfl, rfl⟩ := hforemost.unique hforemost'
      rfl
    | default hno | nothing hno => exact absurd hforemost hno.not_foremost
  | default hno hget =>
    cases h' with
    | status hforemost' => exact absurd hforemost' hno.not_foremost
    | default _ hget' =>
      obtain rfl := Option.some.inj (hget.symm.trans hget')
      rfl
    | nothing _ hnone => exact absurd (hget.symm.trans hnone) (Option.some_ne_none _)
  | nothing hno hnone =>
    cases h' with
    | status hforemost' => exact absurd hforemost' hno.not_foremost
    | default _ hget => exact absurd (hget.symm.trans hnone) (Option.some_ne_none _)
    | nothing => rfl

/-- Exactly one choice is right, and it is the one that is made. -/
theorem chosen_iff {choice : Option (SuccessKey × α)} : Chosen responses choice ↔ choice = select responses :=
  ⟨fun h => h.unique (select_chosen responses), fun h => h ▸ select_chosen responses⟩

end SuccessKey

/-! ## Methods -/

/-- The code to answer with when the default response describes success and has a schema. -/
def Verb.defaultCode : Verb → Nat
  | .delete => 202
  | .options => 204
  | .post => 201
  | .get | .put | .head | .patch => 200

namespace Loaded

/-- The code of a method and whether it has a result, by the response that was chosen for it. -/
inductive Answers (l : Loaded) (verb : Verb) :
    Option (SuccessKey × RefOr Response) → Nat → Option Descriptor → Prop
  | nothing : Answers l verb none 200 none
  | status {code : Nat} {node : RefOr Response} {response : Response} {result : Option Descriptor} :
      l.response node = .ok response → (result.isSome ↔ response.schema.isSome) →
      Answers l verb (some (.status code, node)) code result
  | default {node : RefOr Response} {response : Response} {schema : RefOr Schema} {d : Descriptor} :
      l.response node = .ok response → response.schema = some schema →
      Answers l verb (some (.default, node)) verb.defaultCode (some d)
  | empty {node : RefOr Response} {response : Response} :
      l.response node = .ok response → response.schema = none →
      Answers l verb (some (.default, node)) 204 none

variable {l : Loaded} {run run' : Run}

theorem returnType_schema {node : RefOr Response} {parentName : String} {result : Option Descriptor}
    (h : Returns (l.returnType node parentName) run result run') :
    ∃ response, l.response node = .ok response ∧
      (response.schema = none ∧ result = none ∨
        ∃ schema d, response.schema = some schema ∧ result = some d) := by
  obtain ⟨response, mid, hresponse, h⟩ := Returns.bind h
  refine ⟨response, (outcome_returns hresponse).1, ?_⟩
  split at h
  · next hnone => exact .inl ⟨hnone, (Returns.pure h).1.symm⟩
  · next schema hsome =>
    obtain ⟨d, out, _, h⟩ := Returns.bind h
    exact .inr ⟨schema, d, hsome, (Returns.pure h).1.symm⟩

theorem code_default_some (verb : Verb) (d : Descriptor) :
    SuccessKey.code verb (some .default) (some d).isSome = verb.defaultCode := by
  cases verb <;> rfl

theorem returnType_answers {verb : Verb} {key : SuccessKey} {node : RefOr Response} {parentName : String}
    {result : Option Descriptor} (h : Returns (l.returnType node parentName) run result run') :
    l.Answers verb (some (key, node)) (SuccessKey.code verb (some key) result.isSome) result := by
  obtain ⟨response, hresponse, hschema⟩ := returnType_schema h
  cases key with
  | status code =>
    refine .status hresponse ?_
    rcases hschema with ⟨hnone, rfl⟩ | ⟨schema, d, hsome, rfl⟩
    · simp [hnone]
    · simp [hsome]
  | default =>
    rcases hschema with ⟨hnone, rfl⟩ | ⟨schema, d, hsome, rfl⟩
    · exact .empty hresponse hnone
    · rw [code_default_some]
      exact .default hresponse hsome

/-- The code of a method is one of success, whatever was chosen. -/
theorem Answers.success {verb : Verb} {responses : List (String × RefOr Response)}
    {choice : Option (SuccessKey × RefOr Response)} {code : Nat} {result : Option Descriptor}
    (h : l.Answers verb choice code result) (hchosen : SuccessKey.Chosen responses choice) :
    200 ≤ code ∧ code ≤ 299 := by
  cases h with
  | nothing | empty => decide
  | default => cases verb <;> decide
  | status =>
    cases hchosen with
    | status hforemost =>
      obtain ⟨key, _, hstatus⟩ := hforemost.exists_status
      exact hstatus.2

variable {verb : Verb} {o : Operation} {shared : List (RefOr Parameter)} {method : Method} {wire : WireMethod}

theorem method_answers (h : Returns (l.method verb o shared) run (method, wire) run') :
    ∃ code, l.Answers verb (SuccessKey.select o.responses) code method.returnType ∧
      wire.successCode = UInt16.ofNat code := by
  obtain ⟨parameters, result, _, mid, _, _, hresult, hbuilt⟩ := method_steps h
  cases hbuilt
  -- The choice is read twice, for the result type and for the code.
  cases hselect : SuccessKey.select o.responses with
  | none =>
    rw [hselect] at hresult
    obtain ⟨rfl, rfl⟩ := Returns.pure hresult
    exact ⟨200, .nothing, rfl⟩
  | some choice =>
    rw [hselect] at hresult
    exact ⟨_, returnType_answers hresult, rfl⟩

/-- The result type and the code of a method that is described go by the one response that was chosen. -/
theorem success_described (h : Returns (l.method verb o shared) run (method, wire) run') :
    ∃ choice, (∀ other, SuccessKey.Chosen o.responses other ↔ other = choice) ∧
      l.Answers verb choice wire.successCode.toNat method.returnType ∧
      200 ≤ wire.successCode.toNat ∧ wire.successCode.toNat ≤ 299 := by
  obtain ⟨code, hanswers, hwire⟩ := method_answers h
  have hsuccess := hanswers.success (SuccessKey.select_chosen o.responses)
  have hword : code < UInt16.size := Nat.lt_of_le_of_lt hsuccess.2 (by decide)
  have hcode : wire.successCode.toNat = code := by rw [hwire, UInt16.toNat_ofNat_of_lt' hword]
  rw [hcode]
  exact ⟨SuccessKey.select o.responses, fun _ => SuccessKey.chosen_iff, hanswers, hsuccess⟩

end Loaded

/-- A document with two shared responses, of which only one has a schema. -/
def Json.kiosk : Json :=
  .object [
    ("info", .object [("title", .string "kiosk"), ("version", .string "1.0.0")]),
    ("responses", .object [
      ("Sold", .object [("description", .string "Sold"), ("schema", .object [("type", .string "integer")])]),
      ("Gone", .object [("description", .string "Gone")])])]

/-- Three of these responses have a status code of success, and two of them the same one. -/
def Operation.sell : Operation where
  operationId := some "sell"
  summary := none
  description := none
  parameters := []
  responses := [("default", .ref "#/responses/Gone"), ("2XX", .ref "#/responses/Gone"),
    ("65736", .ref "#/responses/Gone"), ("0205", .ref "#/responses/Gone"), ("+203", .ref "#/responses/Sold"),
    ("203", .ref "#/responses/Gone")]

theorem sell_success_described : ∃ l method wire run run', Loaded.ofJson Json.kiosk = .ok l ∧
    Returns (l.method .delete .sell []) run (method, wire) run' ∧
    (method.returnType.map Descriptor.typeName, wire.successCode.toNat) = (some "integer", 203) ∧
    ∃ choice, (∀ other, SuccessKey.Chosen Operation.sell.responses other ↔ other = choice) ∧
      l.Answers .delete choice wire.successCode.toNat method.returnType ∧
      200 ≤ wire.successCode.toNat ∧ wire.successCode.toNat ≤ 299 := by
  let run : Run := { registry := { maxDepth := 8 } }
  obtain ⟨l, ⟨method, wire⟩, run', hl, h, hview⟩ := Loaded.exists_returned Json.kiosk
    (fun l => l.method .delete .sell []) run
    (fun _ built _ => (built.1.returnType.map Descriptor.typeName, built.2.successCode.toNat))
    (some "integer", 203) (by decide +kernel)
  exact ⟨l, method, wire, run, run', hl, h, hview, Loaded.success_described h⟩

-- Without a status code of success it is the default response, wherever it stands.
example : SuccessKey.select [("300", 0), ("65736", 1), ("default", 2), ("2XX", 3)] = some (.default, 2) := by
  decide +kernel

end SwaggerService
