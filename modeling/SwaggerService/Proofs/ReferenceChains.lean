import Mathlib.Logic.Relation
import SwaggerService.Proofs.Culprits

/-! # Chains of references

A reference to a schema may lead to a further reference: through a body parameter or a response whose
schema is one, or through a written value that is one. A chain of such steps is followed to its end if that
is near enough, and what stands at the end is the outcome; a longer chain ends with a fault at the first
reference that is not looked at any more. So no cycle is followed for ever, whatever kinds of steps it is
made of. -/

namespace SwaggerService

namespace Loaded

/-! ## Steps and ends -/

/-- A reference leads to a further one. -/
inductive Forwards (l : Loaded) (reference : String) : String → Prop
  | parameter {name further : String} {p : Parameter}
      (hparse : Pointer.parse? reference = some (.parameter name))
      (hp : Entries.get? name l.document.parameters = some p) (hbody : p.location = .body)
      (hschema : p.schema = some (.ref further)) : Forwards l reference further
  | response {name further : String} {r : Response}
      (hparse : Pointer.parse? reference = some (.response name))
      (hr : Entries.get? name l.document.responses = some r)
      (hschema : r.schema = some (.ref further)) : Forwards l reference further
  | written {raw further : String} {fields : List (String × Json)}
      (hparse : Pointer.parse? reference = some (.other raw))
      (htarget : l.rawAt reference = .ok (.object fields))
      (href : Entries.get? "$ref" fields = some (.string further)) : Forwards l reference further

/-- A reference that leads to no further one. -/
def Terminal (l : Loaded) (reference : String) : Prop := ∀ further, ¬ l.Forwards reference further

/-- There is nothing at the target of a pointer. -/
def Lacks (l : Loaded) (reference : String) : Pointer → Prop
  | .definition name => Entries.get? name l.document.definitions = none
  | .parameter name => Entries.get? name l.document.parameters = none
  | .response name => Entries.get? name l.document.responses = none
  | .other _ => ∀ v, l.rawAt reference ≠ .ok v

/-- The schema at the target of a pointer that does not lead further. A response without a schema and a
written value that is none say nothing. -/
inductive Means (l : Loaded) (reference : String) : Pointer → Schema → Prop
  | definition {name : String} {s : Schema} (hs : Entries.get? name l.document.definitions = some s) :
      Means l reference (.definition name) s
  | body {name : String} {p : Parameter} {s : Schema}
      (hp : Entries.get? name l.document.parameters = some p) (hbody : p.location = .body)
      (hschema : p.schema = some (.item s)) : Means l reference (.parameter name) s
  | keywords {name : String} {p : Parameter} (hp : Entries.get? name l.document.parameters = some p)
      (hnone : p.location ≠ .body ∨ p.schema = none) : Means l reference (.parameter name) p.fields
  | response {name : String} {r : Response} {s : Schema}
      (hr : Entries.get? name l.document.responses = some r) (hschema : r.schema = some (.item s)) :
      Means l reference (.response name) s
  | bare {name : String} {r : Response} (hr : Entries.get? name l.document.responses = some r)
      (hnone : r.schema = none) : Means l reference (.response name) {}
  | written {raw : String} {v : Json} {s : Schema} (htarget : l.rawAt reference = .ok v)
      (hread : Schema.decode v = .ok s) : Means l reference (.other raw) s
  | shapeless {raw : String} {v : Json} {fault : Decode.Fault} (htarget : l.rawAt reference = .ok v)
      (hread : Schema.decode v = .error fault) : Means l reference (.other raw) {}

/-- The outcome at a reference that leads to no further one. -/
inductive Ends (l : Loaded) (reference : String) : Except Fault Schema → Prop
  | external (hparse : Pointer.parse? reference = none) :
      Ends l reference (.error (.externalReference reference))
  | missing {p : Pointer} (hparse : Pointer.parse? reference = some p) (h : l.Lacks reference p) :
      Ends l reference (.error (.unresolvedReference reference))
  | schema {p : Pointer} {s : Schema} (hparse : Pointer.parse? reference = some p)
      (h : l.Means reference p s) : Ends l reference (.ok s)

end Loaded

/-! ## One step -/

namespace Landing

/-- Where a pointer to a parameter leads. -/
def ofParameter (p : Parameter) : Landing :=
  if p.isBody then (p.schema.map ofNode).getD (.schema p.fields) else .schema p.fields

/-- Where a pointer to a response leads. -/
def ofResponse (r : Response) : Landing := (r.schema.map ofNode).getD (.schema {})

/-- Where a written value leads that is not a further reference. -/
def ofValue (reference : String) (v : Json) : Landing :=
  match Schema.decode v with
  | .ok found => .schema found
  | .error fault => .shapeless reference fault

theorem ofParameter_body {p : Parameter} {node : RefOr Schema} (hbody : p.location = .body)
    (hschema : p.schema = some node) : ofParameter p = ofNode node := by
  simp [ofParameter, Parameter.isBody, hbody, hschema]

theorem ofParameter_keywords {p : Parameter} (h : p.location ≠ .body ∨ p.schema = none) :
    ofParameter p = .schema p.fields := by
  rcases h with hplace | hnone
  · simp [ofParameter, Parameter.isBody, hplace]
  · simp [ofParameter, hnone]

theorem ofResponse_node {r : Response} {node : RefOr Schema} (hschema : r.schema = some node) :
    ofResponse r = ofNode node := by
  rw [ofResponse, hschema]
  rfl

theorem ofResponse_none {r : Response} (hnone : r.schema = none) : ofResponse r = .schema {} := by
  rw [ofResponse, hnone]
  rfl

end Landing

namespace Loaded

variable {l : Loaded} {reference further name raw : String}

theorem landRaw_ref {fields : List (String × Json)} (href : Entries.get? "$ref" fields = some (.string further)) :
    landRaw reference (.object fields) = .next further := by
  rw [landRaw, Json.field?, href]
  rfl

/-- A written value is a further reference, or else it is read as a schema. -/
theorem landRaw_cases (reference : String) (v : Json) :
    (∃ fields further, v = .object fields ∧ Entries.get? "$ref" fields = some (.string further)) ∨
      landRaw reference v = Landing.ofValue reference v := by
  cases hfurther : (v.field? "$ref").bind Json.string? with
  | none =>
    right
    rw [landRaw, hfurther]
    rfl
  | some further =>
    left
    obtain ⟨w, hw, hstring⟩ := Option.bind_eq_some_iff.mp hfurther
    cases w with
    | string text =>
      cases v with
      | object fields => exact ⟨fields, text, rfl, hw⟩
      | null | bool | number | string | list => cases hw
    | null | bool | number | list | object => cases hstring

theorem land_eq_none (hparse : Pointer.parse? reference = none) :
    l.land reference = .error (.externalReference reference) := by
  rw [land, pointer, hparse]
  rfl

theorem land_eq_definition (hparse : Pointer.parse? reference = some (.definition name)) :
    l.land reference = (entry l.document.definitions reference name).map .schema := by
  rw [land, pointer, hparse]
  cases h : entry l.document.definitions reference name with
  | error fault => simp only [bind, Except.bind, h]; rfl
  | ok s => simp only [bind, Except.bind, h]; rfl

theorem land_eq_parameter (hparse : Pointer.parse? reference = some (.parameter name)) :
    l.land reference = (entry l.document.parameters reference name).map .ofParameter := by
  rw [land, pointer, hparse]
  cases h : entry l.document.parameters reference name with
  | error fault => simp only [bind, Except.bind, h]; rfl
  | ok p =>
    simp only [bind, Except.bind, h, Except.map, Landing.ofParameter]
    cases p.schema with
    | none => exact congrArg Except.ok (ite_self _).symm
    | some node => rfl

theorem land_eq_response (hparse : Pointer.parse? reference = some (.response name)) :
    l.land reference = (entry l.document.responses reference name).map .ofResponse := by
  rw [land, pointer, hparse]
  cases h : entry l.document.responses reference name with
  | error fault => simp only [bind, Except.bind, h]; rfl
  | ok r =>
    simp only [bind, Except.bind, h, Except.map, Landing.ofResponse]
    cases r.schema with
    | none => rfl
    | some node => rfl

theorem land_eq_written (hparse : Pointer.parse? reference = some (.other raw)) :
    l.land reference = (l.rawAt reference).map (landRaw reference) := by
  rw [land, pointer, hparse]
  cases h : l.rawAt reference with
  | error fault => simp only [bind, Except.bind]; rfl
  | ok v => simp only [bind, Except.bind]; rfl

theorem entry_of_get? {α : Type} {parts : List (String × α)} {part : α}
    (h : Entries.get? name parts = some part) : entry parts reference name = .ok part := by
  rw [entry, h]

theorem entry_of_none {α : Type} {parts : List (String × α)} (h : Entries.get? name parts = none) :
    entry parts reference name = .error (.unresolvedReference reference) := by
  rw [entry, h]

/-- A local reference leads to a written value, or it is not resolved. -/
theorem rawAt_cases (hparse : Pointer.parse? reference = some (.other raw)) :
    (∃ v, l.rawAt reference = .ok v) ∨ l.rawAt reference = .error (.unresolvedReference reference) := by
  rw [rawAt]
  cases hsteps : Pointer.steps? reference with
  | none => exact absurd hsteps (Pointer.steps?_of_parse hparse)
  | some steps =>
    dsimp only
    cases l.raw.at? steps with
    | none => exact .inr rfl
    | some v => exact .inl ⟨v, rfl⟩

theorem Terminal.landRaw {v : Json} (h : l.Terminal reference)
    (hparse : Pointer.parse? reference = some (.other raw)) (htarget : l.rawAt reference = .ok v) :
    Loaded.landRaw reference v = Landing.ofValue reference v := by
  refine (landRaw_cases reference v).resolve_left ?_
  rintro ⟨fields, further, rfl, href⟩
  exact h further (.written hparse htarget href)

theorem Forwards.land (h : l.Forwards reference further) : l.land reference = .ok (.next further) := by
  cases h with
  | parameter hparse hp hbody hschema =>
    rw [land_eq_parameter hparse, entry_of_get? hp, Except.map, Landing.ofParameter_body hbody hschema]
    rfl
  | response hparse hr hschema =>
    rw [land_eq_response hparse, entry_of_get? hr, Except.map, Landing.ofResponse_node hschema]
    rfl
  | written hparse htarget href =>
    rw [land_eq_written hparse, htarget, Except.map, landRaw_ref href]

/-- A reference that leads no further has one outcome. -/
theorem Ends.land {outcome : Except Fault Schema} (h : l.Ends reference outcome)
    (hterminal : l.Terminal reference) :
    (l.land reference).map Landing.toSchema = outcome ∧ ∀ further, l.land reference ≠ .ok (.next further) := by
  cases h with
  | external hparse =>
    rw [land_eq_none hparse]
    exact ⟨rfl, nofun⟩
  | @missing p hparse h =>
    cases p with
    | definition name =>
      rw [land_eq_definition hparse, entry_of_none h]
      exact ⟨rfl, nofun⟩
    | parameter name =>
      rw [land_eq_parameter hparse, entry_of_none h]
      exact ⟨rfl, nofun⟩
    | response name =>
      rw [land_eq_response hparse, entry_of_none h]
      exact ⟨rfl, nofun⟩
    | other raw =>
      rcases rawAt_cases hparse with ⟨v, hv⟩ | hnone
      · exact absurd hv (h v)
      · rw [land_eq_written hparse, hnone]
        exact ⟨rfl, nofun⟩
  | schema hparse h =>
    cases h with
    | definition hs =>
      rw [land_eq_definition hparse, entry_of_get? hs]
      exact ⟨rfl, nofun⟩
    | body hp hbody hschema =>
      rw [land_eq_parameter hparse, entry_of_get? hp, Except.map, Landing.ofParameter_body hbody hschema]
      exact ⟨rfl, nofun⟩
    | keywords hp hnone =>
      rw [land_eq_parameter hparse, entry_of_get? hp, Except.map, Landing.ofParameter_keywords hnone]
      exact ⟨rfl, nofun⟩
    | response hr hschema =>
      rw [land_eq_response hparse, entry_of_get? hr, Except.map, Landing.ofResponse_node hschema]
      exact ⟨rfl, nofun⟩
    | bare hr hnone =>
      rw [land_eq_response hparse, entry_of_get? hr, Except.map, Landing.ofResponse_none hnone]
      exact ⟨rfl, nofun⟩
    | written htarget hs =>
      rw [land_eq_written hparse, htarget, Except.map, hterminal.landRaw hparse htarget,
        Landing.ofValue, hs]
      exact ⟨rfl, nofun⟩
    | shapeless htarget hs =>
      rw [land_eq_written hparse, htarget, Except.map, hterminal.landRaw hparse htarget,
        Landing.ofValue, hs]
      exact ⟨rfl, nofun⟩

/-- A reference leads further or has an outcome. -/
theorem forwards_or_ends (l : Loaded) (reference : String) :
    (∃ further, l.Forwards reference further) ∨ ∃ outcome, l.Ends reference outcome := by
  cases hparse : Pointer.parse? reference with
  | none => exact .inr ⟨_, .external hparse⟩
  | some p =>
    cases p with
    | definition name =>
      cases hs : Entries.get? name l.document.definitions with
      | none => exact .inr ⟨_, .missing hparse hs⟩
      | some s => exact .inr ⟨_, .schema hparse (.definition hs)⟩
    | parameter name =>
      cases hp : Entries.get? name l.document.parameters with
      | none => exact .inr ⟨_, .missing hparse hp⟩
      | some p =>
        by_cases hbody : p.location = .body
        · cases hschema : p.schema with
          | none => exact .inr ⟨_, .schema hparse (.keywords hp (.inr hschema))⟩
          | some node =>
            cases node with
            | ref further => exact .inl ⟨further, .parameter hparse hp hbody hschema⟩
            | item s => exact .inr ⟨_, .schema hparse (.body hp hbody hschema)⟩
        · exact .inr ⟨_, .schema hparse (.keywords hp (.inl hbody))⟩
    | response name =>
      cases hr : Entries.get? name l.document.responses with
      | none => exact .inr ⟨_, .missing hparse hr⟩
      | some r =>
        cases hschema : r.schema with
        | none => exact .inr ⟨_, .schema hparse (.bare hr hschema)⟩
        | some node =>
          cases node with
          | ref further => exact .inl ⟨further, .response hparse hr hschema⟩
          | item s => exact .inr ⟨_, .schema hparse (.response hr hschema)⟩
    | other raw =>
      rcases rawAt_cases (l := l) hparse with ⟨v, hv⟩ | hnone
      · rcases landRaw_cases reference v with ⟨fields, further, rfl, href⟩ | _
        · exact .inl ⟨further, .written hparse hv href⟩
        · cases hs : Schema.decode v with
          | error fault => exact .inr ⟨_, .schema hparse (.shapeless hv hs)⟩
          | ok s => exact .inr ⟨_, .schema hparse (.written hv hs)⟩
      · exact .inr ⟨_, .missing hparse fun v hv => by rw [hnone] at hv; cases hv⟩

/-- The step relation is what one step of following a reference computes. -/
theorem forwards_iff : l.Forwards reference further ↔ l.land reference = .ok (.next further) := by
  refine ⟨Forwards.land, fun hland => ?_⟩
  by_cases hterminal : l.Terminal reference
  · obtain ⟨outcome, hends⟩ :=
      (l.forwards_or_ends reference).resolve_left fun ⟨other, h⟩ => hterminal other h
    exact absurd hland ((hends.land hterminal).2 further)
  · obtain ⟨other, h⟩ := not_forall_not.mp hterminal
    cases h.land.symm.trans hland
    exact h

theorem Terminal.ends_iff (hterminal : l.Terminal reference) {outcome : Except Fault Schema} :
    l.Ends reference outcome ↔ (l.land reference).map Landing.toSchema = outcome := by
  refine ⟨fun h => (h.land hterminal).1, ?_⟩
  rintro rfl
  rcases l.forwards_or_ends reference with ⟨further, h⟩ | ⟨outcome, h⟩
  · exact absurd h (hterminal further)
  · exact (h.land hterminal).1.symm ▸ h

theorem Forwards.unique {further' : String} (h : l.Forwards reference further)
    (h' : l.Forwards reference further') : further = further' := by
  have heq := h.land.symm.trans h'.land
  cases heq
  rfl

/-! ## Chains -/

/-- A chain of so many references leads from one to another. -/
inductive Chain (l : Loaded) : Nat → String → String → Prop
  | here {reference : String} : Chain l 0 reference reference
  | step {n : Nat} {reference further last : String} (h : l.Forwards reference further)
      (hrest : Chain l n further last) : Chain l (n + 1) reference last

theorem chase_forwards (h : l.Forwards reference further) (hops : Nat) :
    l.chase (hops + 1) reference = l.chase hops further := by
  rw [chase, h.land]
  rfl

theorem chase_terminal (h : l.Terminal reference) (hops : Nat) :
    l.chase (hops + 1) reference = l.land reference := by
  rw [chase]
  cases hland : l.land reference with
  | error fault => rfl
  | ok landing =>
    cases landing with
    | schema | shapeless => rfl
    | next further => exact absurd (forwards_iff.mpr hland) (h further)

/-- Each reference of a chain takes one hop. -/
theorem Chain.chase {n : Nat} {last : String} (h : l.Chain n reference last) (hops : Nat) :
    l.chase (n + hops) reference = l.chase hops last := by
  induction h with
  | here => rw [Nat.zero_add]
  | step href _ ih => rw [Nat.add_right_comm, chase_forwards href, ih]

/-- A chain comes to an end within so many references, or it goes on as far. -/
theorem ended_or_chain (l : Loaded) (hops : Nat) (reference : String) :
    (∃ n < hops, ∃ last, l.Chain n reference last ∧ l.Terminal last) ∨
      ∃ last, l.Chain hops reference last := by
  induction hops generalizing reference with
  | zero => exact .inr ⟨reference, .here⟩
  | succ hops ih =>
    by_cases hterminal : l.Terminal reference
    · exact .inl ⟨0, hops.succ_pos, reference, .here, hterminal⟩
    · obtain ⟨further, href⟩ := not_forall_not.mp hterminal
      rcases ih further with ⟨n, hn, last, hchain, hlast⟩ | ⟨last, hchain⟩
      · exact .inl ⟨n + 1, Nat.succ_lt_succ hn, last, .step href hchain, hlast⟩
      · exact .inr ⟨last, .step href hchain⟩

/-- A chain that runs into a cycle goes on for ever. -/
theorem exists_chain_of_cycle {onCycle : String} (hcycle : Relation.TransGen l.Forwards onCycle onCycle)
    (n : Nat) {reference : String} (h : Relation.ReflTransGen l.Forwards reference onCycle) :
    ∃ last, l.Chain n reference last := by
  -- A reference from which the cycle is reached has a next one from which it is reached as well.
  induction n generalizing reference with
  | zero => exact ⟨reference, .here⟩
  | succ n ih =>
    have hstep : ∃ further, l.Forwards reference further ∧ Relation.ReflTransGen l.Forwards further onCycle := by
      rcases Relation.ReflTransGen.cases_head h with rfl | hstep
      · exact Relation.TransGen.head'_iff.mp hcycle
      · exact hstep
    obtain ⟨further, href, hrest⟩ := hstep
    obtain ⟨last, hchain⟩ := ih hrest
    exact ⟨last, .step href hchain⟩

/-! ## Outcomes -/

theorem Chain.schemaAt_cut {last : String} (h : l.Chain 32 reference last) :
    l.schemaAt reference = .error (.depthExceeded 32 last) := by
  rw [schemaAt, maxHops, h.chase 0]
  rfl

/-- The last of the hops is the step that finds out that a chain has come to its end. -/
theorem Chain.schemaAt_ended {n : Nat} {last : String} (h : l.Chain n reference last) (hn : n < 32)
    (hterminal : l.Terminal last) (outcome : Except Fault Schema) :
    l.schemaAt reference = outcome ↔ l.Ends last outcome := by
  have hhops : maxHops = n + ((31 - n) + 1) := by
    rw [maxHops]
    omega
  rw [schemaAt, hhops, h.chase, chase_terminal hterminal, hterminal.ends_iff]

/-- What becomes of the chain of references that begins at one. -/
structure FollowsChain (l : Loaded) (first : String) : Prop where
  /-- There is only one way to go on. -/
  unique : ∀ {reference further further'}, l.Forwards reference further → l.Forwards reference further' →
    further = further'
  /-- One of the first 32 references leads no further, or there is a 33rd one. -/
  ended_or_cut : (∃ n < 32, ∃ last, l.Chain n first last ∧ l.Terminal last) ∨
    ∃ last, l.Chain 32 first last
  /-- A chain of at most 31 steps is followed to its end. -/
  ended : ∀ {n last}, n < 32 → l.Chain n first last → l.Terminal last →
    ∀ outcome, l.schemaAt first = outcome ↔ l.Ends last outcome
  /-- A longer chain ends with a fault. -/
  cut : ∀ {last}, l.Chain 32 first last → l.schemaAt first = .error (.depthExceeded 32 last)
  /-- So does one that runs into a cycle. -/
  cyclic : ∀ {onCycle}, Relation.ReflTransGen l.Forwards first onCycle →
    Relation.TransGen l.Forwards onCycle onCycle →
    ∃ last, l.Chain 32 first last ∧ l.schemaAt first = .error (.depthExceeded 32 last)
  /-- A written value that is no schema is no fault at the end of a chain. -/
  shapeless : ∀ {n last raw v fault}, n < 32 → l.Chain n first last → l.Terminal last →
    Pointer.parse? last = some (.other raw) → l.rawAt last = .ok v → Schema.decode v = .error fault →
    l.schemaAt first = .ok {}

end Loaded

/-- A chain of references is followed to its end if there are at most 31 steps, and never further. -/
theorem chain_followed (l : Loaded) (first : String) : l.FollowsChain first := by
  constructor
  case unique => exact fun h h' => h.unique h'
  case ended_or_cut => exact l.ended_or_chain 32 first
  case ended => exact fun hn hchain hterminal => hchain.schemaAt_ended hn hterminal
  case cut => exact fun hchain => hchain.schemaAt_cut
  case cyclic =>
    intro onCycle hreach hcycle
    obtain ⟨last, hchain⟩ := Loaded.exists_chain_of_cycle hcycle 32 hreach
    exact ⟨last, hchain, hchain.schemaAt_cut⟩
  case shapeless =>
    intro n last raw v fault hn hchain hterminal hparse hv hread
    exact (hchain.schemaAt_ended hn hterminal _).mpr (.schema hparse (.shapeless hv hread))

end SwaggerService
