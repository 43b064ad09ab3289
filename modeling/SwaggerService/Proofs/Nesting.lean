import SwaggerService.Proofs.DepthLimit
import SwaggerService.Proofs.Expansion

/-! # Nesting

A level is entered for a part, for a schema and for the properties of an object, so each step of an
expansion takes two. Where the expansions of all that a document starts from are bounded, twice that bound
and one more level are enough, whatever happens on the way; and where one of them is endless, no limit is
enough. -/

namespace SwaggerService
open Service

namespace Walk

open Loaded

variable {α β : Type} {l : Loaded} {levels : Nat}

/-- Where so many levels are left, the walk comes back to the depth that it began at, and the limit of
nesting has no part in how it ends. -/
def FitsIn (levels : Nat) (w : Walk α) : Prop :=
  ∀ run, run.registry.depth + levels ≤ run.registry.maxDepth →
    Unlimited (w run).1 ∧ (w run).2.registry.depth = run.registry.depth ∧
      (w run).2.registry.maxDepth = run.registry.maxDepth

theorem FitsIn.bind_returns {w : Walk α} {f : α → Walk β} (hw : FitsIn levels w)
    (hf : ∀ a run run', Returns w run a run' → FitsIn levels (f a)) : FitsIn levels (w >>= f) := by
  intro run hroom
  obtain ⟨hfault, hdepth, hlimit⟩ := hw run hroom
  rw [bind_eq]
  rcases hrun : w run with ⟨fault | a, mid⟩
  · rw [hrun] at hfault hdepth hlimit
    exact ⟨.error (hfault fault rfl), hdepth, hlimit⟩
  · rw [hrun] at hdepth hlimit
    dsimp only at hdepth hlimit
    obtain ⟨hfault', hdepth', hlimit'⟩ := hf a run mid hrun mid (by omega)
    exact ⟨hfault', hdepth'.trans hdepth, hlimit'.trans hlimit⟩

theorem FitsIn.bind {w : Walk α} {f : α → Walk β} (hw : FitsIn levels w)
    (hf : ∀ a, FitsIn levels (f a)) : FitsIn levels (w >>= f) := hw.bind_returns fun a _ _ _ => hf a

theorem Steady.fitsIn {w : Walk α} (h : Steady w) : FitsIn levels w :=
  fun run _ => ⟨(h run).fault, (h run).depth, (h run).maxDepth⟩

theorem pure_fitsIn (a : α) : FitsIn levels (Pure.pure a) := (pure_steady a).fitsIn

theorem level_fitsIn {place : String} {w : Walk α} (h : FitsIn levels w) :
    FitsIn (levels + 1) (level place w) := by
  intro run hroom
  have hleft : ¬ run.registry.maxDepth ≤ run.registry.depth := by omega
  have hdeeper : run.deeper.registry.depth + levels ≤ run.deeper.registry.maxDepth := by
    change run.registry.depth + 1 + levels ≤ run.registry.maxDepth
    omega
  obtain ⟨hfault, hdepth, hlimit⟩ := h run.deeper hdeeper
  rw [level_eq, if_neg hleft]
  refine ⟨hfault, ?_, hlimit⟩
  change (w run.deeper).2.registry.depth - 1 = run.registry.depth
  rw [hdepth]
  exact Nat.add_sub_cancel run.registry.depth 1

end Walk

/-! ## Classification -/

namespace Walker

open Walk Loaded

variable {l : Loaded} {levels n : Nat} {below : Unit → Walker}

/-- The walks of one level fit in so many levels, for whatever has expansions that are bounded by half as
many. -/
structure Fits (l : Loaded) (levels : Nat) (w : Walker) : Prop where
  node : ∀ {n : Nat} {part : RefOr Schema} (localName parentName : String), 2 * n + 1 ≤ levels →
    (∀ s, l.unfolded? part = some s → l.Within n s) → FitsIn levels (w.node part localName parentName)
  schema : ∀ {n : Nat} {s : Schema} (localName parentName : String), 2 * n + 1 ≤ levels →
    l.Within n s → FitsIn levels (w.schema s localName parentName)
  properties : ∀ {n : Nat} {s : Schema} (parentName : String), 2 * n ≤ levels → s.kind = .object →
    l.Within n s → FitsIn levels (w.properties s parentName)

theorem array_fitsIn (hb : (below ()).Fits l levels) (hn : 2 * n ≤ levels) {s : Schema}
    (localName parentName : String) (rules : List Rule) (hk : s.kind = .array) (hs : l.Within n s) :
    FitsIn levels (array below s localName parentName rules) := by
  unfold array
  cases hi : s.items with
  | none => exact (pure_fitsIn _).bind fun _ => pure_fitsIn _
  | some items =>
    cases n with
    | zero => exact hs.elim
    | succ n =>
      refine (hb.node localName parentName (by omega) fun t ht => hs t ?_).bind fun _ => pure_fitsIn _
      rw [expansions_array hk, hi, Option.bind_some, ht]
      exact Option.mem_toList.mpr rfl

theorem reference_fitsIn (hb : (below ()).Fits l levels) (hn : 2 * n ≤ levels) {target : String}
    (localName parentName : String) (hs : ∀ s, l.unfolded? (.ref target) = some s → l.Within n s) :
    FitsIn levels (reference l below target localName parentName) := by
  refine (outcome_steady (pointer_unlimited target)).fitsIn.bind_returns fun pointer _ _ hpointer =>
    (schemaAt_steady l target).fitsIn.bind_returns fun s _ _ hschema =>
      (ruleSet_steady l s).fitsIn.bind fun rules => ?_
  cases pointer with
  | definition name =>
    dsimp only
    cases hk : s.kind with
    | array =>
      refine array_fitsIn hb hn localName parentName rules hk (hs s ?_)
      rw [unfolded?_definition (parse_of_pointer (outcome_returns hpointer).1)
        (schemaAt_returns hschema).1, if_pos hk]
    | file | unrecognized => exact (note_steady _).fitsIn.bind fun _ => pure_fitsIn _
    | object | string | number | integer | boolean | null => exact pure_fitsIn _
  | parameter | response | other => exact pure_fitsIn _

theorem inline_fitsIn (hb : (below ()).Fits l levels) (hn : 2 * n ≤ levels) {s : Schema}
    (localName parentName : String) (hs : l.Within n s) :
    FitsIn levels (inline l below s localName parentName) := by
  refine (ruleSet_steady l s).fitsIn.bind fun rules => ?_
  cases hk : s.kind with
  | string =>
    dsimp only
    split
    · exact (claim_steady _).fitsIn.bind fun _ =>
        (addEnum_steady _).fitsIn.bind fun _ => pure_fitsIn _
    · exact pure_fitsIn _
  | array => exact array_fitsIn hb hn localName parentName rules hk hs
  | object =>
    exact (claim_steady _).fitsIn.bind fun name => (hb.properties name hn hk hs).bind fun _ =>
      (addType_steady _).fitsIn.bind fun _ => pure_fitsIn _
  | file | unrecognized => exact (note_steady _).fitsIn.bind fun _ => pure_fitsIn _
  | number | integer | boolean | null => exact pure_fitsIn _

theorem ownProperties_fitsIn (hb : (below ()).Fits l levels) (hn : 2 * n + 1 ≤ levels)
    (required : List String) (parentName : String) {properties : List (String × RefOr Schema)}
    (hs : ∀ s ∈ l.resolved (properties.map (·.2)), l.Within n s) :
    FitsIn levels (ownProperties l below required parentName properties) := by
  induction properties with
  | nil => exact pure_fitsIn _
  | cons entry rest ih =>
    obtain ⟨name, node⟩ := entry
    have hproperty : FitsIn levels (property l below required parentName name node) := by
      refine (schema_steady l node).fitsIn.bind_returns fun s _ _ hschema => ?_
      refine (hb.schema name parentName hn (hs s ?_)).bind fun _ => pure_fitsIn _
      rw [List.map_cons, resolved_cons _ (schema_returns hschema).1]
      exact List.mem_cons_self
    refine hproperty.bind_returns fun _ _ _ hfirst => ?_
    obtain ⟨s, _, hschema, _⟩ := Returns.bind hfirst
    rw [List.map_cons, resolved_cons _ (schema_returns hschema).1] at hs
    exact (ih (List.forall_mem_cons.mp hs).2).bind fun _ => pure_fitsIn _

theorem memberProperties_fitsIn (hb : (below ()).Fits l levels) (hn : 2 * n + 1 ≤ levels)
    (required : List String) (parentName : String) {members : List (RefOr Schema)}
    (hs : ∀ s ∈ (l.resolved members).flatMap fun member => l.resolved (member.properties.map (·.2)),
      l.Within n s) :
    FitsIn levels (memberProperties l below required parentName members) := by
  induction members with
  | nil => exact pure_fitsIn _
  | cons member rest ih =>
    refine (schema_steady l member).fitsIn.bind_returns fun s _ _ hschema => ?_
    rw [resolved_cons _ (schema_returns hschema).1, List.flatMap_cons] at hs
    obtain ⟨hown, hrest⟩ := List.forall_mem_append.mp hs
    exact (ownProperties_fitsIn hb hn required parentName hown).bind fun _ =>
      (ih hrest).bind fun _ => pure_fitsIn _

theorem allProperties_fitsIn (hb : (below ()).Fits l levels) (hn : 2 * n + 1 ≤ levels) {s : Schema}
    (parentName : String) (hk : s.kind = .object) (hs : ∀ t ∈ l.expansions s, l.Within n t) :
    FitsIn levels (allProperties l below s parentName) := by
  unfold expansions at hs
  rw [hk] at hs
  dsimp only at hs
  unfold allProperties
  split
  · next hown =>
    rw [if_pos hown] at hs
    exact ownProperties_fitsIn hb hn s.required parentName hs
  · next hcomposed =>
    rw [if_neg hcomposed] at hs
    exact memberProperties_fitsIn hb hn s.required parentName hs

theorem above_fits (hb : (below ()).Fits l levels) : (above l below).Fits l (levels + 1) where
  node {n part} localName parentName hn hs := by
    refine level_fitsIn ?_
    cases part with
    | ref target => exact reference_fitsIn hb (Nat.le_of_succ_le_succ hn) localName parentName hs
    | item s => exact inline_fitsIn hb (Nat.le_of_succ_le_succ hn) localName parentName (hs s rfl)
  schema localName parentName hn hs :=
    level_fitsIn (inline_fitsIn hb (Nat.le_of_succ_le_succ hn) localName parentName hs)
  properties {n s} parentName hn hk hs := by
    cases n with
    | zero => exact hs.elim
    | succ n => exact level_fitsIn (allProperties_fitsIn hb (by omega) parentName hk hs)

theorem withRoom_fits (l : Loaded) : ∀ room, (withRoom l room).Fits l room
  | 0 => {
      node := fun _ _ hn => absurd hn (Nat.not_succ_le_zero _)
      schema := fun _ _ hn => absurd hn (Nat.not_succ_le_zero _)
      properties := fun {n _} _ hn _ hs => by
        cases n with
        | zero => exact hs.elim
        | succ n => omega }
  | room + 1 => above_fits (withRoom_fits l room)

end Walker

/-! ## Documents -/

namespace Loaded

open Walk

variable {l : Loaded} {levels n : Nat}

/-- A walk with the levels that are left fits in some of them if it does so in all. -/
theorem walk_fitsIn {α : Type} {body : Walker → Walk α}
    (h : ∀ room, levels ≤ room → FitsIn room (body (Walker.withRoom l room))) :
    FitsIn levels (l.walk body) := by
  intro run hroom
  have hleft : run.registry.room = run.registry.maxDepth - run.registry.depth := rfl
  exact h run.registry.room (by omega) run (by omega)

theorem classify_fitsIn {node : RefOr Schema} (localName parentName : String)
    (h : ∀ s, l.unfolded? node = some s → l.Within n s) :
    FitsIn (2 * n + 1) (l.classify node localName parentName) :=
  walk_fitsIn fun room hn => (Walker.withRoom_fits l room).node localName parentName hn h

theorem classifySchema_fitsIn {s : Schema} (localName parentName : String) (h : l.Within n s) :
    FitsIn (2 * n + 1) (l.classifySchema s localName parentName) :=
  walk_fitsIn fun room hn => (Walker.withRoom_fits l room).schema localName parentName hn h

theorem properties_fitsIn {s : Schema} (parentName : String) (hk : s.kind = .object) (h : l.Within n s) :
    FitsIn (2 * n + 1) (l.properties s parentName) :=
  walk_fitsIn fun room hn => (Walker.withRoom_fits l room).properties parentName (by omega) hk h

theorem methodParameter_fitsIn {p : Parameter} (parentName : String)
    (h : ∀ s, l.parameterStart? p = some s → l.Within n s) :
    FitsIn (2 * n + 1) (l.methodParameter p parentName) := by
  have htype : FitsIn (2 * n + 1) (l.parameterType p parentName) := by
    unfold parameterStart? at h
    unfold parameterType
    split
    · next hbody =>
      rw [if_pos hbody] at h
      cases hnode : p.schema with
      | none => exact pure_fitsIn _
      | some node =>
        rw [hnode] at h
        exact classify_fitsIn p.name parentName h
    · next hbody =>
      rw [if_neg hbody] at h
      exact classifySchema_fitsIn p.name parentName (h _ rfl)
  exact htype.bind fun _ => pure_fitsIn _

theorem methodParameters_fitsIn (parentName : String) {nodes : List (RefOr Parameter)}
    (h : ∀ node ∈ nodes, ∀ p, l.parameter node = .ok p → ∀ s, l.parameterStart? p = some s → l.Within n s) :
    FitsIn (2 * n + 1) (l.methodParameters parentName nodes) := by
  induction nodes with
  | nil => exact pure_fitsIn _
  | cons node rest ih =>
    obtain ⟨hnode, hrest⟩ := List.forall_mem_cons.mp h
    exact (outcome_steady (parameter_unlimited l node)).fitsIn.bind_returns fun p _ _ hp =>
      (methodParameter_fitsIn parentName (hnode p (outcome_returns hp).1)).bind fun _ =>
        (ih hrest).bind fun _ => pure_fitsIn _

theorem returnType_fitsIn {node : RefOr Response} (parentName : String)
    (h : ∀ response, l.response node = .ok response →
      ∀ s, response.schema.bind l.unfolded? = some s → l.Within n s) :
    FitsIn (2 * n + 1) (l.returnType node parentName) := by
  refine (outcome_steady (response_unlimited l node)).fitsIn.bind_returns fun response _ _ hresponse => ?_
  have hs := h response (outcome_returns hresponse).1
  cases hschema : response.schema with
  | none => exact pure_fitsIn _
  | some schema =>
    rw [hschema] at hs
    exact (classify_fitsIn _ _ hs).bind fun _ => pure_fitsIn _

theorem method_fitsIn (verb : Verb) {o : Operation} {shared : List (RefOr Parameter)}
    (h : ∀ s ∈ l.operationStarts o shared, l.Within n s) :
    FitsIn (2 * n + 1) (l.method verb o shared) := by
  obtain ⟨hparameters, hresult⟩ := List.forall_mem_append.mp h
  refine (note_steady _).fitsIn.bind fun _ => (methodParameters_fitsIn _ ?_).bind fun parameters => ?_
  · intro node hnode p hp s hs
    refine hparameters s (List.mem_filterMap.mpr ⟨node, hnode, ?_⟩)
    rw [hp]
    exact hs
  · dsimp only
    cases hsuccess : SuccessKey.select o.responses with
    | none => exact (pure_fitsIn _).bind fun _ => pure_fitsIn _
    | some success =>
      refine (returnType_fitsIn o.parentName ?_).bind fun _ => pure_fitsIn _
      intro response hresponse s hs
      refine hresult s (Option.mem_toList.mpr ?_)
      rw [resultStart?, hsuccess, Option.bind_some, hresponse]
      exact hs

theorem pathMethods_fitsIn (shared : List (RefOr Parameter)) {operations : List (Verb × Operation)}
    (h : ∀ operation ∈ operations, ∀ s ∈ l.operationStarts operation.2 shared, l.Within n s) :
    FitsIn (2 * n + 1) (l.pathMethods shared operations) := by
  induction operations with
  | nil => exact pure_fitsIn _
  | cons operation rest ih =>
    obtain ⟨hfirst, hrest⟩ := List.forall_mem_cons.mp h
    exact (method_fitsIn _ hfirst).bind fun _ => (ih hrest).bind fun _ => pure_fitsIn _

theorem groupMethods_fitsIn {paths : List (String × PathItem)}
    (h : ∀ path ∈ paths, ∀ operation ∈ path.2.operations,
      ∀ s ∈ l.operationStarts operation.2 path.2.parameters, l.Within n s) :
    FitsIn (2 * n + 1) (l.groupMethods paths) := by
  induction paths with
  | nil => exact pure_fitsIn _
  | cons path rest ih =>
    obtain ⟨hfirst, hrest⟩ := List.forall_mem_cons.mp h
    exact (pathMethods_fitsIn _ hfirst).bind fun _ => (ih hrest).bind fun _ => pure_fitsIn _

theorem interfacesOf_fitsIn {groups : List (String × List (String × PathItem))}
    (h : ∀ group ∈ groups, ∀ path ∈ group.2, ∀ operation ∈ path.2.operations,
      ∀ s ∈ l.operationStarts operation.2 path.2.parameters, l.Within n s) :
    FitsIn (2 * n + 1) (l.interfacesOf groups) := by
  induction groups with
  | nil => exact pure_fitsIn _
  | cons group rest ih =>
    obtain ⟨hfirst, hrest⟩ := List.forall_mem_cons.mp h
    have hinterface : FitsIn (2 * n + 1) (l.interface group.1 group.2) :=
      (note_steady _).fitsIn.bind fun _ => (groupMethods_fitsIn hfirst).bind fun _ => pure_fitsIn _
    exact hinterface.bind fun _ => (ih hrest).bind fun _ => pure_fitsIn _

theorem definitionTypes_fitsIn {definitions : List (String × Schema)}
    (h : ∀ entry ∈ definitions, entry.2.kind = .object ∧ l.Within n entry.2) :
    FitsIn (2 * n + 1) (l.definitionTypes definitions) := by
  induction definitions with
  | nil => exact pure_fitsIn _
  | cons entry rest ih =>
    obtain ⟨⟨hk, hs⟩, hrest⟩ := List.forall_mem_cons.mp h
    exact (properties_fitsIn _ hk hs).bind fun _ => (ih hrest).bind fun _ => pure_fitsIn _

theorem parts_fitsIn (h : ∀ s ∈ l.starts, l.Within n s) : FitsIn (2 * n + 1) l.parts := by
  obtain ⟨hdefinitions, hoperations⟩ := List.forall_mem_append.mp h
  refine (interfacesOf_fitsIn ?_).bind fun _ => (definitionTypes_fitsIn ?_).bind fun _ =>
    pure_fitsIn _
  · intro group hgroup path hpath operation hoperation s hs
    refine hoperations s (List.mem_flatMap.mpr ⟨path, mem_groupPaths hgroup hpath, ?_⟩)
    exact List.mem_flatMap.mpr ⟨operation, hoperation, hs⟩
  · intro entry hentry
    exact ⟨beq_iff_eq.mp (List.mem_filter.mp hentry).2,
      hdefinitions _ (List.mem_map.mpr ⟨entry, hentry, rfl⟩)⟩

theorem majorVersion_unlimited (l : Loaded) : Unlimited l.majorVersion := by
  intro fault h
  dsimp only [majorVersion] at h
  cases hv : Version.parse l.document.info.version with
  | error cause =>
    rw [hv] at h
    cases h
    trivial
  | ok version =>
    rw [hv] at h
    cases h

/-- With two levels for each step of an expansion, and one more, the limit has no part in the answer. -/
theorem describe_unlimited (h : ∀ s ∈ l.starts, l.Within n s) {maxDepth : Nat}
    (hle : 2 * n + 1 ≤ maxDepth) : Unlimited (l.describe maxDepth) := by
  have hstart : (l.startRegistry maxDepth).depth + (2 * n + 1) ≤ (l.startRegistry maxDepth).maxDepth := by
    rw [startRegistry_eq]
    exact (Nat.zero_add _).trans_le hle
  have hparts := (parts_fitsIn h { registry := l.startRegistry maxDepth } hstart).1
  rw [describe_eq]
  refine (majorVersion_unlimited l).bind fun major => ?_
  rcases hrun : l.parts { registry := l.startRegistry maxDepth } with ⟨fault | ⟨interfaces, types⟩, run⟩
  · rw [hrun] at hparts
    exact .error (hparts fault rfl)
  · exact .ok _

end Loaded

/-- A document that starts from a schema with an endless expansion is never described. One that does not is
not cut off by any limit from some bound on: it never fails there because of its nesting, and its answer no
longer changes. -/
theorem endless_or_bounded (l : Loaded) :
    ((∃ s ∈ l.starts, l.Endless s) → ∀ maxDepth, ∃ fault, l.describe maxDepth = .error fault) ∧
    ((∀ s ∈ l.starts, ¬ l.Endless s) → ∃ bound, Loaded.maxHops < bound ∧ ∀ maxDepth, bound ≤ maxDepth →
      (∀ location, l.describe maxDepth ≠ .error (.depthExceeded maxDepth location)) ∧
        l.describe maxDepth = l.describe bound) := by
  constructor
  · rintro ⟨s, hs, hendless⟩ maxDepth
    cases h : l.describe maxDepth with
    | error fault => exact ⟨fault, rfl⟩
    | ok service => exact absurd hendless (Loaded.not_endless_of_describe h hs)
  · intro h
    obtain ⟨n, hn⟩ := Loaded.exists_within fun s hs => Loaded.within_of_not_endless (h s hs)
    refine ⟨2 * n + 1 + Loaded.maxHops, by omega, fun maxDepth hle => ?_⟩
    have hnever : ∀ limit, 2 * n + 1 + Loaded.maxHops ≤ limit →
        ∀ location, l.describe limit ≠ .error (.depthExceeded limit location) := by
      intro limit hlimit location hcut
      have hhops : limit = Loaded.maxHops := Loaded.describe_unlimited hn (by omega) _ hcut
      omega
    refine ⟨hnever maxDepth hle, ?_⟩
    rcases l.describe_of_le hle with ⟨location, hcut⟩ | hsame
    · exact absurd hcut (hnever _ (Nat.le_refl _) location)
    · exact hsame

/-- An object that has itself as a property. -/
def Schema.chain : Schema :=
  { type := some .object, properties := [("next", .ref "#/definitions/Node")] }

/-- A document with a definition that has itself as a property. -/
def Json.chain : Json :=
  .object [
    ("info", .object [("title", .string "chain"), ("version", .string "1.0.0")]),
    ("definitions", .object [("Node", .object [("type", .string "object"),
      ("properties", .object [("next", .object [("$ref", .string "#/definitions/Node")])])])])]

-- In the orders an item refers to itself as well, but in the place of items.
theorem chain_endless_orders_bounded :
    (∃ l, Loaded.ofJson Json.chain = .ok l ∧ (∃ s ∈ l.starts, l.Endless s) ∧
      ∀ maxDepth, ∃ fault, l.describe maxDepth = .error fault) ∧
    (∃ l, Loaded.ofJson Json.orders = .ok l ∧ (∀ s ∈ l.starts, ¬ l.Endless s) ∧
      ∃ bound, Loaded.maxHops < bound ∧ ∀ maxDepth, bound ≤ maxDepth →
        (∀ location, l.describe maxDepth ≠ .error (.depthExceeded maxDepth location)) ∧
          l.describe maxDepth = l.describe bound) := by
  constructor
  · let l : Loaded := ⟨⟨none, ⟨"chain", "1.0.0", none⟩, [], [("Node", Schema.chain)], [], []⟩, Json.chain⟩
    have hl : Loaded.ofJson Json.chain = .ok l := rfl
    have hstarts : l.starts = [Schema.chain] := rfl
    have hnext : l.expansions Schema.chain = [Schema.chain] := rfl
    have hendless : ∃ s ∈ l.starts, l.Endless s :=
      ⟨Schema.chain, hstarts ▸ List.mem_cons_self, fun _ => Schema.chain, rfl,
        fun _ => hnext ▸ List.mem_cons_self⟩
    exact ⟨l, hl, hendless, (endless_or_bounded l).1 hendless⟩
  · obtain ⟨l, service, hl, h, _⟩ := Loaded.exists_described Json.orders defaultMaxDepth
      (fun _ service => service.types.length) 4 (by decide +kernel)
    have hbounded : ∀ s ∈ l.starts, ¬ l.Endless s := by
      intro s hs hendless
      obtain ⟨fault, hfault⟩ := (endless_or_bounded l).1 ⟨s, hs, hendless⟩ defaultMaxDepth
      rw [h] at hfault
      cases hfault
    exact ⟨l, hl, hbounded, (endless_or_bounded l).2 hbounded⟩

end SwaggerService
