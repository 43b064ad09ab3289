import SwaggerService.Proofs.Blueprint
import SwaggerService.Proofs.Congruence
import SwaggerService.Proofs.Steps

/-! # The frame of a walk

What a walk over a schema leaves alone, whether it succeeds or fails: it comes back to the depth that it
began at, and what the registry has stays in it. When it succeeds, the names that it took are those of the
entries that it added. On the way, no level lies beyond the limit and no level is left that was not
entered; to say so, levels are watched. -/

namespace SwaggerService
open Service Walk

namespace Registry

/-- A registry with more in it, at the same depth. -/
structure Grows (r r' : Registry) : Prop where
  depth : r'.depth = r.depth
  maxDepth : r'.maxDepth = r.maxDepth
  enums : r.enums <+: r'.enums
  types : r.types <+: r'.types
  names : r.names ⊆ r'.names

/-- The names that a registry has more are those of the entries that it has more, and no two of these have
the same. -/
def Accounts (r r' : Registry) : Prop :=
  ∃ types enums, r'.types = r.types ++ types ∧ r'.enums = r.enums ++ enums ∧
    (types.map TypeDef.name ++ enums.map EnumDef.name).Nodup ∧
    ∀ name, name ∈ types.map TypeDef.name ++ enums.map EnumDef.name ↔ name ∈ r'.names ∧ name ∉ r.names

theorem Grows.refl (r : Registry) : r.Grows r :=
  ⟨rfl, rfl, List.prefix_refl _, List.prefix_refl _, List.Subset.refl _⟩

theorem Grows.trans {r mid r' : Registry} (h : r.Grows mid) (h' : mid.Grows r') : r.Grows r' :=
  ⟨h'.depth.trans h.depth, h'.maxDepth.trans h.maxDepth, h.enums.trans h'.enums, h.types.trans h'.types,
    List.Subset.trans h.names h'.names⟩

theorem grows_claim (r : Registry) (candidate : String) : r.Grows (r.claim candidate).2 :=
  ⟨rfl, rfl, List.prefix_refl _, List.prefix_refl _, fun _ h => List.mem_insert_of_mem h⟩

theorem grows_addEnum (r : Registry) (e : EnumDef) : r.Grows (r.addEnum e) :=
  ⟨rfl, rfl, List.prefix_append _ _, List.prefix_refl _, List.Subset.refl _⟩

theorem grows_addType (r : Registry) (t : TypeDef) : r.Grows (r.addType t) :=
  ⟨rfl, rfl, List.prefix_refl _, List.prefix_append _ _, List.Subset.refl _⟩

/-- What is drawn accounts for its names. -/
theorem accounts_absorb {r : Registry} {claims : List String} {nodes : List Outline}
    (hfresh : Fresh r.names claims) (hnames : (nodes.filterMap Outline.name?).Perm claims) :
    r.Accounts (r.absorb claims nodes) := by
  have hperm := (Outline.entries_perm nodes).trans hnames
  refine ⟨_, _, rfl, rfl, hperm.nodup_iff.mpr hfresh.1, fun name => ?_⟩
  rw [hperm.mem_iff]
  change name ∈ claims ↔ name ∈ take r.names claims ∧ name ∉ r.names
  rw [mem_take]
  constructor
  · intro hclaim
    exact ⟨.inr hclaim, hfresh.2 name hclaim⟩
  · rintro ⟨hin | hclaim, hout⟩
    · exact absurd hin hout
    · exact hclaim

end Registry

theorem Drawn.accounts {o : Outline} {localName parentName : String} {run run' : Run}
    (h : Drawn o localName parentName run run') : run.registry.Accounts run'.registry := by
  rw [h.registry]
  exact Registry.accounts_absorb h.named.fresh o.names_perm

theorem DrawnIn.accounts {slots : List Slot} {parentName : String} {run run' : Run}
    (h : DrawnIn slots parentName run run') : run.registry.Accounts run'.registry := by
  rw [h.registry]
  exact Registry.accounts_absorb h.named.fresh (Outline.names_permIn slots)

namespace Walk

variable {α β : Type} {l : Loaded}

/-! ## What stays -/

/-- However the walk ends, the registry has grown and is back at its depth. -/
def Keeps (w : Walk α) : Prop := ∀ run : Run, run.registry.Grows (w run).2.registry

theorem Keeps.bind {w : Walk α} {f : α → Walk β} (hw : Keeps w) (hf : ∀ a, Keeps (f a)) :
    Keeps (w >>= f) := by
  intro run
  have hfirst := hw run
  rw [bind_eq]
  rcases hrun : w run with ⟨fault | a, mid⟩
  · rw [hrun] at hfirst
    exact hfirst
  · rw [hrun] at hfirst
    exact hfirst.trans (hf a mid)

theorem outcome_keeps (e : Except Fault α) : Keeps (outcome e) := fun _ => .refl _

theorem note_keeps (e : Event) : Keeps (note e) := fun _ => .refl _

theorem noteShapeless_keeps (l : Loaded) (target : String) : Keeps (noteShapeless l target) := by
  unfold noteShapeless
  split
  · exact note_keeps _
  · exact outcome_keeps _

theorem noteNode_keeps (l : Loaded) (node : RefOr Schema) : Keeps (noteNode l node) := by
  cases node with
  | ref target => exact noteShapeless_keeps l target
  | item s => exact outcome_keeps _

theorem ruleSet_keeps (l : Loaded) (s : Schema) : Keeps (ruleSet l s) := by
  unfold ruleSet
  split
  · exact (noteNode_keeps l _).bind fun _ => outcome_keeps _
  · exact outcome_keeps _

theorem claim_keeps (candidate : String) : Keeps (claim candidate) := by
  intro run
  rw [claim_eq]
  exact Registry.grows_claim _ _

theorem addEnum_keeps (e : EnumDef) : Keeps (addEnum e) := fun _ => Registry.grows_addEnum _ e

theorem addType_keeps (t : TypeDef) : Keeps (addType t) := fun _ => Registry.grows_addType _ t

/-- A level that is entered is left again, whatever comes of the walk inside. -/
theorem level_keeps {place : String} {w : Walk α} (h : Keeps w) : Keeps (level place w) := by
  intro run
  rw [level_eq]
  split
  · exact .refl _
  · have hinside := h run.deeper
    refine ⟨?_, hinside.maxDepth, hinside.enums, hinside.types, hinside.names⟩
    change (w run.deeper).2.registry.depth - 1 = run.registry.depth
    rw [hinside.depth]
    exact Nat.add_sub_cancel run.registry.depth 1

theorem keeps_congruence (l : Loaded) : Congruence l l Eq fun _ w _ => Keeps w where
  pure _ := outcome_keeps _
  bind hw hf := hw.bind hf
  note := note_keeps
  claim := claim_keeps
  addEnum := addEnum_keeps
  addType := addType_keeps
  pointer _ := outcome_keeps _
  schemaAt target := (noteShapeless_keeps l target).bind fun _ => outcome_keeps _
  schema node := (noteNode_keeps l node).bind fun _ => outcome_keeps _
  ruleSet := ruleSet_keeps l
  parameter _ := outcome_keeps _
  response _ := outcome_keeps _
  level h := level_keeps h
  refuse _ _ := fun _ => .refl _
  below {room _} h := ⟨room, h.symm, rfl⟩
  walk h run := h run.registry.room run.registry.room rfl run

/-! ## A watch over the depth -/

/-- A state on a level. The alarm goes off where the level lies beyond the limit, and where it is no level
that could be left. -/
def watch (alarm : Run → Run) (run : Run) : Run :=
  if 0 < run.registry.depth ∧ run.registry.depth ≤ run.registry.maxDepth then run else alarm run

/-- Does a walk one level deeper, with a watch over the depth once the level is entered and before it is
left. -/
def watchedLevel (alarm : Run → Run) (location : String) (body : Walk α) : Walk α := fun run =>
  match run.registry.enter location with
  | .error fault => (.error fault, run)
  | .ok registry =>
    let (result, back) := body (watch alarm { run with registry })
    (result, (watch alarm back).left)

end Walk

namespace Walker

/-- The walks of one level, by those of the level below it and a way of going a level deeper. -/
def aboveBy (level : {α : Type} → String → Walk α → Walk α) (l : Loaded) (below : Unit → Walker) : Walker where
  node part localName parentName := level (place parentName localName) <|
    match part with
    | .ref target => reference l below target localName parentName
    | .item s => inline l below s localName parentName
  schema s localName parentName := level (place parentName localName) (inline l below s localName parentName)
  properties s parentName := level parentName (allProperties l below s parentName)

/-- The walks with so many watched levels, and any others below these. -/
def watched (alarm : Run → Run) (l : Loaded) (others : Walker) : Nat → Walker
  | 0 => others
  | levels + 1 => aboveBy (watchedLevel alarm) l fun _ => watched alarm l others levels

/-- The walks above a level are those that enter it without a watch. -/
theorem aboveBy_level (l : Loaded) (below : Unit → Walker) : aboveBy level l below = above l below := rfl

end Walker

namespace Walk

variable {α β : Type} {l : Loaded} {alarm : Run → Run} {room : Nat}

/-- From every state with no more levels left than `room`, a walk comes back to the depth that it began at,
and another walk does the same as it. -/
def SameIn (room : Nat) (w w' : Walk α) : Prop :=
  ∀ run, run.registry.room ≤ room → w' run = w run ∧ (w run).2.registry.depth = run.registry.depth ∧
    (w run).2.registry.maxDepth = run.registry.maxDepth

theorem Steady.sameIn {w : Walk α} (h : Steady w) : SameIn room w w :=
  fun run _ => ⟨rfl, (h run).depth, (h run).maxDepth⟩

theorem SameIn.bind {w w' : Walk α} {f f' : α → Walk β} (hw : SameIn room w w')
    (hf : ∀ a, SameIn room (f a) (f' a)) : SameIn room (w >>= f) (w' >>= f') := by
  intro run hrun
  obtain ⟨hsame, hdepth, hlimit⟩ := hw run hrun
  rw [bind_eq, bind_eq, hsame]
  rcases hmid : w run with ⟨fault | a, mid⟩
  · rw [hmid] at hdepth hlimit
    exact ⟨rfl, hdepth, hlimit⟩
  · rw [hmid] at hdepth hlimit
    dsimp only at hdepth hlimit
    have hleft : mid.registry.room ≤ room := by rwa [Registry.room, hdepth, hlimit]
    obtain ⟨hsame', hdepth', hlimit'⟩ := hf a mid hleft
    exact ⟨hsame', hdepth'.trans hdepth, hlimit'.trans hlimit⟩

theorem SameIn.mono {room' : Nat} {w w' : Walk α} (hle : room ≤ room') (h : SameIn room' w w') :
    SameIn room w w' := fun run hrun => h run (Nat.le_trans hrun hle)

/-- One level deeper there is one level less. -/
theorem deeper_room {run : Run} (h : run.registry.room ≤ room + 1) : run.deeper.registry.room ≤ room := by
  change run.registry.maxDepth - (run.registry.depth + 1) ≤ room
  unfold Registry.room at h
  omega

theorem level_sameIn {place : String} {w w' : Walk α} (h : SameIn room w w') :
    SameIn (room + 1) (level place w) (level place w') := by
  intro run hrun
  rw [level_eq, level_eq]
  split
  · exact ⟨rfl, rfl, rfl⟩
  · obtain ⟨hsame, hdepth, hlimit⟩ := h run.deeper (deeper_room hrun)
    refine ⟨by rw [hsame], ?_, hlimit⟩
    change (w run.deeper).2.registry.depth - 1 = run.registry.depth
    rw [hdepth]
    exact Nat.add_sub_cancel run.registry.depth 1

/-- The alarm is silent where the walk inside comes back to the depth of its level. -/
theorem watchedLevel_eq {place : String} {w : Walk α} {run : Run}
    (hdepth : (w run.deeper).2.registry.depth = run.deeper.registry.depth)
    (hlimit : (w run.deeper).2.registry.maxDepth = run.deeper.registry.maxDepth) :
    watchedLevel alarm place w run = level place w run := by
  unfold watchedLevel Registry.enter
  rw [level_eq]
  by_cases hfull : run.registry.maxDepth ≤ run.registry.depth
  · rw [if_pos hfull, if_pos hfull]
  · rw [if_neg hfull, if_neg hfull]
    change ((w (watch alarm run.deeper)).1, (watch alarm (w (watch alarm run.deeper)).2).left) = _
    have hlevel : 0 < run.deeper.registry.depth ∧ run.deeper.registry.depth ≤ run.deeper.registry.maxDepth :=
      ⟨Nat.succ_pos _, Nat.lt_of_not_le hfull⟩
    have hentry : watch alarm run.deeper = run.deeper := if_pos hlevel
    have hexit : watch alarm (w run.deeper).2 = (w run.deeper).2 := if_pos (by rwa [hdepth, hlimit])
    rw [hentry, hexit]

theorem watchedLevel_sameIn {place : String} {w w' : Walk α} (h : SameIn room w w') :
    SameIn (room + 1) (level place w) (watchedLevel alarm place w') := by
  intro run hrun
  obtain ⟨hsame, hback⟩ := level_sameIn h run hrun
  refine ⟨?_, hback⟩
  rw [← hsame]
  by_cases hfull : run.registry.maxDepth ≤ run.registry.depth
  · unfold watchedLevel Registry.enter
    rw [level_eq, if_pos hfull, if_pos hfull]
  · obtain ⟨hinside, hdepth, hlimit⟩ := h run.deeper (deeper_room hrun)
    exact watchedLevel_eq (hinside ▸ hdepth) (hinside ▸ hlimit)

/-- Where no level is left, none is entered. -/
theorem refuse_sameIn {place : String} {w : Walk α} :
    SameIn 0 (refuse place) (watchedLevel alarm place w) := by
  intro run hrun
  have hfull : run.registry.maxDepth ≤ run.registry.depth := Nat.le_of_sub_eq_zero (Nat.le_zero.mp hrun)
  unfold watchedLevel Registry.enter
  rw [if_pos hfull]
  exact ⟨rfl, rfl, rfl⟩

theorem sameIn_congruence (l : Loaded) (room : Nat) : Congruence l l Eq fun _ => SameIn room where
  pure a := (pure_steady a).sameIn
  bind hw hf := hw.bind hf
  note e := (note_steady e).sameIn
  claim candidate := (claim_steady candidate).sameIn
  addEnum e := (addEnum_steady e).sameIn
  addType t := (addType_steady t).sameIn
  pointer target := (outcome_steady (Loaded.pointer_unlimited target)).sameIn
  schemaAt target := (schemaAt_steady l target).sameIn
  schema node := (schema_steady l node).sameIn
  ruleSet s := (ruleSet_steady l s).sameIn
  parameter node := (outcome_steady (l.parameter_unlimited node)).sameIn
  response node := (outcome_steady (l.response_unlimited node)).sameIn
  level h := (level_sameIn h).mono (Nat.le_succ room)
  refuse hroom h := by
    subst hroom
    rw [h rfl]
    exact fun _ _ => ⟨rfl, rfl, rfl⟩
  below {room _} h := ⟨room, h.symm, rfl⟩
  walk h run := h run.registry.room run.registry.room rfl run

end Walk

namespace Walker

variable {l : Loaded} {alarm : Run → Run} {room : Nat}

/-- Two ways of going a level deeper that keep a walk the same make the same walks. -/
theorem aboveBy_related {level level' : {α : Type} → String → Walk α → Walk α} {below below' : Unit → Walker}
    (hlevel : ∀ {α : Type} {place : String} {w w' : Walk α}, SameIn room w w' →
      SameIn (room + 1) (level place w) (level' place w'))
    (hb : (below ()).Related (fun _ => SameIn room) (below' ())) :
    (aboveBy level l below).Related (fun _ => SameIn (room + 1)) (aboveBy level' l below') := by
  have c := sameIn_congruence l room
  constructor
  · intro part localName parentName
    refine hlevel ?_
    cases part with
    | ref target => exact c.reference hb target localName parentName
    | item s => exact c.inline hb s localName parentName
  · exact fun s localName parentName => hlevel (c.inline hb s localName parentName)
  · exact fun s parentName => hlevel (c.allProperties hb s parentName)

/-- Where a level of watched walks is left that no walk comes to, the watch changes nothing. -/
theorem watched_sameIn (l : Loaded) (alarm : Run → Run) (others : Walker) : ∀ {room levels : Nat}, room < levels →
    (withRoom l room).Related (fun _ => SameIn room) (watched alarm l others levels)
  | 0, levels + 1, _ => {
      node := fun _ _ _ => refuse_sameIn
      schema := fun s localName parentName =>
        refuse_sameIn (w := inline l (fun _ => watched alarm l others levels) s localName parentName)
      properties := fun _ _ => refuse_sameIn }
  | room + 1, levels + 1, h => by
    -- Inside a level there is one level less on both sides.
    have hb := watched_sameIn l alarm others (Nat.lt_of_succ_lt_succ h)
    rw [withRoom, ← aboveBy_level]
    exact aboveBy_related watchedLevel_sameIn hb

end Walker

namespace Loaded

variable {α : Type} {l : Loaded}

/-- What a walk, which is made by a call of the walks of a document, does to the registry of a state. -/
structure Framed (l : Loaded) (w : Walk α) (call : Walker → Walk α) (run : Run) : Prop where
  /-- However it ends, what was there stays, and the depth is as before. -/
  grows : run.registry.Grows (w run).2.registry
  /-- If it succeeds, the names that it took are those of what it added. -/
  accounts : ∀ a, (w run).1 = .ok a → run.registry.Accounts (w run).2.registry
  /-- With a watch over its levels it does the same, whatever the alarm is. Levels that the limit does not
  leave are never come to. -/
  watched : ∀ alarm others levels, run.registry.room < levels →
    call (Walker.watched alarm l others levels) run = w run

end Loaded

/-- The three walks over a document keep to their frame, from every state. -/
theorem walks_framed (l : Loaded) (run : Run) :
    (∀ node localName parentName, l.Framed (l.classify node localName parentName)
      (fun w => w.node node localName parentName) run) ∧
    (∀ s localName parentName, l.Framed (l.classifySchema s localName parentName)
      (fun w => w.schema s localName parentName) run) ∧
    ∀ s parentName, l.Framed (l.properties s parentName) (fun w => w.properties s parentName) run := by
  have keeps := keeps_congruence l
  refine ⟨fun node localName parentName => ⟨keeps.classify node localName parentName run, ?_, ?_⟩,
    fun s localName parentName => ⟨keeps.classifySchema s localName parentName run, ?_, ?_⟩,
    fun s parentName => ⟨keeps.properties s parentName run, ?_, ?_⟩⟩
  · intro d hd
    obtain ⟨o, _, _, hdrawn⟩ := Loaded.classify_draws (Prod.ext hd rfl)
    exact hdrawn.accounts
  · intro alarm others levels hlevels
    exact ((Walker.watched_sameIn l alarm others hlevels).node node localName parentName run (Nat.le_refl _)).1
  · intro d hd
    obtain ⟨o, _, _, hdrawn⟩ := Loaded.classifySchema_draws (Prod.ext hd rfl)
    exact hdrawn.accounts
  · intro alarm others levels hlevels
    exact ((Walker.watched_sameIn l alarm others hlevels).schema s localName parentName run (Nat.le_refl _)).1
  · intro properties hd
    obtain ⟨fields, slots, _, _, _, hdrawn⟩ := Loaded.properties_draws (Prod.ext hd rfl)
    exact hdrawn.accounts
  · intro alarm others levels hlevels
    exact ((Walker.watched_sameIn l alarm others hlevels).properties s parentName run (Nat.le_refl _)).1

end SwaggerService
