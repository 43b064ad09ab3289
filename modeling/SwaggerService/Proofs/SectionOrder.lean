import SwaggerService.Proofs.Loading
import SwaggerService.Proofs.Parallel
import SwaggerService.Proofs.Reordering

/-! # The order of sections

Definitions, parameters and responses are looked up by their names, so their order does not matter to a
description, except that the types of definitions come in the order of these. While the interfaces are
described, the two walks differ in nothing but the order in which the names of definitions were taken, and no
free name depends on that. The definitions are then walked in different orders and may get other names, but
whether such a walk succeeds depends on the depth alone, and that is the same before each of them. -/

namespace SwaggerService
open Service Walk Decode

/-! ## Lookups -/

theorem cases_of_toOption {ε α : Type} {e e' : Except ε α} (h : e'.toOption = e.toOption) :
    (∃ a, e = .ok a ∧ e' = .ok a) ∨ ∃ t t', e = .error t ∧ e' = .error t' := by
  cases e with
  | ok a => exact .inl ⟨a, rfl, toOption_eq_some.mp h⟩
  | error t =>
    cases e' with
    | ok a => cases h
    | error t' => exact .inr ⟨t, t', rfl, rfl⟩

/-- Wherever a path leads in one of two written documents, it leads to something that reads alike in the other. -/
def Json.PathsAlike (raw raw' : Json) : Prop :=
  ∀ steps, Option.Rel ReadsAlike (raw.at? steps) (raw'.at? steps)

namespace Loaded

variable {α : Type} {l l' : Loaded} {known : String → Prop} {reference : String}

theorem landRaw_alike {v v' : Json} (h : v.ReadsAlike v') (hv : v.RefsIn known) :
    LandsAlike known (landRaw reference v) (landRaw reference v') := by
  unfold landRaw
  rw [h.target]
  split
  · next further hfurther => exact .next (hv.target hfurther)
  · rcases cases_of_toOption h.schema with ⟨s, hs, hs'⟩ | ⟨fault, fault', hs, hs'⟩
    · rw [hs, hs']
      exact .schema (Schema.decode_refsIn v hv hs)
    · rw [hs, hs']
      exact .shapeless

theorem rawAt_alike (hraw : l.raw.PathsAlike l'.raw) (reference : String) :
    Alike (fun _ _ => True) (fun v v' => v.ReadsAlike v' ∧ v.RefsIn l.raw.Cites) (l.rawAt reference)
      (l'.rawAt reference) := by
  unfold rawAt
  cases Pointer.steps? reference with
  | none => exact .error trivial
  | some steps =>
    have hat : ∀ v, l.raw.at? steps = some v → v.RefsIn l.raw.Cites := fun _ => l.raw.refsIn_cites.at
    have hrel := hraw steps
    dsimp only
    generalize l.raw.at? steps = found at hat hrel ⊢
    generalize l'.raw.at? steps = found' at hrel ⊢
    cases hrel with
    | none => exact .error trivial
    | some hv => exact .ok ⟨hv, hat _ rfl⟩

theorem partAt_alike {decode : Decoder α} {good : α → Prop} (hraw : l.raw.PathsAlike l'.raw)
    (hkeeps : decode.Keeps l.raw.Cites good)
    (hread : ∀ v v', v.ReadsAlike v' → (decode v').toOption = (decode v).toOption) (reference : String) :
    Alike (fun _ _ => True) (Equally good) (l.partAt decode reference) (l'.partAt decode reference) := by
  refine (rawAt_alike hraw reference).bind fun v v' ⟨halike, hv⟩ => ?_
  rcases cases_of_toOption (hread v v' halike) with ⟨a, ha, ha'⟩ | ⟨fault, fault', hfault, hfault'⟩
  · rw [ha, ha']
    exact .ok ⟨rfl, hkeeps v a hv ha⟩
  · rw [hfault, hfault']
    exact .error trivial

/-- References lead to the same in two documents that are the same up to the order of sections. -/
theorem lookups_of_reordered {sections : List String} (hl : l.Faithful) (hd : l.document.Distinct)
    (hdocument : l.document.Reordered sections l'.document) (hraw : l.raw.PathsAlike l'.raw) :
    Lookups (.every l.raw.Cites) (fun _ _ => True) l l' where
  fault_refl _ := trivial
  definition reference name := entry_alike (fun _ => trivial) hl.refs.definitions
    (Entries.get?_perm hdocument.definitions.perm hd.definitions name) reference
  parameter reference name := entry_alike (fun _ => trivial) hl.refs.parameters
    (Entries.get?_perm hdocument.parameters.perm hd.parameters name) reference
  response reference name := entry_alike (fun _ => trivial) hl.refs.responses
    (Entries.get?_perm hdocument.responses.perm hd.responses name) reference
  written {reference _} _ _ := (rawAt_alike hraw reference).imp fun _ _ h => landRaw_alike h.1 h.2
  parameterAt {reference _} _ _ _ := partAt_alike hraw Parameter.decode_keeps (fun _ _ h => h.parameter) reference
  responseAt {reference _} _ _ _ := partAt_alike hraw Response.decode_keeps (fun _ _ h => h.response) reference

end Loaded

/-! ## Couplings -/

namespace Loaded.Lookups

variable {reach : Reach} {l l' : Loaded}

/-- The same walk, after the names in use were taken in another order. -/
def names (hl : Lookups reach (fun _ _ => True) l l') : Coupling l l' where
  reach := reach
  exact := True
  registry r r' := ∃ names : List String, names.Perm r.names ∧ r' = { r with names }
  fault _ _ := True
  lookups := hl
  fault_deep _ := trivial
  depth := by
    rintro r _ ⟨names, _, rfl⟩
    exact ⟨rfl, rfl⟩
  atDepth := by
    rintro r _ depth ⟨names, hnames, rfl⟩
    exact ⟨names, hnames, rfl⟩
  claim := by
    rintro r _ candidate candidate' ⟨names, hnames, rfl⟩ hc
    have hname := Registry.freeName_perm hnames candidate
    rw [hc trivial]
    refine ⟨fun _ => hname, names.insert (Registry.freeName names candidate), ?_, rfl⟩
    rw [hname]
    exact hnames.insert _
  addEnum := by
    rintro r _ e e' ⟨names, hnames, rfl⟩ he
    rw [he trivial]
    exact ⟨names, hnames, rfl⟩
  addType := by
    rintro r _ t t' ⟨names, hnames, rfl⟩ ht
    rw [ht trivial]
    exact ⟨names, hnames, rfl⟩
  entries := by
    rintro r _ ⟨names, _, rfl⟩ _
    exact ⟨rfl, rfl⟩

/-- Any two walks from the same depth, whatever names they give. -/
def depths (hl : Lookups reach (fun _ _ => True) l l') : Coupling l l' where
  reach := reach
  exact := False
  registry r r' := r'.depth = r.depth ∧ r'.maxDepth = r.maxDepth
  fault _ _ := True
  lookups := hl
  fault_deep _ := trivial
  depth h := h
  atDepth _ h := ⟨rfl, h.2⟩
  claim h _ := ⟨False.elim, h⟩
  addEnum h _ := h
  addType h _ := h
  entries _ := False.elim

end Loaded.Lookups

/-! ## Success -/

namespace Walk

variable {α β : Type} {run run' : Run}

/-- The walk succeeds from a state. -/
def Succeeds (w : Walk α) (run : Run) : Prop := ∃ a after, Returns w run a after

theorem succeeds_bind {w : Walk α} {f : α → Walk β} :
    Succeeds (w >>= f) run ↔ ∃ a mid, Returns w run a mid ∧ Succeeds (f a) mid := by
  constructor
  · rintro ⟨b, after, h⟩
    obtain ⟨a, mid, hw, hf⟩ := Returns.bind h
    exact ⟨a, mid, hw, b, after, hf⟩
  · rintro ⟨a, mid, hw, b, after, hf⟩
    refine ⟨b, after, ?_⟩
    unfold Returns at hw ⊢
    rw [bind_eq, hw]
    exact hf

theorem succeeds_map {w : Walk α} {f : α → β} :
    Succeeds (w >>= fun a => pure (f a)) run ↔ Succeeds w run := by
  rw [succeeds_bind]
  constructor
  · rintro ⟨a, mid, hw, _⟩
    exact ⟨a, mid, hw⟩
  · rintro ⟨a, mid, hw⟩
    exact ⟨a, mid, hw, f a, mid, rfl⟩

end Walk

namespace Coupling.Walks

variable {l l' : Loaded} {c : Coupling l l'} {α β : Type} {V : α → α → Prop} {w w' : Walk α} {run run' : Run}

theorem succeeds_bind_iff {f f' : α → Walk β} (h : c.Walks V w w')
    (hr : c.registry run.registry run'.registry)
    (hf : ∀ a a' mid mid', V a a' → c.registry mid.registry mid'.registry →
      (Succeeds (f a) mid ↔ Succeeds (f' a') mid')) :
    Succeeds (w >>= f) run ↔ Succeeds (w' >>= f') run' := by
  have hends := h run run' hr
  rw [succeeds_bind, succeeds_bind]
  unfold Returns
  generalize w run = e at hends ⊢
  generalize w' run' = e' at hends ⊢
  cases hends with
  | error _ => exact ⟨nofun, nofun⟩
  | ok ha hmid =>
    have hiff := hf _ _ _ _ ha hmid
    constructor
    · rintro ⟨_, _, ⟨⟩, hsucceeds⟩
      exact ⟨_, _, rfl, hiff.mp hsucceeds⟩
    · rintro ⟨_, _, ⟨⟩, hsucceeds⟩
      exact ⟨_, _, rfl, hiff.mpr hsucceeds⟩

theorem succeeds_iff (h : c.Walks V w w') (hr : c.registry run.registry run'.registry) :
    Succeeds w run ↔ Succeeds w' run' := by
  have hends := h run run' hr
  unfold Succeeds Returns
  generalize w run = e at hends ⊢
  generalize w' run' = e' at hends ⊢
  cases hends with
  | ok _ _ => exact ⟨fun _ => ⟨_, _, rfl⟩, fun _ => ⟨_, _, rfl⟩⟩
  | error _ => exact ⟨nofun, nofun⟩

end Coupling.Walks

namespace Loaded

variable {l l' : Loaded} {reach : Reach} {sections : List String} {maxDepth : Nat}

/-- The walks of definitions do not get in each other's way: when each of them depends on the depth alone,
they succeed together if each one does. -/
theorem definitionTypes_succeeds {definitions : List (String × Schema)}
    (hdepth : ∀ entry ∈ definitions, ∀ run run' : Run, run'.registry.depth = run.registry.depth →
      run'.registry.maxDepth = run.registry.maxDepth →
      (Succeeds (l.properties entry.2 entry.1) run ↔ Succeeds (l.properties entry.2 entry.1) run')) (run : Run) :
    Succeeds (l.definitionTypes definitions) run ↔
      ∀ entry ∈ definitions, Succeeds (l.properties entry.2 entry.1) run := by
  induction definitions generalizing run with
  | nil => exact ⟨fun _ => List.forall_mem_nil _, fun _ => ⟨[], run, rfl⟩⟩
  | cons entry rest ih =>
    obtain ⟨hfirst, hrest⟩ := List.forall_mem_cons.mp hdepth
    have hothers : ∀ properties mid, Returns (l.properties entry.2 entry.1) run properties mid →
        (Succeeds (l.definitionTypes rest) mid ↔
          ∀ entry ∈ rest, Succeeds (l.properties entry.2 entry.1) run) := by
      intro properties mid hreturns
      obtain ⟨_, _, _, _, _, hdrawn⟩ := properties_draws hreturns
      rw [ih hrest mid]
      refine forall₂_congr fun entry hentry => (hrest entry hentry run mid ?_ ?_).symm
      · rw [hdrawn.registry]
        rfl
      · rw [hdrawn.registry]
        rfl
    rw [definitionTypes, succeeds_bind, List.forall_mem_cons]
    constructor
    · rintro ⟨properties, mid, hreturns, hsucceeds⟩
      exact ⟨⟨properties, mid, hreturns⟩, (hothers properties mid hreturns).mp (succeeds_map.mp hsucceeds)⟩
    · rintro ⟨⟨properties, mid, hreturns⟩, hall⟩
      exact ⟨properties, mid, hreturns, succeeds_map.mpr ((hothers properties mid hreturns).mpr hall)⟩

/-- The definitions of two documents are walked with the same success, in whatever order. -/
theorem definitionTypes_succeeds_iff (hl : Lookups reach (fun _ _ => True) l l')
    {definitions definitions' : List (String × Schema)} (hp : definitions'.Perm definitions)
    (hc : ∀ entry ∈ definitions, entry.2.RefsIn reach.schema) {run run' : Run}
    (hdepth : run'.registry.depth = run.registry.depth ∧ run'.registry.maxDepth = run.registry.maxDepth) :
    Succeeds (l.definitionTypes definitions) run ↔ Succeeds (l'.definitionTypes definitions') run' := by
  have hproperties : ∀ entry ∈ definitions, ∀ run run' : Run,
      run'.registry.depth = run.registry.depth ∧ run'.registry.maxDepth = run.registry.maxDepth →
      (Succeeds (l.properties entry.2 entry.1) run ↔ Succeeds (l'.properties entry.2 entry.1) run') :=
    fun entry hentry run run' hdepth =>
      (Coupling.properties_walks (c := hl.depths) (hc entry hentry) entry.1).succeeds_iff hdepth
  rw [definitionTypes_succeeds, definitionTypes_succeeds]
  · constructor
    · intro h entry hentry
      have hmem := hp.mem_iff.mp hentry
      exact (hproperties entry hmem run run' hdepth).mp (h entry hmem)
    · intro h entry hentry
      exact (hproperties entry hentry run run' hdepth).mpr (h entry (hp.mem_iff.mpr hentry))
  · intro entry hentry first second hd hm
    have hmem := hp.mem_iff.mp hentry
    exact (hproperties entry hmem second first ⟨hd.symm, hm.symm⟩).symm.trans
      (hproperties entry hmem second second ⟨rfl, rfl⟩)
  · intro entry hentry first second hd hm
    exact (hproperties entry hentry first first ⟨rfl, rfl⟩).trans
      (hproperties entry hentry second first ⟨hd.symm, hm.symm⟩).symm

theorem objectDefinitions_perm {d d' : Document} (h : d.Reordered sections d') :
    d'.objectDefinitions.Perm d.objectDefinitions := h.definitions.perm.filter _

theorem startRegistry_names (hl : Lookups reach (fun _ _ => True) l l')
    (hd : l.document.Reordered sections l'.document) (maxDepth : Nat) :
    hl.names.registry (l.startRegistry maxDepth) (l'.startRegistry maxDepth) := by
  rw [startRegistry_eq, startRegistry_eq]
  exact ⟨_, Registry.take_perm (.refl []) ((objectDefinitions_perm hd).map _), rfl⟩

theorem parts_succeeds_iff (hl : Lookups reach (fun _ _ => True) l l') (hc : l.document.Confined reach)
    (hd : l.document.Reordered sections l'.document) (run run' : Run)
    (hr : hl.names.registry run.registry run'.registry) : Succeeds l.parts run ↔ Succeeds l'.parts run' := by
  refine (Coupling.interfaces_walks hc hd.paths).succeeds_bind_iff hr fun _ _ mid mid' _ hmid => ?_
  rw [succeeds_map, succeeds_map]
  refine definitionTypes_succeeds_iff hl (objectDefinitions_perm hd) ?_ (hl.names.depth hmid)
  exact fun entry hentry => hc.definitions entry (List.mem_filter.mp hentry).1

theorem describe_succeeds : (∃ service, l.describe maxDepth = .ok service) ↔
    (∃ major, l.majorVersion = .ok major) ∧ Succeeds l.parts { registry := l.startRegistry maxDepth } := by
  rw [describe_eq]
  cases l.majorVersion with
  | error fault => exact ⟨nofun, nofun⟩
  | ok major =>
    unfold Succeeds Returns
    dsimp only [bind, Except.bind]
    rcases l.parts { registry := l.startRegistry maxDepth } with ⟨fault | parts, run⟩
    · exact ⟨nofun, nofun⟩
    · exact ⟨fun _ => ⟨⟨major, rfl⟩, parts, run, rfl⟩, fun _ => ⟨_, rfl⟩⟩

/-! ## Services -/

/-- Two documents are described with the same success and the same interfaces, and as the same service if
that is asked for. -/
structure AnswersAlike (l l' : Loaded) (wholly : Prop) (maxDepth : Nat) : Prop where
  succeeds : (∃ service, l'.describe maxDepth = .ok service) ↔ ∃ service, l.describe maxDepth = .ok service
  interfaces : ∀ service service', l.describe maxDepth = .ok service → l'.describe maxDepth = .ok service' →
    service'.interfaces = service.interfaces
  service : wholly → ∀ service service', l.describe maxDepth = .ok service →
    l'.describe maxDepth = .ok service' → service' = service

theorem answers_of_reordered (hl : Lookups reach (fun _ _ => True) l l') (hc : l.document.Confined reach)
    (hd : l.document.Reordered sections l'.document) (maxDepth : Nat) :
    l.AnswersAlike l' ("definitions" ∉ sections) maxDepth := by
  have hstart := startRegistry_names hl hd maxDepth
  constructor
  case succeeds =>
    have hmajor : l'.majorVersion = l.majorVersion := by rw [majorVersion, majorVersion, hd.info]
    rw [describe_succeeds, describe_succeeds, hmajor,
      parts_succeeds_iff hl hc hd { registry := l.startRegistry maxDepth }
        { registry := l'.startRegistry maxDepth } hstart]
  case interfaces =>
    intro service service' h h'
    obtain ⟨_, _, _, _, _, hinterfaces, _, rfl⟩ := describe_returns h
    obtain ⟨_, _, _, _, _, hinterfaces', _, rfl⟩ := describe_returns h'
    have hends := Coupling.interfaces_walks (c := hl.names) hc hd.paths
      { registry := l.startRegistry maxDepth } { registry := l'.startRegistry maxDepth } hstart
    rw [hinterfaces, hinterfaces'] at hends
    cases hends with
    | ok hsame _ => exact hsame trivial
  case service =>
    intro hfixed service service' h h'
    have hobjects : l'.document.objectDefinitions = l.document.objectDefinitions :=
      congrArg (List.filter _) (hd.definitions.eq hfixed)
    have halike := hl.names.describe_alike trivial hc hd.paths hobjects hd.info hstart
    rw [h, h'] at halike
    cases halike with
    | ok hsame => exact hsame.symm

theorem ofJson_shuffled {raw raw' : Json} (hs : sections ⊆ Document.sections) (hraw : raw.Shuffled sections raw')
    (h : ofJson raw = .ok l) :
    ∃ d', ofJson raw' = .ok ⟨d', raw'⟩ ∧ l.document.Reordered sections d' := by
  obtain ⟨d', hd', hreordered⟩ := Document.decode_reordered hs hraw (ofJson_decode h).1
  refine ⟨d', ?_, hreordered⟩
  unfold ofJson at h ⊢
  rw [hraw.field?_eq hs (by decide), hraw.field?_eq hs (by decide), hd']
  split at h
  · cases h
  · next hversion => rw [if_neg hversion]

end Loaded

/-- A document whose sections are put into another order is described as before, except that the types of
its definitions and their parts come in another order, and under other names, if the definitions do. -/
theorem describe_of_shuffled {sections : List String} {raw raw' : Json} {l : Loaded}
    (hs : sections ⊆ Document.sections) (hraw : raw.Shuffled sections raw') (h : Loaded.ofJson raw = .ok l) :
    ∃ l', Loaded.ofJson raw' = .ok l' ∧
      ∀ maxDepth, l.AnswersAlike l' ("definitions" ∉ sections) maxDepth := by
  obtain ⟨d', h', hd⟩ := Loaded.ofJson_shuffled hs hraw h
  obtain ⟨hfaithful, rfl⟩ := Loaded.ofJson_faithful h
  have hreads := hraw.readsAlike hs (Loaded.ofJson_decode h).1
  have hlookups : Loaded.Lookups (.every l.raw.Cites) (fun _ _ => True) l ⟨d', raw'⟩ :=
    Loaded.lookups_of_reordered hfaithful (Loaded.ofJson_distinct h) hd (hraw.at?_alike hreads)
  exact ⟨_, h', Loaded.answers_of_reordered hlookups hfaithful.refs.confined hd⟩

/-- A document with its definitions in some order, and its shared parameters and responses in some order. Two
definitions hold what would be called the same, and a response refers to the section of definitions as a
whole. -/
def Json.harbor (definitions shared : List (String × Json) → List (String × Json)) : Json :=
  let ref (target : String) : Json := .object [("$ref", .string target)]
  let object (properties : List (String × Json)) : Json :=
    .object [("type", .string "object"), ("properties", .object properties)]
  let parameter (name type : String) : Json :=
    .object [("name", .string name), ("in", .string "query"), ("type", .string type)]
  .object [
    ("info", .object [("title", .string "harbor"), ("version", .string "1.0.0")]),
    ("paths", .object [("/ships", .object [("get", .object [
      ("operationId", .string "list"),
      ("parameters", .list [ref "#/parameters/after", ref "#/parameters/limit"]),
      ("responses", .object [("200", ref "#/responses/ships")])])])]),
    ("definitions", .object (definitions [
      ("Ship", object [("cargo", object [])]),
      ("ship", object [("cargo", object [])])])),
    ("parameters", .object (shared [
      ("after", parameter "after" "string"),
      ("limit", parameter "limit" "integer")])),
    ("responses", .object (shared [
      ("gone", .object []),
      ("ships", .object [("schema",
        object [("first", ref "#/definitions/Ship"), ("all", ref "#/definitions")])])]))]

theorem Json.harbor_shuffled {sections : List String}
    {definitions : List (String × Json) → List (String × Json)} (hparameters : "parameters" ∈ sections)
    (hresponses : "responses" ∈ sections)
    (hdefinitions : definitions = id ∨ "definitions" ∈ sections ∧ definitions = List.reverse) :
    (harbor id id).Shuffled sections (harbor definitions List.reverse) := by
  have hreversed : ∀ {key : String} {fields : List (String × Json)}, key ∈ sections →
      (fields.map (·.1)).Nodup → Kept (key ∈ sections) (.object fields) (.object fields.reverse) :=
    fun hkey hd => .inr ⟨hkey, .object (List.reverse_perm _) hd⟩
  refine .object (.cons ⟨rfl, .inl rfl⟩ (.cons ⟨rfl, .inl rfl⟩ (.cons ⟨rfl, ?_⟩ ?_)))
  · rcases hdefinitions with rfl | ⟨hallowed, rfl⟩
    · exact .inl rfl
    · exact hreversed hallowed (by decide)
  · exact .cons ⟨rfl, hreversed hparameters (by decide)⟩
      (.cons ⟨rfl, hreversed hresponses (by decide)⟩ .nil)

/-- The names of the types of what a type holds. -/
def Service.partNames (service : Service) (name : String) : Option (List String) :=
  (service.findType? name).map fun t => t.properties.map (·.type.typeName)

-- Whichever definition comes first gets the name that both of them ask for, so the services differ. If only
-- parameters and responses come in another order, they do not.
theorem harbor_describe_of_shuffled : Document.sections ⊆ Document.sections ∧
    (Json.harbor id id).Shuffled Document.sections (Json.harbor List.reverse List.reverse) ∧
    ["parameters", "responses"] ⊆ Document.sections ∧
    (Json.harbor id id).Shuffled ["parameters", "responses"] (Json.harbor id List.reverse) ∧
    Json.harbor id List.reverse ≠ Json.harbor id id ∧
    ∃ l l' l'' service service', Loaded.ofJson (Json.harbor id id) = .ok l ∧
      Loaded.ofJson (Json.harbor List.reverse List.reverse) = .ok l' ∧
      Loaded.ofJson (Json.harbor id List.reverse) = .ok l'' ∧
      l.describe defaultMaxDepth = .ok service ∧ l'.describe defaultMaxDepth = .ok service' ∧
      l''.describe defaultMaxDepth = .ok service ∧
      service.partNames "Ship" = some ["shipCargo"] ∧ service'.partNames "Ship" = some ["shipCargo2"] ∧
      (∀ maxDepth, l.AnswersAlike l' ("definitions" ∉ Document.sections) maxDepth) ∧
      ∀ maxDepth, l.AnswersAlike l'' ("definitions" ∉ ["parameters", "responses"]) maxDepth := by
  have hs : Document.sections ⊆ Document.sections := List.Subset.refl _
  have hshared : ["parameters", "responses"] ⊆ Document.sections := by decide
  have hwhole : (Json.harbor id id).Shuffled Document.sections (Json.harbor List.reverse List.reverse) :=
    Json.harbor_shuffled (by decide) (by decide) (.inr ⟨by decide, rfl⟩)
  have hpartly : (Json.harbor id id).Shuffled ["parameters", "responses"] (Json.harbor id List.reverse) :=
    Json.harbor_shuffled (by decide) (by decide) (.inl rfl)
  have hmoved : Json.harbor id List.reverse ≠ Json.harbor id id := by simp [Json.harbor]
  obtain ⟨l, service, hl, h, hnames⟩ := Loaded.exists_described (Json.harbor id id) defaultMaxDepth
    (fun _ service => service.partNames "Ship") (some ["shipCargo"]) (by decide +kernel)
  obtain ⟨l', service', hl', h', hnames'⟩ := Loaded.exists_described
    (Json.harbor List.reverse List.reverse) defaultMaxDepth
    (fun _ service => service.partNames "Ship") (some ["shipCargo2"]) (by decide +kernel)
  obtain ⟨m, hm, hanswers⟩ := describe_of_shuffled hs hwhole hl
  rw [hl'] at hm
  cases hm
  obtain ⟨l'', hl'', hsame⟩ := describe_of_shuffled hshared hpartly hl
  obtain ⟨service'', h''⟩ := (hsame defaultMaxDepth).succeeds.mpr ⟨service, h⟩
  obtain rfl := (hsame defaultMaxDepth).service (by decide) service service'' h h''
  exact ⟨hs, hwhole, hshared, hpartly, hmoved, l, l', l'', service'', service', hl, hl', hl'', h, h', h'',
    hnames, hnames', hanswers, hsame⟩

end SwaggerService
