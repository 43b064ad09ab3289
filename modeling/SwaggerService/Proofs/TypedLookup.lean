import SwaggerService.Proofs.Culprits
import SwaggerService.Proofs.DistinctKeys

/-! # Typed lookup

A document is kept twice: its sections as they were read, and the value that they were read from. For a
reference to an entry of a section it does not matter which of the two is asked. What a section has under a
name is what the written document has there, read; and a name that the section lacks leads nowhere in
either. -/

namespace SwaggerService
open Decode

/-! ## Written references -/

namespace Pointer

theorem unescape_escape (cs : List Char) : unescape (escape cs) = cs := by
  induction cs with
  | nil => rfl
  | cons c rest ih =>
    rw [escape]
    split
    · next htilde => rw [unescape, ih, htilde]
    · split
      · next _ hslash => rw [unescape, ih, hslash]
      · next htilde _ => simp [unescape, htilde, ih]

theorem slash_notMem_escape (cs : List Char) : '/' ∉ escape cs := by
  induction cs with
  | nil => exact List.not_mem_nil
  | cons c rest ih =>
    rw [escape]
    split
    · simp [ih]
    · split
      · simp [ih]
      · next _ hslash => simp [ih, Ne.symm hslash]

/-- The reference along a path of steps. -/
def write (steps : List String) : String :=
  String.ofList ('#' :: ['/'].intercalate ([] :: steps.map fun step => escape step.toList))

theorem steps?_write (steps : List String) : steps? (write steps) = some steps := by
  have hsplit : (['/'].intercalate ([] :: steps.map fun step => escape step.toList)).splitOn '/' =
      [] :: steps.map fun step => escape step.toList := by
    refine List.splitOn_intercalate _ ?_ (List.cons_ne_nil _ _)
    refine List.forall_mem_cons.mpr ⟨List.not_mem_nil, ?_⟩
    exact List.forall_mem_map.mpr fun step _ => slash_notMem_escape step.toList
  simp only [steps?, write, String.toList_ofList, hsplit, List.drop_succ_cons, List.drop_zero, List.map_map]
  refine congrArg some (List.map_id'' (fun step => ?_) steps)
  simp [unescape_escape]

theorem parse?_definition (name : String) :
    parse? (write ["definitions", name]) = some (.definition name) := by
  rw [parse?, steps?_write]
  rfl

theorem parse?_parameter (name : String) :
    parse? (write ["parameters", name]) = some (.parameter name) := by
  rw [parse?, steps?_write]
  rfl

theorem parse?_response (name : String) :
    parse? (write ["responses", name]) = some (.response name) := by
  rw [parse?, steps?_write]
  rfl

example : write ["definitions", "a/b~c"] = "#/definitions/a~1b~0c" := by decide

end Pointer

/-! ## Entries of sections -/

/-- The entries of a section were read one by one from what the written document has under a key. -/
def Document.EntriesOf {α : Type} (decode : Decoder α) (raw : Json) (key : String)
    (entries : List (String × α)) : Prop :=
  ∀ name, ReadsFound decode (raw.at? [key, name]) (Entries.get? name entries)

theorem Document.entriesOf_read {α : Type} {decode : Decoder α} {fields : List (String × Json)}
    {key : String} {entries : List (String × α)} (hd : (Json.object fields).Distinct)
    (h : Fields.ReadAs (map decode) (some []) (Entries.get? key fields) entries) :
    EntriesOf decode (.object fields) key entries := by
  intro name
  have hat : (Json.object fields).at? [key, name] =
      (Entries.get? key fields).bind fun v => (v.child? name).bind some := rfl
  rw [hat]
  cases hv : Entries.get? key fields with
  | none =>
    rw [hv] at h
    cases h
    rfl
  | some v =>
    rw [hv] at h
    cases v with
    | object written =>
      have hwritten : (Json.object written).Distinct :=
        (Json.distinct_object.mp hd).2 _ (Entries.mem_of_get? hv)
      have hreads := (map_eq_ok (Json.distinct_object.mp hwritten).1).mp h
      simpa only [Json.child?, Option.bind_some, Option.bind_fun_some] using get?_of_reads hreads name
    | null | bool | number | string | list => cases h

/-- An entry of a section is what the written document has there, read. -/
theorem Loaded.entry_eq_partAt {α : Type} {l : Loaded} {decode : Decoder α} {key name reference : String}
    {entries : List (String × α)} (hsteps : Pointer.steps? reference = some [key, name])
    (h : Document.EntriesOf decode l.raw key entries) :
    entry entries reference name = l.partAt decode reference := by
  have hname := h name
  rw [entry, partAt, rawAt, hsteps]
  dsimp only
  cases hv : l.raw.at? [key, name] with
  | none =>
    rw [hv] at hname
    rw [hname]
    rfl
  | some v =>
    rw [hv] at hname
    obtain ⟨a, hread, hget⟩ := hname
    rw [hget]
    simp only [bind, Except.bind, hread]
    rfl

/-! ## The two copies of a document -/

/-- For references to one name the typed sections and the written document give the same: what is written
there, read, or the fault that nothing is. -/
structure Loaded.LookupsAgree (l : Loaded) (name : String) : Prop where
  definition : l.schemaAt (Pointer.write ["definitions", name]) =
    l.partAt Schema.decode (Pointer.write ["definitions", name])
  /-- In the written document a further reference would be followed, unlike in the typed one. -/
  landing : (∀ v, l.raw.at? ["definitions", name] = some v → (v.field? "$ref").bind Json.string? = none) →
    l.land (Pointer.write ["definitions", name]) =
      (l.rawAt (Pointer.write ["definitions", name])).map
        (Loaded.landRaw (Pointer.write ["definitions", name]))
  missing : l.raw.at? ["definitions", name] = none →
    l.schemaAt (Pointer.write ["definitions", name]) =
      .error (.unresolvedReference (Pointer.write ["definitions", name]))
  parameter : l.parameter (.ref (Pointer.write ["parameters", name])) =
    l.partAt Parameter.decode (Pointer.write ["parameters", name])
  response : l.response (.ref (Pointer.write ["responses", name])) =
    l.partAt Response.decode (Pointer.write ["responses", name])

theorem Document.entriesOf_sections {fields : List (String × Json)} {d : Document}
    (hd : (Json.object fields).Distinct) (h : d.SectionsOf (.object fields)) :
    EntriesOf Schema.decode (.object fields) "definitions" d.definitions ∧
      EntriesOf Parameter.decode (.object fields) "parameters" d.parameters ∧
      EntriesOf Response.decode (.object fields) "responses" d.responses :=
  ⟨entriesOf_read hd h.definitions, entriesOf_read hd h.parameters, entriesOf_read hd h.responses⟩

/-- A definition is read when the document is loaded, so following the written one cannot fail there. -/
theorem Loaded.land_definition {l : Loaded} {reference name : String}
    (hparse : Pointer.parse? reference = some (.definition name))
    (h : Document.EntriesOf Schema.decode l.raw "definitions" l.document.definitions)
    (hplain : ∀ v, l.raw.at? ["definitions", name] = some v → (v.field? "$ref").bind Json.string? = none) :
    l.land reference = (l.rawAt reference).map (landRaw reference) := by
  have hpointer : pointer reference = .ok (.definition name) := by rw [pointer, hparse]
  have hsteps : Pointer.steps? reference = some ["definitions", name] := Pointer.steps?_of_parse hparse
  have hname := h name
  rw [land, hpointer, rawAt, hsteps]
  simp only [bind, Except.bind, entry]
  cases hv : l.raw.at? ["definitions", name] with
  | none =>
    rw [hv] at hname
    have hnone : Entries.get? name l.document.definitions = none := hname
    rw [hnone]
    rfl
  | some v =>
    rw [hv] at hname
    obtain ⟨s, hread, hget⟩ := hname
    simp only [hget, Except.map, landRaw, hplain v hv, hread]
    rfl

/-- Whichever copy of a document is asked for an entry of a section, the answer is the same. -/
theorem lookups_agree {fields : List (String × Json)} {l : Loaded} (hd : (Json.object fields).Distinct)
    (h : Loaded.ofJson (.object fields) = .ok l) (name : String) : l.LookupsAgree name := by
  obtain ⟨hdecode, hraw⟩ := Loaded.ofJson_decode h
  obtain ⟨hdefinitions, hparameters, hresponses⟩ :=
    Document.entriesOf_sections hd (Document.decode_sections hdecode)
  rw [← hraw] at hdefinitions hparameters hresponses
  have hsteps : ∀ key, Pointer.steps? (Pointer.write [key, name]) = some [key, name] :=
    fun key => Pointer.steps?_write [key, name]
  have hdefinition := Pointer.parse?_definition name
  constructor
  case definition =>
    rw [Loaded.schemaAt_definition hdefinition]
    exact Loaded.entry_eq_partAt (hsteps _) hdefinitions
  case landing => exact Loaded.land_definition hdefinition hdefinitions
  case missing =>
    intro hmissing
    have hname := hdefinitions name
    rw [hmissing] at hname
    rw [Loaded.schemaAt_definition hdefinition, Loaded.entry, hname]
  case parameter =>
    have hpointer : Loaded.pointer (Pointer.write ["parameters", name]) = .ok (.parameter name) := by
      rw [Loaded.pointer, Pointer.parse?_parameter]
    rw [Loaded.parameter, hpointer]
    exact Loaded.entry_eq_partAt (hsteps _) hparameters
  case response =>
    have hpointer : Loaded.pointer (Pointer.write ["responses", name]) = .ok (.response name) := by
      rw [Loaded.pointer, Pointer.parse?_response]
    rw [Loaded.response, hpointer]
    exact Loaded.entry_eq_partAt (hsteps _) hresponses

/-- The sections of a document whose names have to be escaped, with a definition that is written as a
reference. -/
def Json.depot : List (String × Json) :=
  [("info", .object [("title", .string "depot"), ("version", .string "1.0.0")]),
    ("definitions", .object [
      ("rack/a~b", .object [("type", .string "string"), ("maxLength", .int 8)]),
      ("shelf", .object [("$ref", .string "#/definitions/rack~1a~0b")])]),
    ("parameters", .object [
      ("page/size", .object [("name", .string "size"), ("in", .string "query"), ("type", .string "integer")])]),
    ("responses", .object [("not~found", .object [("description", .string "no such shelf")])])]

theorem Json.depot_distinct : (object depot).Distinct := by
  simp [depot, int, Distinct, DistinctFields]

-- The definition `shelf` is read as a schema that says nothing, not as the one that it refers to.
theorem depot_lookups_agree : (Json.object Json.depot).Distinct ∧
    ∃ l, Loaded.ofJson (.object Json.depot) = .ok l ∧
      ["#/definitions/rack~1a~0b", "#/definitions/shelf", "#/definitions/rack"].map
        (fun reference => (l.schemaAt reference).toOption.map Schema.maxLength) =
          [some (some 8), some none, none] ∧
      ∀ name, l.LookupsAgree name := by
  obtain ⟨l, _, hl, _, hlengths⟩ := Loaded.exists_described (.object Json.depot) defaultMaxDepth
    (fun l _ => ["#/definitions/rack~1a~0b", "#/definitions/shelf", "#/definitions/rack"].map
      fun reference => (l.schemaAt reference).toOption.map Schema.maxLength)
    [some (some 8), some none, none] (by decide +kernel)
  exact ⟨Json.depot_distinct, l, hl, hlengths, lookups_agree Json.depot_distinct hl⟩

end SwaggerService
