import SwaggerService.Proofs.Decimals
import SwaggerService.Proofs.TypedLookup

/-! # Addresses

Every place inside a value has an address: the steps that lead to it, written one behind the other. A key
may hold any characters; those that mean something in an address are replaced there, and put back when a
step is read. So whatever stands in a document can be referred to. -/

namespace SwaggerService

/-! ## Replacements

A step is written by two replacements of characters and read by two replacements of pairs, the later ones
on what the earlier ones left. Done in one go, these are `escape` and `unescape`. -/

namespace Pointer

/-- Puts a text in the place of each occurrence of a character. -/
def replaceChar (old : Char) (new : List Char) (cs : List Char) : List Char :=
  cs.flatMap fun c => if c = old then new else [c]

/-- Puts a character in the place of each occurrence of a pair of them, from left to right. -/
def replacePair (first second new : Char) : List Char → List Char
  | c :: d :: rest =>
    if c = first ∧ d = second then new :: replacePair first second new rest
    else c :: replacePair first second new (d :: rest)
  | cs => cs

theorem escape_eq_replace (cs : List Char) :
    escape cs = replaceChar '/' ['~', '1'] (replaceChar '~' ['~', '0'] cs) := by
  induction cs with
  | nil => rfl
  | cons c rest ih =>
    rw [escape, ih]
    by_cases htilde : c = '~'
    · simp [replaceChar, htilde]
    · by_cases hslash : c = '/'
      · simp [replaceChar, hslash]
      · simp [replaceChar, htilde, hslash]

theorem replacePair_pair (first second new : Char) (rest : List Char) :
    replacePair first second new (first :: second :: rest) =
      new :: replacePair first second new rest := by
  rw [replacePair, if_pos ⟨rfl, rfl⟩]

/-- A character that begins no pair stays. -/
theorem replacePair_cons {first second new c : Char} {cs : List Char}
    (h : c = first → cs.head? ≠ some second) :
    replacePair first second new (c :: cs) = c :: replacePair first second new cs := by
  cases cs with
  | nil => rfl
  | cons d rest =>
    have hpair : ¬ (c = first ∧ d = second) := fun ⟨hc, hd⟩ => h hc (congrArg some hd)
    rw [replacePair, if_neg hpair]

theorem head?_of_replacePair {first second new c : Char} {cs : List Char} (hc : c ≠ new)
    (h : (replacePair first second new cs).head? = some c) : cs.head? = some c := by
  unfold replacePair at h
  split at h
  · split at h
    · cases h
      exact absurd rfl hc
    · exact h
  · exact h

/-- What the first replacement puts in never completes a pair for the second one. -/
theorem unescape_eq_replace (cs : List Char) :
    unescape cs = replacePair '~' '0' '~' (replacePair '~' '1' '/' cs) := by
  fun_induction unescape cs with
  | case1 rest ih =>
    have hkept : '/' = '~' → (replacePair '~' '1' '/' rest).head? ≠ some '0' := fun h => absurd h (by decide)
    rw [replacePair_pair, replacePair_cons hkept, ih]
  | case2 rest ih =>
    have hmark : '~' = '~' → ('0' :: rest).head? ≠ some '1' := fun _ h => absurd h (by simp)
    have hzero : '0' = '~' → rest.head? ≠ some '1' := fun h => absurd h (by decide)
    rw [replacePair_cons hmark, replacePair_cons hzero, replacePair_pair, ih]
  | case3 c rest hslash htilde ih =>
    have hfirst : c = '~' → rest.head? ≠ some '1' := by
      rintro rfl hhead
      obtain ⟨others, rfl⟩ := List.head?_eq_some_iff.mp hhead
      exact hslash others rfl rfl
    have hsecond : c = '~' → (replacePair '~' '1' '/' rest).head? ≠ some '0' := by
      rintro rfl hhead
      obtain ⟨others, rfl⟩ := List.head?_eq_some_iff.mp (head?_of_replacePair (by decide) hhead)
      exact htilde others rfl rfl
    rw [replacePair_cons hfirst, replacePair_cons hsecond, ih]
  | case4 => rfl

example : unescape "~01~1~~10~".toList = "~1/~/0~".toList := by decide

/-! ## Written steps -/

/-- The written form of a name. -/
def escaped (name : String) : String :=
  String.ofList (replaceChar '/' ['~', '1'] (replaceChar '~' ['~', '0'] name.toList))

theorem escaped_toList (name : String) : (escaped name).toList = escape name.toList := by
  rw [escaped, String.toList_ofList, escape_eq_replace]

theorem escape_eq_self {cs : List Char} (h : ∀ c ∈ cs, c ≠ '~' ∧ c ≠ '/') : escape cs = cs := by
  induction cs with
  | nil => rfl
  | cons c rest ih =>
    obtain ⟨hc, hrest⟩ := List.forall_mem_cons.mp h
    rw [escape, if_neg hc.1, if_neg hc.2, ih hrest]

theorem write_toList (steps : List String) :
    (write steps).toList = '#' :: steps.flatMap fun step => '/' :: escape step.toList := by
  have hsteps : ∀ (first : List Char) (rest : List (List Char)),
      ['/'].intercalate (first :: rest) = first ++ rest.flatMap fun step => '/' :: step := by
    intro first rest
    induction rest generalizing first with
    | nil => simp
    | cons next others ih => rw [List.intercalate_cons_cons, ih, List.flatMap_cons]; simp
  rw [write, String.toList_ofList, hsteps, List.nil_append, List.flatMap_map]

/-- The reference to an entry of a section. -/
theorem write_section (key name : String) (h : ∀ c ∈ key.toList, c ≠ '~' ∧ c ≠ '/') :
    write [key, name] = "#/" ++ key ++ "/" ++ escaped name := by
  refine String.toList_inj.mp ?_
  rw [write_toList]
  simp [escape_eq_self h, escaped_toList]

end Pointer

/-! ## Paths -/

namespace Json

/-- A step into a value: to what an object has under a key, or to what a list has at an index. No list is so
long that an index needs more than a word. -/
inductive Step where
  | key (name : String)
  | index (place : UInt64)
  deriving DecidableEq, Repr

namespace Step

/-- The text of a step, before it is written. -/
def text : Step → String
  | .key name => name
  | .index place => toString place.toNat

/-- How a step is written: an index in decimal form, and a key with its special characters replaced. -/
def written : Step → String
  | .key name => Pointer.escaped name
  | .index place => toString place.toNat

theorem written_toList (step : Step) : step.written.toList = Pointer.escape step.text.toList := by
  cases step with
  | key name => exact Pointer.escaped_toList name
  | index place =>
    refine (Pointer.escape_eq_self fun c hc => ?_).symm
    have hdigit := isDigit_of_mem_toString hc
    refine ⟨?_, ?_⟩
    · rintro rfl
      exact absurd hdigit (by decide)
    · rintro rfl
      exact absurd hdigit (by decide)

end Step

/-- A path leads from a value to one inside it. -/
inductive Leads : Json → List Step → Json → Prop
  | here {v : Json} : Leads v [] v
  | key {fields : List (String × Json)} {name : String} {u v : Json} {path : List Step}
      (hentry : Entries.get? name fields = some u) (h : Leads u path v) :
      Leads (.object fields) (.key name :: path) v
  | index {items : List Json} {place : UInt64} {u v : Json} {path : List Step}
      (hitem : items[place.toNat]? = some u) (h : Leads u path v) :
      Leads (.list items) (.index place :: path) v

theorem Leads.at? {v w : Json} {path : List Step} (h : v.Leads path w) :
    v.at? (path.map Step.text) = some w := by
  induction h with
  | here => rfl
  | key hentry _ ih =>
    rw [List.map_cons, Json.at?, Step.text, child?, hentry]
    exact ih
  | @index items place u v path hitem _ ih =>
    rw [List.map_cons, Json.at?, Step.text, child?, readNatural?_toString place.toNat_lt_size,
      Option.bind_some, hitem]
    exact ih

/-- The address of the place that a path leads to. -/
def address (path : List Step) : String := "#" ++ String.join (path.map fun step => "/" ++ step.written)

theorem address_eq_write (path : List Step) : address path = Pointer.write (path.map Step.text) := by
  refine String.toList_inj.mp ?_
  rw [address, Pointer.write_toList, String.toList_append, String.toList_join, List.flatMap_map, List.flatMap_map]
  refine congrArg ('#' :: ·) (congrArg (path.flatMap ·) (funext fun step => ?_))
  rw [String.toList_append, Step.written_toList]
  rfl

end Json

theorem Loaded.rawAt_address {l : Loaded} {path : List Json.Step} {v : Json} (h : l.raw.Leads path v) :
    l.rawAt (Json.address path) = .ok v := by
  rw [Json.address_eq_write, rawAt, Pointer.steps?_write]
  dsimp only
  rw [h.at?]

/-- Where a path leads in a document, its address leads as well; and the address of an entry of a section is
read as a pointer to that entry. -/
theorem addresses_lead (l : Loaded) :
    (∀ path v, l.raw.Leads path v → l.rawAt (Json.address path) = .ok v) ∧
    ∀ name, Pointer.parse? ("#/definitions/" ++ Pointer.escaped name) = some (.definition name) ∧
      Pointer.parse? ("#/parameters/" ++ Pointer.escaped name) = some (.parameter name) ∧
      Pointer.parse? ("#/responses/" ++ Pointer.escaped name) = some (.response name) := by
  refine ⟨fun path v h => Loaded.rawAt_address h, fun name => ?_⟩
  have hdefinition := Pointer.write_section "definitions" name (by simp)
  have hparameter := Pointer.write_section "parameters" name (by simp)
  have hresponse := Pointer.write_section "responses" name (by simp)
  refine ⟨?_, ?_, ?_⟩
  · exact hdefinition ▸ Pointer.parse?_definition name
  · exact hparameter ▸ Pointer.parse?_parameter name
  · exact hresponse ▸ Pointer.parse?_response name

/-- A document with keys that would end a step or look like an escape if they were written as they are. -/
def Json.attic : Json :=
  .object [
    ("info", .object [("title", .string "attic"), ("version", .string "1.0.0")]),
    ("x/y~", .list [.null, .object [("", .bool true), ("~01", .object [("#", .string "found")])]])]

theorem attic_addresses_lead :
    Json.attic.Leads [.key "x/y~", .index 1, .key "~01", .key "#"] (.string "found") ∧
    ∃ l, Loaded.ofJson Json.attic = .ok l ∧ l.rawAt "#/x~1y~0/1/~001/#" = .ok (.string "found") ∧
      Pointer.parse? "#/definitions/x~1y~0" = some (.definition "x/y~") := by
  have hleads : Json.attic.Leads [.key "x/y~", .index 1, .key "~01", .key "#"] (.string "found") :=
    .key rfl (.index rfl (.key rfl (.key rfl .here)))
  have haddress : Json.address [.key "x/y~", .index 1, .key "~01", .key "#"] = "#/x~1y~0/1/~001/#" := by
    decide +kernel
  have hname : "#/definitions/" ++ Pointer.escaped "x/y~" = "#/definitions/x~1y~0" := by decide +kernel
  obtain ⟨l, _, hl, _, _⟩ := Loaded.exists_described Json.attic defaultMaxDepth (fun _ _ => ()) ()
    (by decide +kernel)
  obtain ⟨hlead, hparse⟩ := addresses_lead l
  refine ⟨hleads, l, hl, ?_, ?_⟩
  · rw [← haddress]
    exact hlead _ _ ((Loaded.ofJson_decode hl).2 ▸ hleads)
  · rw [← hname]
    exact (hparse "x/y~").1

end SwaggerService
