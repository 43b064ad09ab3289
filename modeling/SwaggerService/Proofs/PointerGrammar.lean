import SwaggerService.Proofs.Addresses

/-! # The grammar of pointers

Which references are read as pointers to entries of sections. A written reference has the section and the
name behind its `#`, each behind a `/`. Reading accepts a little more: a text that stands between the `#`
and the first `/` is skipped. -/

namespace SwaggerService

/-! ## Pieces of a text -/

theorem notMem_of_mem_splitOn {sep : Char} {cs piece : List Char} (h : piece ∈ cs.splitOn sep) :
    sep ∉ piece := by
  induction cs generalizing piece with
  | nil =>
    rw [List.splitOn_nil, List.mem_singleton] at h
    exact h ▸ List.not_mem_nil
  | cons c rest ih =>
    rw [List.splitOn_cons_eq_if_modifyHead] at h
    split at h
    · rcases List.mem_cons.mp h with rfl | h
      · exact List.not_mem_nil
      · exact ih h
    · next hc =>
      obtain ⟨first, others, hsplit⟩ := List.exists_cons_of_ne_nil (List.splitOn_ne_nil sep rest)
      rw [hsplit, List.modifyHead_cons] at h
      rcases List.mem_cons.mp h with rfl | h
      · have hfirst : sep ∉ first := ih (hsplit ▸ List.mem_cons_self)
        have hne : sep ≠ c := by rintro rfl; exact hc (beq_self_eq_true _)
        exact List.not_mem_cons_of_ne_of_not_mem hne hfirst
      · exact ih (hsplit ▸ List.mem_cons_of_mem _ h)

/-- The pieces of a text are the texts without separators that it is put together from. -/
theorem splitOn_eq_iff {sep : Char} {cs : List Char} {pieces : List (List Char)} (hsome : pieces ≠ []) :
    cs.splitOn sep = pieces ↔ (∀ piece ∈ pieces, sep ∉ piece) ∧ [sep].intercalate pieces = cs := by
  constructor
  · rintro rfl
    exact ⟨fun piece => notMem_of_mem_splitOn, List.intercalate_splitOn sep⟩
  · rintro ⟨hpieces, rfl⟩
    exact List.splitOn_intercalate sep hpieces hsome

theorem splitOn_eq_three {sep : Char} {cs first second third : List Char} :
    cs.splitOn sep = [first, second, third] ↔ (sep ∉ first ∧ sep ∉ second ∧ sep ∉ third) ∧
      cs = first ++ sep :: (second ++ sep :: third) := by
  have hjoin : [sep].intercalate [first, second, third] = first ++ sep :: (second ++ sep :: third) := by
    simp [List.intercalate_cons_cons]
  rw [splitOn_eq_iff (List.cons_ne_nil _ _), hjoin, eq_comm (a := cs)]
  simp

namespace Pointer

/-! ## Steps of a reference -/

/-- Only a plain step is read as a plain name, and it is read as itself. -/
theorem unescape_eq_iff {cs plain : List Char} (hplain : ∀ c ∈ plain, c ≠ '~' ∧ c ≠ '/') :
    unescape cs = plain ↔ cs = plain := by
  constructor
  · intro h
    fun_induction unescape cs generalizing plain with
    | case1 rest _ =>
      subst h
      exact absurd rfl (hplain '/' List.mem_cons_self).2
    | case2 rest _ =>
      subst h
      exact absurd rfl (hplain '~' List.mem_cons_self).1
    | case3 c rest _ _ ih =>
      subst h
      rw [← ih (fun d hd => hplain d (List.mem_cons_of_mem _ hd)) rfl]
    | case4 => exact h
  · rintro rfl
    have hescaped := unescape_escape cs
    rwa [escape_eq_self hplain] at hescaped

/-- The name that a written step is read as. -/
def unescaped (step : String) : String :=
  String.ofList (replacePair '~' '0' '~' (replacePair '~' '1' '/' step.toList))

theorem unescaped_eq (step : String) : unescaped step = String.ofList (unescape step.toList) := by
  rw [unescaped, unescape_eq_replace]

/-- A reference is written as the entry of a name in a section, with a text in front of the first `/`. -/
def Names (key lead name raw : String) : Prop :=
  '/' ∉ lead.toList ∧ ∃ step : String, '/' ∉ step.toList ∧ unescaped step = name ∧
    raw = "#" ++ lead ++ "/" ++ key ++ "/" ++ step

theorem steps?_eq_some {raw : String} {steps : List String} :
    steps? raw = some steps ↔ ∃ path, raw.toList = '#' :: path ∧
      ((path.splitOn '/').drop 1).map (fun step => String.ofList (unescape step)) = steps := by
  unfold steps?
  split
  · next path hraw => simp [hraw]
  · next hraw =>
    refine ⟨fun h => (Option.some_ne_none _ h.symm).elim, ?_⟩
    rintro ⟨path, hpath, -⟩
    exact absurd hpath (hraw path)

/-- A reference has the steps of an entry exactly if it is written as that entry. -/
theorem steps?_eq_entry {raw key name : String} (hkey : ∀ c ∈ key.toList, c ≠ '~' ∧ c ≠ '/') :
    steps? raw = some [key, name] ↔ ∃ lead, Names key lead name raw := by
  rw [steps?_eq_some]
  constructor
  · rintro ⟨path, hraw, hsteps⟩
    obtain ⟨lead, pieces, hsplit⟩ := List.exists_cons_of_ne_nil (List.splitOn_ne_nil '/' path)
    rw [hsplit, List.drop_succ_cons, List.drop_zero] at hsteps
    obtain ⟨first, _, rfl, hfirst, hothers⟩ := List.map_eq_cons_iff.mp hsteps
    obtain ⟨second, _, rfl, hsecond, hnone⟩ := List.map_eq_cons_iff.mp hothers
    obtain rfl := List.map_eq_nil_iff.mp hnone
    obtain ⟨⟨hlead, _, hstep⟩, hpath⟩ := splitOn_eq_three.mp hsplit
    have hsection : first = key.toList :=
      (unescape_eq_iff hkey).mp (by rw [← hfirst, String.toList_ofList])
    refine ⟨String.ofList lead, ?_, String.ofList second, ?_, ?_, String.toList_inj.mp ?_⟩
    · rwa [String.toList_ofList]
    · rwa [String.toList_ofList]
    · rw [unescaped_eq, String.toList_ofList, hsecond]
    · simp [hraw, hpath, hsection]
  · rintro ⟨lead, hlead, step, hstep, rfl, rfl⟩
    have hslash : '/' ∉ key.toList := fun hmem => (hkey '/' hmem).2 rfl
    refine ⟨lead.toList ++ '/' :: (key.toList ++ '/' :: step.toList), by simp, ?_⟩
    rw [splitOn_eq_three.mpr ⟨⟨hlead, hslash, hstep⟩, rfl⟩, unescaped_eq]
    simp [(unescape_eq_iff hkey).mpr rfl]

/-! ## Pointers -/

/-- The section and the name of the entry that a pointer is for. -/
def entry? : Pointer → Option (String × String)
  | .definition name => some ("definitions", name)
  | .parameter name => some ("parameters", name)
  | .response name => some ("responses", name)
  | .other _ => none

/-- The sections whose entries have pointers of their own. -/
def sections : List String := ["definitions", "parameters", "responses"]

theorem section_plain {key : String} (h : key ∈ sections) : ∀ c ∈ key.toList, c ≠ '~' ∧ c ≠ '/' := by
  have hall : ∀ key ∈ sections, ∀ c ∈ key.toList, c ≠ '~' ∧ c ≠ '/' := by simp [sections]
  exact hall key h

theorem section_of_entry {p : Pointer} {key name : String} (h : p.entry? = some (key, name)) :
    key ∈ sections := by
  cases p with
  | definition | parameter | response => cases h; decide
  | other => cases h

theorem exists_entry {key : String} (h : key ∈ sections) (name : String) :
    ∃ p : Pointer, p.entry? = some (key, name) := by
  simp only [sections, List.mem_cons, List.not_mem_nil, or_false] at h
  rcases h with rfl | rfl | rfl
  · exact ⟨.definition name, rfl⟩
  · exact ⟨.parameter name, rfl⟩
  · exact ⟨.response name, rfl⟩

end Pointer

theorem Loaded.pointer_eq_ok {raw : String} {p : Pointer} :
    pointer raw = .ok p ↔ Pointer.parse? raw = some p := by
  unfold pointer
  split
  · next q hq => simp [hq]
  · next hnone => simp [hnone]

namespace Pointer

/-- A reference is read as the pointer to an entry exactly if it is written as that entry. -/
theorem pointer_eq_entry {raw key name : String} {p : Pointer} (hp : p.entry? = some (key, name)) :
    Loaded.pointer raw = .ok p ↔ ∃ lead, Names key lead name raw := by
  rw [Loaded.pointer_eq_ok, ← steps?_eq_entry (section_plain (section_of_entry hp))]
  constructor
  · intro h
    have hsteps := steps?_of_parse h
    cases p with
    | definition | parameter | response => cases hp; exact hsteps
    | other => cases hp
  · intro h
    cases p with
    | definition | parameter | response => cases hp; rw [parse?, h]; rfl
    | other => cases hp

theorem pointer_eq_external {raw : String} :
    Loaded.pointer raw = .error (.externalReference raw) ↔ raw.toList.head? ≠ some '#' := by
  cases h : parse? raw with
  | none => simp [Loaded.pointer, h, head_ne_of_steps (steps?_eq_none h)]
  | some p => simp [Loaded.pointer, h, head_of_parse h]

theorem eq_of_parse_other {raw text : String} (h : parse? raw = some (.other text)) : text = raw := by
  unfold parse? at h
  split at h <;> cases h
  rfl

/-- Any other reference that begins with `#` keeps its text. -/
theorem pointer_eq_other {raw text : String} :
    Loaded.pointer raw = .ok (.other text) ↔ text = raw ∧ raw.toList.head? = some '#' ∧
      ∀ key ∈ sections, ∀ lead name, ¬ Names key lead name raw := by
  constructor
  · intro h
    have hparse := Loaded.pointer_eq_ok.mp h
    refine ⟨eq_of_parse_other hparse, head_of_parse hparse, fun key hkey lead name hnames => ?_⟩
    obtain ⟨p, hp⟩ := exists_entry hkey name
    have hother := (pointer_eq_entry hp).mpr ⟨lead, hnames⟩
    rw [h] at hother
    cases hother
    cases hp
  · rintro ⟨rfl, hhead, hnone⟩
    cases hparse : parse? text with
    | none => exact absurd hhead (head_ne_of_steps (steps?_eq_none hparse))
    | some p =>
      cases hp : p.entry? with
      | none =>
        cases p with
        | definition | parameter | response => cases hp
        | other raw =>
          obtain rfl := eq_of_parse_other hparse
          exact Loaded.pointer_eq_ok.mpr hparse
      | some entry =>
        obtain ⟨key, name⟩ := entry
        obtain ⟨lead, hnames⟩ := (pointer_eq_entry hp).mp (Loaded.pointer_eq_ok.mpr hparse)
        exact absurd hnames (hnone key (section_of_entry hp) lead name)

/-- Reading recognises the pointers into sections whose texts in front of the first `/` are as given, and
no others. -/
structure Recognises (skipped : String → Prop) (raw : String) : Prop where
  definition : ∀ name, Loaded.pointer raw = .ok (.definition name) ↔
    ∃ lead, skipped lead ∧ Names "definitions" lead name raw
  parameter : ∀ name, Loaded.pointer raw = .ok (.parameter name) ↔
    ∃ lead, skipped lead ∧ Names "parameters" lead name raw
  response : ∀ name, Loaded.pointer raw = .ok (.response name) ↔
    ∃ lead, skipped lead ∧ Names "responses" lead name raw
  other : ∀ text, Loaded.pointer raw = .ok (.other text) ↔ text = raw ∧ raw.toList.head? = some '#' ∧
    ∀ key ∈ sections, ∀ lead name, skipped lead → ¬ Names key lead name raw
  external : Loaded.pointer raw = .error (.externalReference raw) ↔ raw.toList.head? ≠ some '#'

/-- It is enough that no other texts stand in front of the first `/`. -/
theorem Recognises.of_names {skipped : String → Prop} {raw : String}
    (h : ∀ key ∈ sections, ∀ lead name, Names key lead name raw → skipped lead) :
    Recognises skipped raw := by
  have hentry : ∀ {p : Pointer} {key name : String}, p.entry? = some (key, name) →
      (Loaded.pointer raw = .ok p ↔ ∃ lead, skipped lead ∧ Names key lead name raw) := by
    intro p key name hp
    rw [pointer_eq_entry hp]
    exact exists_congr fun lead =>
      ⟨fun hnames => ⟨h key (section_of_entry hp) lead name hnames, hnames⟩, And.right⟩
  constructor
  case definition => exact fun name => hentry rfl
  case parameter => exact fun name => hentry rfl
  case response => exact fun name => hentry rfl
  case external => exact pointer_eq_external
  case other =>
    intro text
    rw [pointer_eq_other]
    refine and_congr_right fun _ => and_congr_right fun _ => ?_
    refine forall₂_congr fun key hkey => forall₂_congr fun lead name => ?_
    exact ⟨fun hnot _ => hnot, fun hnot hnames => hnot (h key hkey lead name hnames) hnames⟩

theorem Recognises.exists_lead {skipped : String → Prop} {raw key lead name : String}
    (h : Recognises skipped raw) (hkey : key ∈ sections) (hnames : Names key lead name raw) :
    ∃ lead, skipped lead ∧ Names key lead name raw := by
  obtain ⟨p, hp⟩ := exists_entry hkey name
  have hread := (pointer_eq_entry hp).mpr ⟨lead, hnames⟩
  cases p with
  | definition => cases hp; exact (h.definition name).mp hread
  | parameter => cases hp; exact (h.parameter name).mp hread
  | response => cases hp; exact (h.response name).mp hread
  | other => cases hp

/-- The text in front of the first `/` is determined by the reference. -/
theorem Names.lead_eq {key lead name raw : String} (h : Names key lead name raw) :
    lead.toList = (raw.toList.drop 1).takeWhile (· != '/') := by
  obtain ⟨hlead, step, _, _, rfl⟩ := h
  have hfree : ∀ c ∈ lead.toList, (c != '/') = true := by
    intro c hc
    rw [bne_iff_ne]
    rintro rfl
    exact hlead hc
  simp [List.takeWhile_append_of_pos hfree]

/-- Reading recognises the pointers into sections, whatever text stands in front of the first `/`. So where
such a text stands there, and only there, it accepts more than what is written for an entry. -/
theorem recognises_iff (raw : String) : Recognises (fun _ => True) raw ∧
    (Recognises (· = "") raw ↔ ∀ key ∈ sections, ∀ lead name, Names key lead name raw → lead = "") := by
  refine ⟨.of_names fun _ _ _ _ _ => trivial, fun h key hkey lead name hnames => ?_, .of_names⟩
  obtain ⟨_, rfl, hempty⟩ := h.exists_lead hkey hnames
  exact String.toList_inj.mp (hnames.lead_eq.trans hempty.lead_eq.symm)

/-- A text in front of the first `/` does not keep this reference from being read as a definition. -/
theorem lead_skipped : Loaded.pointer "#x/definitions/w" = .ok (.definition "w") ∧
    (∀ step, "#x/definitions/w" ≠ "#/definitions/" ++ step) ∧ ¬ Recognises (· = "") "#x/definitions/w" := by
  have hread : Loaded.pointer "#x/definitions/w" = .ok (.definition "w") :=
    Loaded.pointer_eq_ok.mpr (by decide +kernel)
  refine ⟨hread, fun step h => ?_, fun h => ?_⟩
  · have hsecond := congrArg (fun raw => raw.toList[1]?) h
    simp at hsecond
  · obtain ⟨_, rfl, hnames⟩ := (h.definition "w").mp hread
    exact absurd hnames.lead_eq (by decide +kernel)

end Pointer

end SwaggerService
