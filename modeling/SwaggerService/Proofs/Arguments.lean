import SwaggerService.Command.Arguments
import SwaggerService.Proofs.Decimals

/-! # Arguments of a request

Which requests arguments can ask for: those without an empty path and with a machine number as the limit of
depth. Every option has a form that is one argument, so such a request is written option by option and read
back from that; and whatever is read is such a request, as each option is checked when it is entered. -/

namespace SwaggerService.Command

/-- The long name of an option with a value. -/
def Setting.name : Setting → String
  | .spec => "spec"
  | .format => "format"
  | .output => "output"
  | .maxDepth => "max-depth"

/-- An option and its value in one argument. -/
def Setting.argument (setting : Setting) (value : String) : String := "--" ++ setting.name ++ "=" ++ value

/-- The long form of an option without a value. -/
def Switch.argument : Switch → String
  | .json => "--json"
  | .verbose => "--verbose"

/-- The name by which a format is asked for. -/
def formatWord : Format → String
  | .json => "json"
  | .yaml => "yaml"

/-- A request that arguments can ask for. -/
structure Request.Expressible (r : Request) : Prop where
  spec : r.spec ≠ ""
  output : r.output ≠ some ""
  maxDepth : ∀ n, r.maxDepth = some n → n < UInt64.size

/-- The arguments of a request. -/
def Request.arguments (r : Request) : List String :=
  "parse" :: Setting.spec.argument r.spec :: (
    (r.format.map fun f => Setting.format.argument (formatWord f)).toList ++
    (r.output.map Setting.output.argument).toList ++
    (r.maxDepth.map fun n => Setting.maxDepth.argument (toString n)).toList ++
    (if r.json then [Switch.json.argument] else []) ++
    (if r.verbose then [Switch.verbose.argument] else []))

/-! ## One option -/

/-- The name of an option ends at the first sign behind it. -/
theorem longOption_setting {setting : Setting} {name : List Char} (hname : ∀ c ∈ name, (c != '=') = true)
    (hchoice : Choice.ofName? name = some (.setting setting)) (g : Given) (rest : List String)
    (value : List Char) : longOption g rest (name ++ '=' :: value) =
      (g.set setting (String.ofList value)).map fun g => .given g rest := by
  have htake : (name ++ '=' :: value).takeWhile (· != '=') = name := by
    rw [List.takeWhile_append_of_pos hname, List.takeWhile_cons_of_neg (by decide), List.append_nil]
  unfold longOption
  rw [htake]
  dsimp only
  rw [hchoice, List.drop_left]

theorem argument_setting (g : Given) (setting : Setting) (value : String) (rest : List String) :
    argument g (setting.argument value) rest = (g.set setting value).map fun g => .given g rest := by
  have hlist : (setting.argument value).toList =
      '-' :: '-' :: (setting.name.toList ++ '=' :: value.toList) := by
    simp [Setting.argument]
  have hlong : argument g (setting.argument value) rest =
      longOption g rest (setting.name.toList ++ '=' :: value.toList) := by
    unfold argument
    rw [hlist]
    cases setting <;> rfl
  rw [hlong, longOption_setting _ _, String.ofList_toList]
  · cases setting <;> simp [Setting.name]
  · cases setting <;> rfl

theorem argument_switch (g : Given) (switch : Switch) (rest : List String) :
    argument g switch.argument rest = (g.turnOn switch).map fun g => .given g rest := by
  cases switch
  · rfl
  · rfl

/-! ## One option after the other -/

/-- Arguments that enter options one by one. -/
inductive Enters : Given → List String → Given → Prop
  | nil {g : Given} : Enters g [] g
  | cons {g mid g' : Given} {first : String} {others : List String} :
      (∀ rest, argument g first rest = some (.given mid rest)) → Enters mid others g' →
      Enters g (first :: others) g'

theorem Enters.append {g mid g' : Given} {xs ys : List String} (hx : Enters g xs mid) (hy : Enters mid ys g') :
    Enters g (xs ++ ys) g' := by
  induction hx with
  | nil => exact hy
  | cons hfirst _ ih => exact .cons hfirst (ih hy)

theorem Enters.setting {g g' : Given} {setting : Setting} {value : String} (h : g.set setting value = some g') :
    Enters g [setting.argument value] g' := by
  refine .cons (fun rest => ?_) .nil
  rw [argument_setting, h]
  rfl

theorem Enters.switch {g g' : Given} {switch : Switch} (h : g.turnOn switch = some g') :
    Enters g [switch.argument] g' := by
  refine .cons (fun rest => ?_) .nil
  rw [argument_switch, h]
  rfl

/-- An option that is entered if there is a value for it. -/
theorem Enters.optional {α : Type} {argument : α → String} (after : Option α → Given) {value : Option α}
    (h : ∀ a, value = some a → Enters (after none) [argument a] (after (some a))) :
    Enters (after none) (value.map argument).toList (after value) := by
  cases value with
  | none => exact .nil
  | some a => exact h a rfl

/-- An option without a value that is entered if it is wanted. -/
theorem Enters.wanted {switch : Switch} (after : Bool → Given) {value : Bool}
    (h : (after false).turnOn switch = some (after true)) :
    Enters (after false) (if value then [switch.argument] else []) (after value) := by
  cases value with
  | false => exact .nil
  | true => exact .switch h

theorem Enters.options {g g' : Given} {arguments : List String} (h : Enters g arguments g') (verbose : Bool) :
    options verbose arguments.length g arguments = (g'.request? verbose).map .parse := by
  induction h with
  | nil => rfl
  | cons hfirst _ ih =>
    rw [List.length_cons, Command.options, hfirst]
    exact ih

/-! ## Requests -/

theorem format?_formatWord (f : Format) : Given.format? (formatWord f) = some f := by
  cases f <;> rfl

theorem path?_of_ne {path : String} (h : path ≠ "") : Given.path? path = some path := if_neg (by simpa using h)

/-- The options of a request are entered one after the other. -/
theorem enters_arguments {r : Request} (h : r.Expressible) : Enters {} r.arguments.tail
    ⟨some r.spec, r.format, r.output, r.maxDepth, r.json, r.verbose⟩ := by
  obtain ⟨spec, format, output, maxDepth, json, verbose⟩ := r
  have hspec : Enters {} [Setting.spec.argument spec] { spec := some spec } :=
    .setting (by simp [Given.set, path?_of_ne h.spec, Given.fill])
  have hformat : Enters { spec := some spec } (format.map fun f => Setting.format.argument (formatWord f)).toList
      { spec := some spec, format } := by
    refine .optional (fun format => { spec := some spec, format }) fun f _ => .setting ?_
    simp [Given.set, format?_formatWord, Given.fill]
  have houtput : Enters { spec := some spec, format } (output.map Setting.output.argument).toList
      { spec := some spec, format, output } := by
    refine .optional (fun output => { spec := some spec, format, output }) fun path hpath => .setting ?_
    have hsome : path ≠ "" := fun hempty => h.output (hpath.trans (congrArg some hempty))
    simp [Given.set, path?_of_ne hsome, Given.fill]
  have hdepth : Enters { spec := some spec, format, output }
      (maxDepth.map fun n => Setting.maxDepth.argument (toString n)).toList
      { spec := some spec, format, output, maxDepth } := by
    refine .optional (fun maxDepth => { spec := some spec, format, output, maxDepth }) fun n hn => .setting ?_
    simp only [Given.set, readNatural?_toString (h.maxDepth n hn)]
    rfl
  have hjson : Enters { spec := some spec, format, output, maxDepth }
      (if json then [Switch.json.argument] else []) { spec := some spec, format, output, maxDepth, json } :=
    .wanted (fun json => { spec := some spec, format, output, maxDepth, json }) rfl
  have hverbose : Enters { spec := some spec, format, output, maxDepth, json }
      (if verbose then [Switch.verbose.argument] else [])
      { spec := some spec, format, output, maxDepth, json, verbose } :=
    .wanted (fun verbose => { spec := some spec, format, output, maxDepth, json, verbose }) rfl
  exact hspec.append ((((hformat.append houtput).append hdepth).append hjson).append hverbose)

/-- A request is read back from its arguments. -/
theorem ofArguments?_arguments {r : Request} (h : r.Expressible) :
    Invocation.ofArguments? r.arguments = some (.parse r) := by
  have hoptions := (enters_arguments h).options false
  have hparse : Invocation.ofArguments? r.arguments =
      options false r.arguments.tail.length {} r.arguments.tail := rfl
  rw [hparse, hoptions]
  simp [Given.request?]

/-! ## What is read can be expressed -/

/-- Options that a request can have. -/
structure Given.Sound (g : Given) : Prop where
  spec : g.spec ≠ some ""
  output : g.output ≠ some ""
  maxDepth : ∀ n, g.maxDepth = some n → n < UInt64.size

/-- An invocation whose request, if it is one, can be asked for. -/
def Invocation.Sound (i : Invocation) : Prop := ∀ r, i = .parse r → r.Expressible

/-- Options that can be given, or an invocation that can be asked for. -/
def Progress.Sound : Progress → Prop
  | .given g _ => g.Sound
  | .settled i => i.Sound

theorem Given.Sound.empty : Given.Sound {} := ⟨by simp, by simp, by simp⟩

theorem fill_eq_some {α : Type} {old filled : Option α} {new : α} (h : Given.fill old new = some filled) :
    filled = some new := by
  unfold Given.fill at h
  split at h
  · nomatch h
  · exact (Option.some.inj h).symm

theorem path?_eq_some {text path : String} (h : Given.path? text = some path) : path ≠ "" := by
  unfold Given.path? at h
  split at h
  · nomatch h
  · rename_i hsome
    cases h
    simpa using hsome

theorem Given.Sound.set {g g' : Given} (hg : g.Sound) {setting : Setting} {text : String}
    (h : g.set setting text = some g') : g'.Sound := by
  cases setting with
  | spec =>
    obtain ⟨path, hpath, h⟩ := Option.bind_eq_some_iff.mp h
    obtain ⟨filled, hfilled, h⟩ := Option.bind_eq_some_iff.mp h
    cases h
    cases fill_eq_some hfilled
    exact { hg with spec := fun hempty => path?_eq_some hpath (Option.some.inj hempty) }
  | format =>
    obtain ⟨format, -, h⟩ := Option.bind_eq_some_iff.mp h
    obtain ⟨filled, -, h⟩ := Option.bind_eq_some_iff.mp h
    cases h
    exact { hg with }
  | output =>
    obtain ⟨path, hpath, h⟩ := Option.bind_eq_some_iff.mp h
    obtain ⟨filled, hfilled, h⟩ := Option.bind_eq_some_iff.mp h
    cases h
    cases fill_eq_some hfilled
    exact { hg with output := fun hempty => path?_eq_some hpath (Option.some.inj hempty) }
  | maxDepth =>
    obtain ⟨n, hread, h⟩ := Option.bind_eq_some_iff.mp h
    obtain ⟨filled, hfilled, h⟩ := Option.bind_eq_some_iff.mp h
    cases h
    cases fill_eq_some hfilled
    refine { hg with maxDepth := fun n hn => ?_ }
    cases hn
    exact (readNatural?_eq_some.mp hread).2

theorem Given.Sound.turnOn {g g' : Given} (hg : g.Sound) {switch : Switch} (h : g.turnOn switch = some g') :
    g'.Sound := by
  cases switch <;>
  · unfold Given.turnOn at h
    dsimp only at h
    split at h
    · nomatch h
    · cases h
      exact { hg with }

theorem Invocation.Sound.help : Invocation.help.Sound := nofun

/-- An option that was entered, with what is left of the arguments. -/
theorem sound_of_map {entered : Option Given} {rest : List String} {progress : Progress}
    (hentered : ∀ g, entered = some g → g.Sound) (h : entered.map (.given · rest) = some progress) :
    progress.Sound := by
  obtain ⟨g, hg, rfl⟩ := Option.map_eq_some_iff.mp h
  exact hentered g hg

variable {g : Given} {rest : List String} {progress : Progress}

theorem takeValue_sound {setting : Setting} (hg : g.Sound) (h : takeValue g setting rest = some progress) :
    progress.Sound := by
  cases rest with
  | nil => nomatch h
  | cons value rest =>
    rw [takeValue] at h
    split at h
    · nomatch h
    · exact sound_of_map (fun _ => hg.set) h

theorem letters_sound {cs : List Char} (hg : g.Sound) (h : letters g rest cs = some progress) :
    progress.Sound := by
  induction cs generalizing g with
  | nil =>
    cases h
    exact hg
  | cons c cs ih =>
    unfold letters at h
    split at h
    · obtain ⟨g', hg', h⟩ := Option.bind_eq_some_iff.mp h
      exact ih (hg.turnOn hg') h
    · split at h
      · exact takeValue_sound hg h
      · exact sound_of_map (fun _ => hg.set) h
    · cases h
      exact .help
    · nomatch h

theorem longOption_sound {cs : List Char} (hg : g.Sound) (h : longOption g rest cs = some progress) :
    progress.Sound := by
  unfold longOption at h
  dsimp only at h
  split at h
  · exact takeValue_sound hg h
  · exact sound_of_map (fun _ => hg.set) h
  · exact sound_of_map (fun _ => hg.turnOn) h
  · cases h
    exact .help
  · nomatch h

theorem argument_sound {first : String} (hg : g.Sound) (h : argument g first rest = some progress) :
    progress.Sound := by
  unfold argument at h
  split at h
  · split at h
    · cases h
      exact hg
    · nomatch h
  · exact longOption_sound hg h
  · exact letters_sound hg h
  · nomatch h

theorem Given.Sound.request? {r : Request} (hg : g.Sound) {verbose : Bool} (h : g.request? verbose = some r) :
    r.Expressible := by
  obtain ⟨spec, hspec, rfl⟩ := Option.map_eq_some_iff.mp h
  exact ⟨fun hempty => hg.spec (hspec.trans (congrArg some hempty)), hg.output, hg.maxDepth⟩

/-- The options behind the command, by induction on the fuel: every argument that is read leaves options that a
request can have. -/
theorem options_sound {verbose : Bool} {fuel : Nat} {arguments : List String} {i : Invocation} (hg : g.Sound)
    (h : options verbose fuel g arguments = some i) : i.Sound := by
  have hend {i : Invocation} {g : Given} (hg : g.Sound) (h : (g.request? verbose).map .parse = some i) :
      i.Sound := by
    obtain ⟨r, hr, rfl⟩ := Option.map_eq_some_iff.mp h
    intro r' hr'
    cases hr'
    exact hg.request? hr
  induction fuel generalizing g arguments with
  | zero =>
    cases arguments with
    | nil => exact hend hg h
    | cons first rest => nomatch h
  | succ fuel ih =>
    cases arguments with
    | nil => exact hend hg h
    | cons first rest =>
      rw [options] at h
      split at h
      · rename_i hargument
        exact ih (argument_sound hg hargument) h
      · rename_i hargument
        cases h
        exact argument_sound hg hargument
      · nomatch h

theorem leadingLetters_sound {verbose : Bool} {cs : List Char} {i : Invocation}
    (h : leadingLetters verbose cs = some (.inr i)) : i.Sound := by
  induction cs generalizing verbose with
  | nil => nomatch h
  | cons c cs ih =>
    unfold leadingLetters at h
    split at h
    · split at h
      · nomatch h
      · exact ih h
    · split at h
      · cases h
        exact nofun
      · split at h
        · cases h
          exact .help
        · nomatch h

theorem readArguments_sound {verbose : Bool} {arguments : List String} {i : Invocation}
    (h : readArguments verbose arguments = some i) : i.Sound := by
  induction arguments generalizing verbose with
  | nil => nomatch h
  | cons first rest ih =>
    unfold readArguments at h
    split at h
    · exact options_sound .empty h
    split at h
    · split at h
      · cases h
        exact .help
      · nomatch h
    split at h
    · cases h
      exact .help
    split at h
    · cases h
      exact nofun
    split at h
    · split at h
      · nomatch h
      · exact ih h
    split at h
    · split at h
      · exact ih h
      · cases h
        rename_i hleading
        exact leadingLetters_sound hleading
      · nomatch h
    · nomatch h

/-- The requests that arguments ask for are those that can be expressed. -/
theorem expressible_iff {r : Request} :
    r.Expressible ↔ ∃ arguments, Invocation.ofArguments? arguments = some (.parse r) :=
  ⟨fun h => ⟨r.arguments, ofArguments?_arguments h⟩, fun ⟨_, h⟩ => readArguments_sound h r rfl⟩

end SwaggerService.Command
