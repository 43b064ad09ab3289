import SwaggerService.Command
import SwaggerService.Proofs.Arguments
import SwaggerService.Proofs.Disks

/-! # Runs of the command

The command reads a file and finds out its format by itself, where the library is given the name of the file.
If no format is asked for, both come to the same service. What the command then prints and writes depends on
that service and on its options alone; without a service nothing is written, and with `--json` nothing is
printed that is not the service. -/

namespace SwaggerService

/-- The service of a file as the library gives it: the document is loaded by the name of the file, and
described with the limit that is given, or else with the usual one. -/
def Loaded.describeFile (path : String) (content : Except FileFault String) (maxDepth : Option Nat) :
    Except Fault Service := do
  (← ofFile path content).describe (maxDepth.getD 64)

namespace Command

variable {σ : Type} {files : Files (StateM σ)} {r : Request} {before : σ}

/-- What the library gives for the file of a request. -/
def Request.expected (r : Request) (files : Files (StateM σ)) (before : σ) : Except Fault Service :=
  Loaded.describeFile r.spec (files.read r.spec before).1 r.maxDepth

/-- What a run of a request gives, against what the library gives for its file. -/
structure Request.Agrees (r : Request) (files : Files (StateM σ)) (before : σ) (report : Report)
    (after : σ) : Prop where
  /-- The command comes to a service if the library does, and to the same one. -/
  reaches : ∀ service, (r.describe (files.read r.spec before).1).1 = .ok service ↔
    r.expected files before = .ok service
  /-- Without a service the command fails, writes nothing and has printed nothing but its progress. -/
  fails : ∀ fault, r.expected files before = .error fault →
    report.code = 1 ∧ report.failure.isSome ∧ after = before ∧ (r.json → report.stdout = "")
  /-- Without an output file the service is only shown. -/
  shows : ∀ service, r.expected files before = .ok service → r.output = none →
    report.code = 0 ∧ report.failure = none ∧ after = before ∧
      (r.json → report.stdout = service.encode.pretty ++ "\n")
  /-- With an output file the service is written to it and shown. -/
  writes : ∀ service path, r.expected files before = .ok service → r.output = some path →
    (files.write path service.encode.pretty before).1 = .ok () →
    report.code = 0 ∧ report.failure = none ∧
      after = (files.write path service.encode.pretty before).2 ∧
      (files.read path after).1 = .ok service.encode.pretty ∧
      (r.json → report.stdout = service.encode.pretty ++ "\n")
  /-- If the output file cannot be written, the command fails. -/
  failsToWrite : ∀ service path fault, r.expected files before = .ok service → r.output = some path →
    (files.write path service.encode.pretty before).1 = .error fault →
    report.code = 1 ∧ report.failure.isSome ∧ (r.json → report.stdout = "")

theorem Request.progress_of_json (h : r.json = true) (parts : List String) : r.progress parts = "" := by
  rw [progress, h, if_pos rfl]

theorem Request.opening_of_json (h : r.json = true) : r.opening = "" := by
  rw [opening, progress_of_json h, progress_of_json h, ite_self]
  rfl

theorem Request.closing_of_json (h : r.json = true) (service : Service) :
    r.closing service = service.encode.pretty ++ "\n" := by
  rw [closing, h, if_pos rfl]
  rfl

/-- A run ends without a service, or with one that is shown, or with one that is written first. -/
theorem Request.run_eq (r : Request) (hread : (files.read r.spec before).2 = before) :
    r.run files before =
      match r.describe (files.read r.spec before).1 with
      | (.error failure, events) => (⟨1, r.opening, events, some failure⟩, before)
      | (.ok service, events) =>
        match r.output with
        | none => (⟨0, r.opening ++ r.closing service, events, none⟩, before)
        | some path =>
          match files.write path (render service) before with
          | (.error fault, after) =>
            (⟨1, r.opening, events, some (.ofFile "Failed to write" path fault)⟩, after)
          | (.ok (), after) =>
            (⟨0, r.opening ++ r.progress ["✓ Wrote IR to ", path] ++ r.closing service, events, none⟩,
              after) := by
  have hread' : files.read r.spec before = ((files.read r.spec before).1, before) := Prod.ext rfl hread
  simp only [Request.run, bind, StateT.bind]
  rw [hread']
  dsimp only
  rcases r.describe (files.read r.spec before).1 with ⟨failure | service, events⟩
  · rfl
  cases r.output with
  | none => rfl
  | some path =>
    rcases hwrite : files.write path (render service) before with ⟨fault | _, after⟩
    · simp only [StateT.bind, hwrite]
      rfl
    · simp only [StateT.bind, hwrite]
      rfl

/-- The command and the library take a file to have the same format. -/
theorem detectFormat_eq (path : String) : detectFormat path = Format.ofPath path := by
  unfold detectFormat Format.ofPath
  cases extension? path with
  | none => rfl
  | some extension =>
    by_cases hyaml : extension = ['y', 'a', 'm', 'l']
    · subst hyaml
      rfl
    by_cases hyml : extension = ['y', 'm', 'l']
    · subst hyml
      rfl
    have hother : ∀ name : String, String.ofList extension = name → extension = name.toList := by
      rintro _ rfl
      exact String.toList_ofList.symm
    have hyaml' : String.ofList extension ≠ "yaml" := fun heq => hyaml (hother "yaml" heq)
    have hyml' : String.ofList extension ≠ "yml" := fun heq => hyml (hother "yml" heq)
    simp [hyaml, hyml, hyaml', hyml']

/-- The name of the file decides on its format here and there, and so does everything behind that. -/
theorem Request.describe_toOption (hformat : r.format = none) (content : Except FileFault String) :
    (r.describe content).1.toOption = (Loaded.describeFile r.spec content r.maxDepth).toOption := by
  have hused : r.formatUsed = Format.ofPath r.spec := by
    rw [formatUsed, hformat, Option.getD_none, detectFormat_eq]
  cases content with
  | error fault => rfl
  | ok text =>
    simp only [describe, Loaded.describeFile, Loaded.ofFile, hused]
    cases Loaded.ofText (Format.ofPath r.spec) text with
    | error fault => rfl
    | ok l =>
      have hdepth : r.depth = r.maxDepth.getD 64 := rfl
      simp only [hdepth, bind, Except.bind, Loaded.describe]
      cases (l.describeLogged (r.maxDepth.getD 64)).1 <;> rfl

theorem Request.describe_eq_ok (hformat : r.format = none) (service : Service) :
    (r.describe (files.read r.spec before).1).1 = .ok service ↔ r.expected files before = .ok service := by
  rw [← toOption_eq_some, describe_toOption hformat, toOption_eq_some, expected]

theorem Request.run_of_error (hfiles : files.Keeps) (hformat : r.format = none) {fault : Fault}
    (h : r.expected files before = .error fault) :
    ∃ failure events, r.run files before = (⟨1, r.opening, events, some failure⟩, before) := by
  rw [run_eq r (hfiles.read r.spec before)]
  rcases hdescribe : r.describe (files.read r.spec before).1 with ⟨failure | service, events⟩
  · exact ⟨failure, events, rfl⟩
  · have hok := (describe_eq_ok hformat service).mp (congrArg Prod.fst hdescribe)
    nomatch hok.symm.trans h

theorem Request.describe_of_ok (hformat : r.format = none) {service : Service}
    (h : r.expected files before = .ok service) :
    ∃ events, r.describe (files.read r.spec before).1 = (.ok service, events) :=
  ⟨_, Prod.ext ((describe_eq_ok hformat service).mpr h) rfl⟩

theorem Request.agrees_run (hfiles : files.Keeps) (hformat : r.format = none) (before : σ) :
    r.Agrees files before (r.run files before).1 (r.run files before).2 where
  reaches := describe_eq_ok hformat
  fails fault h := by
    obtain ⟨failure, events, hrun⟩ := run_of_error hfiles hformat h
    rw [hrun]
    exact ⟨rfl, rfl, rfl, opening_of_json⟩
  shows service h hout := by
    obtain ⟨events, hdescribe⟩ := describe_of_ok hformat h
    rw [run_eq r (hfiles.read r.spec before), hdescribe, hout]
    refine ⟨rfl, rfl, rfl, fun hjson => ?_⟩
    dsimp only
    rw [opening_of_json hjson, closing_of_json hjson, String.empty_append]
  writes service path h hout hwrite := by
    obtain ⟨events, hdescribe⟩ := describe_of_ok hformat h
    have hpair : files.write path (render service) before =
        (.ok (), (files.write path service.encode.pretty before).2) := Prod.ext hwrite rfl
    rw [run_eq r (hfiles.read r.spec before), hdescribe, hout]
    dsimp only
    rw [hpair]
    refine ⟨rfl, rfl, rfl, hfiles.write path _ before hwrite, fun hjson => ?_⟩
    dsimp only
    rw [opening_of_json hjson, progress_of_json hjson, closing_of_json hjson, String.empty_append,
      String.empty_append]
  failsToWrite service path fault h hout hwrite := by
    obtain ⟨events, hdescribe⟩ := describe_of_ok hformat h
    have hpair : files.write path (render service) before =
        (.error fault, (files.write path service.encode.pretty before).2) := Prod.ext hwrite rfl
    rw [run_eq r (hfiles.read r.spec before), hdescribe, hout]
    dsimp only
    rw [hpair]
    exact ⟨rfl, rfl, opening_of_json⟩

/-- The command agrees with the library on every file, and it does all of its work or none of it. The requests
that arguments can ask for are those without an empty path whose limit is a machine number. However such a
request is asked for, if it leaves the format open, it comes to the service of the library for the file, shows
and writes exactly that one, or fails without writing. -/
theorem runs_agree (hfiles : files.Keeps) (hformat : r.format = none) :
    (r.Expressible ↔ ∃ arguments, Invocation.ofArguments? arguments = some (.parse r)) ∧
      ∀ arguments, Invocation.ofArguments? arguments = some (.parse r) → ∀ before,
        r.Agrees files before (run files arguments before).1 (run files arguments before).2 := by
  refine ⟨expressible_iff, fun arguments harguments before => ?_⟩
  have hrun : run files arguments = r.run files := by
    rw [run, harguments]
  rw [hrun]
  exact r.agrees_run hfiles hformat before

/-- The text of a document with one definition. -/
def ferryText : String :=
  (Json.object [("info", .object [("title", .string "ferry"), ("version", .string "2.1.0")]),
    ("paths", .object []),
    ("definitions", .object [("Deck", .object [("type", .string "object"),
      ("properties", .object [("length", .object [("type", .string "number")])])])])]).compact

/-- The same definition in YAML. -/
def ferryYaml : String :=
  "info:\n  title: ferry\n  version: 2.1.0\ndefinitions:\n  Deck:\n    type: object\n" ++
    "    properties:\n      length:\n        type: number\n"

/-- A request for everything but a format. -/
def ferry (spec : String) : Request where
  spec
  format := none
  output := some "out.json"
  maxDepth := some 3
  json := true
  verbose := true

/-- Arguments of that request. -/
def ferryArguments (spec : String) : List String :=
  ["-v", "parse", "--spec", spec, "-oout.json", "--max-depth=3", "--json"]

/-- The directory in which the request is made, without a file in it. -/
def emptyQuay : Disk := ⟨["quay"], []⟩

/-- The directory with a document in it. -/
def quay (spec text : String) : Disk := emptyQuay.put ["quay", spec] text.toUTF8

/-- The request is carried out: the service is shown and written. -/
def FerrySails (spec : String) (disk : Disk) : Prop :=
  ∃ service : Service, service.types.map (·.name) = ["Deck"] ∧
    (run Disk.access (ferryArguments spec) disk).1.code = 0 ∧
    (run Disk.access (ferryArguments spec) disk).1.stdout = service.encode.pretty ++ "\n" ∧
    (run Disk.access (ferryArguments spec) disk).2.read "out.json" = .ok service.encode.pretty

/-- The request fails: nothing is shown or written. -/
def FerryStays (spec : String) (disk : Disk) : Prop :=
  (run Disk.access (ferryArguments spec) disk).1.code = 1 ∧
    (run Disk.access (ferryArguments spec) disk).1.stdout = "" ∧
    (run Disk.access (ferryArguments spec) disk).2 = disk

variable {spec text : String} {disk : Disk}

theorem ferrySails_of_agrees (h : (ferry spec).Agrees Disk.access (quay spec text)
      (run Disk.access (ferryArguments spec) (quay spec text)).1
      (run Disk.access (ferryArguments spec) (quay spec text)).2)
    (hread : (quay spec text).read spec = .ok text)
    (hdescribed : (Loaded.describeFile spec (.ok text) (some 3)).toOption.map (·.types.map (·.name)) =
      some ["Deck"])
    (hwrite : ∀ content, (Disk.access.write "out.json" content (quay spec text)).1 = .ok ()) :
    FerrySails spec (quay spec text) := by
  obtain ⟨service, hservice, htypes⟩ := Option.map_eq_some_iff.mp hdescribed
  have hexpected : (ferry spec).expected Disk.access (quay spec text) = .ok service := by
    change Loaded.describeFile spec ((quay spec text).read spec) (some 3) = .ok service
    rw [hread]
    exact toOption_eq_some.mp hservice
  obtain ⟨hdone, -, -, hwritten, hshown⟩ := h.writes service "out.json" hexpected rfl (hwrite _)
  exact ⟨service, htypes, hdone, hshown rfl, hwritten⟩

theorem ferryStays_of_agrees (h : (ferry spec).Agrees Disk.access disk
      (run Disk.access (ferryArguments spec) disk).1 (run Disk.access (ferryArguments spec) disk).2)
    (hexpected : ((ferry spec).expected Disk.access disk).toOption.isNone) : FerryStays spec disk := by
  cases hfault : (ferry spec).expected Disk.access disk with
  | ok service =>
    rw [hfault] at hexpected
    cases hexpected
  | error fault =>
    obtain ⟨hfailed, -, hkept, hsilent⟩ := h.fails fault hfault
    exact ⟨hfailed, hsilent rfl, hkept⟩

/-- The request is carried out where the document is, written as the name of its file says. It fails where
there is no document, and where the file has the name of another format. -/
theorem ferry_runs_agree : Disk.access.Keeps ∧
    ((ferry "ferry.json").format = none ∧ (ferry "ferry.json").Expressible ∧
      Invocation.ofArguments? (ferryArguments "ferry.json") = some (.parse (ferry "ferry.json")) ∧
      FerrySails "ferry.json" (quay "ferry.json" ferryText) ∧ FerryStays "ferry.json" emptyQuay ∧
      FerryStays "ferry.json" (quay "ferry.json" ferryYaml)) ∧
    (ferry "ferry.yml").format = none ∧ (ferry "ferry.yml").Expressible ∧
      Invocation.ofArguments? (ferryArguments "ferry.yml") = some (.parse (ferry "ferry.yml")) ∧
      FerrySails "ferry.yml" (quay "ferry.yml" ferryYaml) ∧ FerryStays "ferry.yml" emptyQuay := by
  have hargumentsJson : Invocation.ofArguments? (ferryArguments "ferry.json") =
      some (.parse (ferry "ferry.json")) := by decide +kernel
  have hargumentsYaml : Invocation.ofArguments? (ferryArguments "ferry.yml") =
      some (.parse (ferry "ferry.yml")) := by decide +kernel
  have hreadJson : ∀ text, (quay "ferry.json" text).read "ferry.json" = .ok text := fun text =>
    Disk.read_put (by decide +kernel) (by decide +kernel) (by decide +kernel)
  have hreadYaml : (quay "ferry.yml" ferryYaml).read "ferry.yml" = .ok ferryYaml :=
    Disk.read_put (by decide +kernel) (by decide +kernel) (by decide +kernel)
  obtain ⟨haskedJson, hjson⟩ := runs_agree (r := ferry "ferry.json") Disk.access_keeps rfl
  obtain ⟨haskedYaml, hyaml⟩ := runs_agree (r := ferry "ferry.yml") Disk.access_keeps rfl
  have hmisnamed :
      ((ferry "ferry.json").expected Disk.access (quay "ferry.json" ferryYaml)).toOption.isNone := by
    change (Loaded.describeFile "ferry.json" ((quay "ferry.json" ferryYaml).read "ferry.json")
      (some 3)).toOption.isNone = true
    rw [hreadJson]
    decide +kernel
  refine ⟨Disk.access_keeps, ⟨rfl, haskedJson.mpr ⟨_, hargumentsJson⟩, hargumentsJson, ?_, ?_, ?_⟩, rfl,
    haskedYaml.mpr ⟨_, hargumentsYaml⟩, hargumentsYaml, ?_, ?_⟩
  · exact ferrySails_of_agrees (hjson _ hargumentsJson _) (hreadJson _) (by decide +kernel) fun _ => rfl
  · exact ferryStays_of_agrees (hjson _ hargumentsJson _) rfl
  · exact ferryStays_of_agrees (hjson _ hargumentsJson _) hmisnamed
  · exact ferrySails_of_agrees (hyaml _ hargumentsYaml _) hreadYaml (by decide +kernel) fun _ => rfl
  · exact ferryStays_of_agrees (hyaml _ hargumentsYaml _) rfl

end Command

end SwaggerService
