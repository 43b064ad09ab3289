import SwaggerService.Command.Arguments
import SwaggerService.Command.Disk
import SwaggerService.Command.Summary
import SwaggerService.Describe
import SwaggerService.Load
import SwaggerService.Service.Written

/-! # The command

The command reads a document, describes its service and shows a summary or the whole description, which
it can also write to a file. Nothing is written unless the description is complete. With `--json` only
the description itself goes to the standard output. -/

namespace SwaggerService.Command

/-- Why a request failed: the step that failed, and the causes behind it. -/
structure Failure where
  step : String
  causes : List String
  deriving DecidableEq, Repr

/-- What a run gives back. Events are kept apart from what goes to the standard error. -/
structure Report where
  code : Nat
  stdout : String
  events : List Event
  failure : Option Failure

/-- Breaks a text into lines. -/
def splitLines (text : String) : List String := (text.toList.splitOn '\n').map String.ofList

/-- A cause with its lines indented; one of several causes has its number in front. -/
def causeText (number : Option Nat) (cause : String) : String :=
  match number with
  | none => "    " ++ "\n    ".intercalate (splitLines cause)
  | some n =>
    let digits := toString n
    let padding := String.ofList (List.replicate (5 - digits.length) ' ')
    padding ++ digits ++ ": " ++ "\n       ".intercalate (splitLines cause)

/-- The causes of a failure, numbered if there are several. -/
def causeTexts : List String → List String
  | [cause] => [causeText none cause]
  | causes => causes.zipIdx.map fun (cause, n) => causeText (some n) cause

/-- What is printed of a failure. -/
def Failure.text (f : Failure) : String :=
  "Error: " ++ f.step ++ "\n\nCaused by:\n" ++ "\n".intercalate (causeTexts f.causes) ++ "\n"

/-- A failure of a step by a fault of the document. -/
def Failure.ofFault (step : String) (fault : Fault) : Failure :=
  ⟨step, fault.message :: fault.cause?.toList⟩

/-- A failure of a step on a file. -/
def Failure.ofFile (step path : String) (fault : FileFault) : Failure :=
  ⟨step ++ " " ++ path, [fault.message]⟩

/-- The description of a service as it is printed and written. -/
def render (s : Service) : String := s.encode.pretty

/-- The format that the command takes a file to have, by the extension of its name. -/
def detectFormat (path : String) : Format :=
  match (extension? path).map String.ofList with
  | some "yaml" | some "yml" => .yaml
  | _ => .json

namespace Request

/-- The format of the document: the one asked for, or else by the name of the file. -/
def formatUsed (r : Request) : Format := r.format.getD (detectFormat r.spec)

/-- The limit of nesting. -/
def depth (r : Request) : Nat := r.maxDepth.getD defaultMaxDepth

/-- A progress line, which `--json` keeps back. -/
def progress (r : Request) (parts : List String) : String := if r.json then "" else line parts

/-- What is printed before the document is read. -/
def opening (r : Request) : String :=
  r.progress ["→ Parsing spec file: ", r.spec] ++
    if r.format.isNone then r.progress ["→ Auto-detected format: ", r.formatUsed.name] else ""

/-- Describes the service of a document, and tells what was noted. -/
def describe (r : Request) (content : Except FileFault String) :
    Except Failure Service × List Event :=
  match content with
  | .error fault => (.error (.ofFile "Failed to read" r.spec fault), [])
  | .ok text =>
    match Loaded.ofText r.formatUsed text with
    | .error fault => (.error (.ofFault "Failed to load Swagger document" fault), [])
    | .ok l =>
      let (result, events) := l.describeLogged r.depth
      (result.mapError (Failure.ofFault "Failed to parse Swagger document"),
        l.loadEvents ++ .loaded r.formatUsed r.depth :: events)

/-- What is printed of a service at the end. -/
def closing (r : Request) (s : Service) : String :=
  if r.json then render s ++ "\n" else summary r.verbose s

/-- Carries out the request. -/
def run {m : Type → Type} [Monad m] (files : Files m) (r : Request) : m Report := do
  let (result, events) := r.describe (← files.read r.spec)
  match result with
  | .error failure => return ⟨1, r.opening, events, some failure⟩
  | .ok service =>
    match r.output with
    | none => return ⟨0, r.opening ++ r.closing service, events, none⟩
    | some path =>
      match ← files.write path (render service) with
      | .error fault =>
        return ⟨1, r.opening, events, some (.ofFile "Failed to write" path fault)⟩
      | .ok () =>
        let written := r.progress ["✓ Wrote IR to ", path]
        return ⟨0, r.opening ++ written ++ r.closing service, events, none⟩

end Request

/-- The name and the version of the program. -/
def versionLine : String := "swagger-ir 0.1.0\n"

/-- How the program is used. -/
def usage : String :=
  "Usage: swagger-ir [-v] parse --spec <SPEC> [--format json|yaml] [--output <OUTPUT>]\n" ++
    "                             [--max-depth <N>] [--json]\n"

/-- Runs the program on its arguments. Arguments that cannot be understood give the code 2. -/
def run {m : Type → Type} [Monad m] (files : Files m) (arguments : List String) : m Report :=
  match Invocation.ofArguments? arguments with
  | some (.parse request) => request.run files
  | some .version => return ⟨0, versionLine, [], none⟩
  | some .help => return ⟨0, usage, [], none⟩
  | none => return ⟨2, "", [], none⟩

/-- Whether the arguments ask for more detail. -/
def isVerbose (arguments : List String) : Bool :=
  match Invocation.ofArguments? arguments with
  | some (.parse request) => request.verbose
  | _ => false

/-- The lines of the events that matter: warnings, and all others when more detail is wanted. -/
def logText (verbose : Bool) (events : List Event) : String :=
  String.join ((events.filter fun e => verbose || e.level == .warn).map Event.line)

/-- What goes to the standard error: the log, if there is one, and the failure. -/
def Report.stderr (r : Report) (logging verbose : Bool) : String :=
  (if logging then logText verbose r.events else "") ++ (r.failure.map Failure.text).getD ""

end SwaggerService.Command
