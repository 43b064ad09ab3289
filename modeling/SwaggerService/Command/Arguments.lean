import SwaggerService.Event
import SwaggerService.Number.Natural

/-! # Arguments

The command line names a command, `parse`, and its options. An option is written in its long form or as
a letter; letters may share a dash, and a value may stand in the same argument or in the next one. An
option is given at most once on each side of the command. -/

namespace SwaggerService.Command

/-- What to do with a document. -/
structure Request where
  spec : String
  format : Option Format
  output : Option String
  maxDepth : Option Nat
  json : Bool
  verbose : Bool
  deriving DecidableEq, Repr

/-- What the command line asks for. -/
inductive Invocation where
  | version
  | help
  | parse (request : Request)
  deriving DecidableEq, Repr

/-- An option with a value. -/
inductive Setting where
  | spec | format | output | maxDepth
  deriving DecidableEq, Repr

/-- An option without a value. -/
inductive Switch where
  | json | verbose
  deriving DecidableEq, Repr

/-- An option of the command. -/
inductive Choice where
  | setting (setting : Setting)
  | switch (switch : Switch)
  | help
  deriving DecidableEq, Repr

/-- The options given so far. -/
structure Given where
  spec : Option String := none
  format : Option Format := none
  output : Option String := none
  maxDepth : Option Nat := none
  json : Bool := false
  verbose : Bool := false
  deriving DecidableEq, Repr

/-- How far reading the arguments has come: it goes on, or the invocation is clear. -/
inductive Progress where
  | given (given : Given) (rest : List String)
  | settled (invocation : Invocation)
  deriving Repr

namespace Given

/-- Sets a value, unless there is one already. -/
def fill {α : Type} (old : Option α) (new : α) : Option (Option α) :=
  if old.isSome then none else some (some new)

/-- A path that is not empty. -/
def path? (text : String) : Option String := if text.isEmpty then none else some text

/-- The format of a name. -/
def format? (text : String) : Option Format :=
  if text = "json" then some .json else if text = "yaml" then some .yaml else none

/-- Enters an option with its value. -/
def set (g : Given) (setting : Setting) (text : String) : Option Given :=
  match setting with
  | .spec => do return { g with spec := ← fill g.spec (← path? text) }
  | .format => do return { g with format := ← fill g.format (← format? text) }
  | .output => do return { g with output := ← fill g.output (← path? text) }
  | .maxDepth => do
    return { g with maxDepth := ← fill g.maxDepth (← readNatural? UInt64.size text) }

/-- Enters an option without a value. -/
def turnOn (g : Given) : Switch → Option Given
  | .json => if g.json then none else some { g with json := true }
  | .verbose => if g.verbose then none else some { g with verbose := true }

/-- The request of the options, when all that it needs is there. -/
def request? (g : Given) (verbose : Bool) : Option Request :=
  g.spec.map fun spec =>
    { spec, format := g.format, output := g.output, maxDepth := g.maxDepth, json := g.json
      verbose := g.verbose || verbose }

end Given

namespace Choice

/-- The option of a long name. -/
def ofName? (name : List Char) : Option Choice :=
  match String.ofList name with
  | "spec" => some (.setting .spec)
  | "format" => some (.setting .format)
  | "output" => some (.setting .output)
  | "max-depth" => some (.setting .maxDepth)
  | "json" => some (.switch .json)
  | "verbose" => some (.switch .verbose)
  | "help" => some .help
  | _ => none

/-- The option of a letter. -/
def ofLetter? (c : Char) : Option Choice :=
  if c = 's' then some (.setting .spec)
  else if c = 'f' then some (.setting .format)
  else if c = 'o' then some (.setting .output)
  else if c = 'v' then some (.switch .verbose)
  else if c = 'h' then some .help
  else none

end Choice

/-- Whether an argument is an option rather than a value. -/
def isOption (argument : String) : Bool :=
  match argument.toList with
  | '-' :: _ :: _ => true
  | _ => false

/-- Enters an option whose value is the next argument. -/
def takeValue (g : Given) (setting : Setting) : List String → Option Progress
  | [] => none
  | value :: rest =>
    if isOption value then none else (g.set setting value).map fun g => .given g rest

/-- Drops the sign between a letter and its value. -/
def dropEquals : List Char → List Char
  | '=' :: rest => rest
  | cs => cs

/-- Reads the letters behind a dash. The value of a letter is the rest of the argument, if there is one. -/
def letters (g : Given) (rest : List String) : List Char → Option Progress
  | [] => some (.given g rest)
  | c :: cs =>
    match Choice.ofLetter? c with
    | some (.switch switch) => (g.turnOn switch).bind fun g => letters g rest cs
    | some (.setting setting) =>
      if cs.isEmpty then takeValue g setting rest
      else (g.set setting (String.ofList (dropEquals cs))).map fun g => .given g rest
    | some .help => some (.settled .help)
    | none => none

/-- Reads a long option, with its value behind a sign or in the next argument. -/
def longOption (g : Given) (rest : List String) (cs : List Char) : Option Progress :=
  let name := cs.takeWhile (· != '=')
  match Choice.ofName? name, cs.drop name.length with
  | some (.setting setting), [] => takeValue g setting rest
  | some (.setting setting), _ :: value =>
    (g.set setting (String.ofList value)).map fun g => .given g rest
  | some (.switch switch), [] => (g.turnOn switch).map fun g => .given g rest
  | some .help, [] => some (.settled .help)
  | _, _ => none

/-- Reads one argument behind the command. -/
def argument (g : Given) (first : String) (rest : List String) : Option Progress :=
  match first.toList with
  | '-' :: '-' :: [] => if rest.isEmpty then some (.given g []) else none
  | '-' :: '-' :: name => longOption g rest name
  | '-' :: c :: cs => letters g rest (c :: cs)
  | _ => none

/-- Reads the arguments behind the command. Each step takes at least one argument, so `fuel` of their
number is enough. -/
def options (verbose : Bool) : Nat → Given → List String → Option Invocation
  | _, g, [] => (g.request? verbose).map .parse
  | 0, _, _ :: _ => none
  | fuel + 1, g, first :: rest =>
    match argument g first rest with
    | some (.given g rest) => options verbose fuel g rest
    | some (.settled invocation) => some invocation
    | none => none

/-- Reads the letters behind a dash before the command: whether `-v` is among them, or what they ask
for. -/
def leadingLetters (verbose : Bool) : List Char → Option (Bool ⊕ Invocation)
  | [] => some (.inl verbose)
  | c :: cs =>
    if c = 'v' then if verbose then none else leadingLetters true cs
    else if c = 'V' then some (.inr .version)
    else if c = 'h' then some (.inr .help)
    else none

/-- Reads the arguments, of which those before the command are general ones. -/
def readArguments (verbose : Bool) : List String → Option Invocation
  | [] => none
  | first :: rest =>
    if first = "parse" then options verbose rest.length {} rest
    else if first = "help" then if [[], ["parse"], ["help"]].contains rest then some .help else none
    else if first = "--help" then some .help
    else if first = "--version" then some .version
    else if first = "--verbose" then if verbose then none else readArguments true rest
    else
      match first.toList with
      | '-' :: c :: cs =>
        match leadingLetters verbose (c :: cs) with
        | some (.inl verbose) => readArguments verbose rest
        | some (.inr invocation) => some invocation
        | none => none
      | _ => none

/-- The invocation of a command line; nothing when it cannot be understood. -/
def Invocation.ofArguments? (arguments : List String) : Option Invocation :=
  readArguments false arguments

end SwaggerService.Command
