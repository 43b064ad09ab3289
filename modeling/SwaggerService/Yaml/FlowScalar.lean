import SwaggerService.Json.Token
import SwaggerService.Yaml.Cursor

/-! # Quoted and plain scalars

Between quotes or without them, a scalar may go on over several lines; the line breaks between its pieces
are folded. -/

namespace SwaggerService.Yaml

/-- The character that a letter behind a backslash stands for. -/
def escapedChar? (c : Char) : Option Char :=
  if c = '0' then some (Char.ofNat 0x00)
  else if c = 'a' then some (Char.ofNat 0x07)
  else if c = 'b' then some (Char.ofNat 0x08)
  else if c = 't' || c = '\t' then some '\t'
  else if c = 'n' then some '\n'
  else if c = 'v' then some (Char.ofNat 0x0b)
  else if c = 'f' then some (Char.ofNat 0x0c)
  else if c = 'r' then some '\r'
  else if c = 'e' then some (Char.ofNat 0x1b)
  else if c = ' ' || c = '"' || c = '/' || c = '\\' then some c
  else if c = 'N' then some (Char.ofNat 0x85)
  else if c = '_' then some (Char.ofNat 0xa0)
  else if c = 'L' then some (Char.ofNat 0x2028)
  else if c = 'P' then some (Char.ofNat 0x2029)
  else none

/-- How many hexadecimal digits follow a letter behind a backslash. -/
def hexLength? (c : Char) : Option Nat :=
  if c = 'x' then some 2 else if c = 'u' then some 4 else if c = 'U' then some 8 else none

/-- The character of a code that is neither a surrogate nor too large. -/
def codeChar? (code : Nat) : Option Char :=
  if (0xd800 ≤ code && code ≤ 0xdfff) || 0x10ffff < code then none else some (Char.ofNat code)

/-- The character of an escape and how many characters the escape takes, its backslash included. -/
def escape? : List Char → Option (Char × Nat)
  | '\\' :: letter :: rest =>
    match hexLength? letter with
    | some length => do
      let digits ← (rest.take length).mapM Json.hexValue?
      if digits.length < length then none
      return (← codeChar? (digits.foldl (fun n d => n * 16 + d) 0), length + 2)
    | none => (escapedChar? letter).map fun c => (c, 2)
  | _ => none

/-- Reads a quoted scalar behind its opening quote. The text already read is newest first. The fuel is the
number of characters that may be taken. -/
def quotedBody (quote : Char) : Nat → List Char → Cursor → Option (List Char × Cursor)
  | 0, _, _ => none
  | fuel + 1, done, c =>
    if c.atDocumentMarker then none
    else
      match c.rest with
      | [] => none
      | x :: rest =>
        if x = quote then
          if quote = '\'' && rest.head? = some '\'' then
            quotedBody quote fuel ('\'' :: done) (c.skip 2)
          else some (done.reverse, c.skip 1)
        else if x = '\\' && quote = '"' then
          if rest.head?.any isBreak then do
            let (gap, next) ← takeGap 0 fuel (.broken [] []) (c.skip 1).lineBreak.2
            quotedBody quote fuel (gap.folded.reverse ++ done) next
          else do
            let (escaped, taken) ← escape? c.rest
            quotedBody quote fuel (escaped :: done) (c.skip taken)
        else if isBlank x || isBreak x then do
          let (gap, next) ← takeGap 0 fuel (.blanks []) c
          quotedBody quote fuel (gap.folded.reverse ++ done) next
        else quotedBody quote fuel (x :: done) (c.skip 1)

/-- Reads a quoted scalar. -/
def quoted? (quote : Char) (c : Cursor) : Option (List Char × Cursor) :=
  quotedBody quote c.left [] (c.skip 1)

/-- Whether a character stands for structure inside a flow collection. -/
def isFlowIndicator (c : Char) : Bool :=
  c = ',' || c = '[' || c = ']' || c = '\x7b' || c = '\x7d'

/-- The characters of a plain scalar up to the next gap or indicator. A colon before a structure
character of a flow collection is refused. -/
def plainRun (flow : Bool) : List Char → Option (List Char)
  | [] => some []
  | x :: rest =>
    if isBlank x || isBreak x then some []
    else if flow && x = ':' && rest.head?.any (fun y => isFlowIndicator y || y = '?') then none
    else if x = ':' && rest.head?.all (fun y => isBlank y || isBreak y) then some []
    else if flow && isFlowIndicator x then some []
    else (plainRun flow rest).map (x :: ·)

/-- Reads a plain scalar: its text, whether a line broke behind it, and the cursor there. The text already
read is newest first and followed by a gap. Lines that go on must stand at the column `margin` or behind
it, except in flow collections. The fuel is the number of characters that may be taken. -/
def plainBody (flow : Bool) (margin : Nat) :
    Nat → List Char → Gap → Cursor → Option (List Char × Bool × Cursor)
  | 0, done, gap, c => some (done.reverse, gap.isBroken, c)
  | fuel + 1, done, gap, c =>
    if c.atDocumentMarker || c.sees '#' then some (done.reverse, gap.isBroken, c)
    else do
      let run ← plainRun flow c.rest
      let (done, gap) :=
        if run.isEmpty then (done, gap)
        else (run.reverse ++ (gap.folded.reverse ++ done), .blanks [])
      let c := c.skip run.length
      if c.looksAt isBlank || c.looksAt isBreak then
        let (gap, c) ← takeGap margin fuel gap c
        if !flow && c.column < margin then return (done.reverse, gap.isBroken, c)
        plainBody flow margin fuel done gap c
      else return (done.reverse, gap.isBroken, c)

/-- Reads a plain scalar, and tells whether a line broke behind it. -/
def plain? (flow : Bool) (margin : Nat) (c : Cursor) : Option (List Char × Bool × Cursor) :=
  plainBody flow margin c.left [] (.blanks []) c

end SwaggerService.Yaml
