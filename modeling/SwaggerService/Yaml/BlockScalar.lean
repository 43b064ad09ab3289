import SwaggerService.Yaml.Cursor

/-! # Block scalars

A block scalar holds the lines that are indented below its header. A literal one keeps its line breaks, a
folded one joins neighbouring lines. The header may fix the indentation and say what becomes of the line
breaks at the end. -/

namespace SwaggerService.Yaml

/-- What becomes of the line breaks at the end: none, one, or all of them are kept. -/
inductive Chomping where
  | strip | clip | keep
  deriving DecidableEq, Repr

/-- The header of a block scalar. -/
structure BlockHeader where
  literal : Bool
  chomping : Chomping
  indentation : Option Nat
  deriving DecidableEq, Repr

/-- A sign of chomping. -/
def chomping? (c : Cursor) : Option Chomping :=
  if c.sees '+' then some .keep else if c.sees '-' then some .strip else none

/-- A digit of indentation; zero is refused. -/
def indentation? (c : Cursor) : Option (Option Nat × Cursor) :=
  match c.ahead? 0 with
  | some x =>
    if x = '0' then none
    else if x.isDigit then some (some (x.toNat - 48), c.skip 1)
    else some (none, c)
  | none => some (none, c)

/-- Reads a header up to the start of the next line; its two signs stand in either order. -/
def blockHeader? (c : Cursor) : Option (BlockHeader × Cursor) := do
  let literal := c.sees '|'
  let c := c.skip 1
  match chomping? c with
  | some chomping => do
    let (indentation, c) ← indentation? (c.skip 1)
    return (⟨literal, chomping, indentation⟩, ← c.skipLineEnd?)
  | none => do
    let (indentation, c) ← indentation? c
    match indentation, chomping? c with
    | some n, some chomping => return (⟨literal, chomping, some n⟩, ← (c.skip 1).skipLineEnd?)
    | indentation, _ => return (⟨literal, .clip, indentation⟩, ← c.skipLineEnd?)

/-- Takes empty lines and the indentation of the next line. With an indentation of zero, which is still
unknown, all blanks in front of a line belong to it, and the widest of them is given back. The fuel is
the number of characters that may be taken. -/
def blockBreaks (indentation : Nat) :
    Nat → List Char → Nat → Cursor → Option (List Char × Nat × Cursor)
  | 0, breaks, widest, c => some (breaks, widest, c)
  | fuel + 1, breaks, widest, c =>
    let inside := indentation = 0 || c.column < indentation
    if inside && c.sees ' ' then blockBreaks indentation fuel breaks widest (c.skip 1)
    else
      let widest := max widest c.column
      if inside && c.sees '\t' then none
      else if c.looksAt isBreak then
        let (text, next) := c.lineBreak
        blockBreaks indentation fuel (breaks ++ text) widest next
      else some (breaks, widest, c)

/-- The state of reading lines: the text, newest first, the line break behind the last line, the empty
lines after it, and whether the last line began with a blank. -/
structure BlockLines where
  done : List Char := []
  lastBreak : List Char := []
  breaks : List Char := []
  indented : Bool := false

/-- Enters a line. The break before it is folded into a blank when neither line begins with a blank,
unless empty lines stand between them. -/
def BlockLines.enter (l : BlockLines) (literal : Bool) (line lineBreak : List Char) : BlockLines :=
  let indented := line.head?.any isBlank
  let joint :=
    if !literal && l.lastBreak == ['\n'] && !l.indented && !indented then
      if l.breaks.isEmpty then [' '] else []
    else l.lastBreak
  { done := line.reverse ++ (l.breaks.reverse ++ (joint.reverse ++ l.done))
    lastBreak := lineBreak, breaks := [], indented }

/-- Reads the lines of a block scalar. The fuel is the number of lines that may be taken. -/
def blockLines (literal : Bool) (indentation : Nat) :
    Nat → BlockLines → Cursor → Option (BlockLines × Cursor)
  | 0, l, c => some (l, c)
  | fuel + 1, l, c =>
    if c.column == indentation && !c.rest.isEmpty then do
      let (line, c) := c.span (fun x => !isBreak x)
      let (lineBreak, c) := c.lineBreak
      let l := l.enter literal line lineBreak
      let (breaks, _, c) ← blockBreaks indentation c.left [] 0 c
      blockLines literal indentation fuel { l with breaks } c
    else some (l, c)

/-- Reads a block scalar below a level of indentation, which is negative at the top. -/
def blockScalar? (level : Int) (c : Cursor) : Option (List Char × Cursor) := do
  let (header, c) ← blockHeader? c
  let fixed := (header.indentation.map fun n => (max level 0).toNat + n).getD 0
  let (breaks, widest, c) ← blockBreaks fixed c.left [] 0 c
  let indentation := if fixed = 0 then max (max widest (level + 1).toNat) 1 else fixed
  let (l, c) ← blockLines header.literal indentation c.left { breaks } c
  let ending :=
    match header.chomping with
    | .strip => []
    | .clip => l.lastBreak
    | .keep => l.lastBreak ++ l.breaks
  return (l.done.reverse ++ ending, c)

end SwaggerService.Yaml
