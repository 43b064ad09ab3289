import SwaggerService.Yaml.BlockScalar
import SwaggerService.Yaml.FlowScalar
import SwaggerService.Yaml.Tag

/-! # The tokens of a YAML text

Tokens are only ever appended. That a key began somewhere is known when its colon is met; the tokens that
announce it are kept apart, at the place where the key began, and spliced in at the end. -/

namespace SwaggerService.Yaml

/-- A token, and the tokens that were found to belong before it. -/
structure Slot where
  before : List Token
  token : Token
  deriving Repr

/-- A place where a key may have begun: the number of its first token and its position. At a required one
nothing but a key can stand. -/
structure KeyPlace where
  required : Bool
  slot : Nat
  left : Nat
  line : Nat
  column : Nat
  deriving Repr

/-- The state of reading tokens. The indentation is negative outside of block collections; the places of
keys are those of the open flow collections, innermost first, and of the block around them. -/
structure Scan where
  cursor : Cursor
  slots : Array Slot := #[]
  indent : Int := -1
  indents : List Int := []
  flow : Nat := 0
  keyAllowed : Bool := true
  keys : List (Option KeyPlace) := [none]

namespace Scan

/-- Whether a flow collection is open. -/
def inFlow (s : Scan) : Bool := s.flow != 0

/-- Appends a token. -/
def emit (s : Scan) (t : Token) : Scan := { s with slots := s.slots.push ⟨[], t⟩ }

/-- Puts a token before the one of a number. -/
def insert (s : Scan) (slot : Nat) (t : Token) : Scan :=
  { s with slots := s.slots.modify slot fun x => { x with before := t :: x.before } }

/-- Appends a token and goes on by some characters. -/
def take (s : Scan) (t : Token) (places : Nat) : Scan :=
  { s.emit t with cursor := s.cursor.skip places }

/-- Goes to a deeper indentation. -/
def indentTo (s : Scan) (column : Nat) : Scan :=
  { s with indent := column, indents := s.indent :: s.indents }

/-- Whether a column lies deeper than the open block collections. -/
def opensBlock (s : Scan) (column : Nat) : Bool := !s.inFlow && s.indent < column

/-- Opens a block collection at the current column, if none is open there. -/
def openBlock (s : Scan) (start : Token) : Scan :=
  let column := s.cursor.column
  if s.opensBlock column then (s.indentTo column).emit start else s

/-- Opens a block mapping where its first key began, if none is open there. -/
def openBlockAt (s : Scan) (place : KeyPlace) : Scan :=
  if s.opensBlock place.column then
    (s.indentTo place.column).insert place.slot .blockMappingStart
  else s

/-- The end of each block collection that lies deeper than a column. -/
def closeIndents (column : Int) : List Int → Int → Array Slot → List Int × Int × Array Slot
  | [], indent, slots => ([], indent, slots)
  | outer :: rest, indent, slots =>
    if column < indent then closeIndents column rest outer (slots.push ⟨[], .blockEnd⟩)
    else (outer :: rest, indent, slots)

/-- Closes the block collections that lie deeper than a column. -/
def closeBlocks (s : Scan) (column : Int) : Scan :=
  if s.inFlow then s
  else
    let (indents, indent, slots) := closeIndents column s.indents s.indent s.slots
    { s with indents, indent, slots }

/-- Whether a place can still turn out to be that of a key: keys lie on one line and are short. -/
def isFresh (s : Scan) (place : KeyPlace) : Bool :=
  s.cursor.line ≤ place.line && place.left ≤ s.cursor.left + 1024

/-- Forgets the places where no key can have begun; a required one must not be among them. -/
def forgetStale (s : Scan) : Option Scan := do
  let keys ← s.keys.mapM fun key =>
    match key with
    | some place => if s.isFresh place then some key else if place.required then none else some none
    | none => some none
  return { s with keys }

/-- Forgets the place of the innermost collection, unless a key is required there. -/
def forgetKey (s : Scan) : Option Scan :=
  match s.keys with
  | some place :: rest => if place.required then none else some { s with keys := none :: rest }
  | _ => some s

/-- Notes that a key may begin here. -/
def noteKey (s : Scan) : Option Scan :=
  if s.keyAllowed then do
    let c := s.cursor
    let place : KeyPlace :=
      { required := !s.inFlow && s.indent == c.column, slot := s.slots.size, left := c.left
        line := c.line, column := c.column }
    let s ← s.forgetKey
    return { s with keys := some place :: s.keys.drop 1 }
  else some s

/-- Skips blanks, comments and line breaks. Tabs do not count as blanks where a key may begin in a block.
The fuel is the number of lines that may be skipped. -/
def skipGap : Nat → Scan → Scan
  | 0, s => s
  | fuel + 1, s =>
    let c := s.cursor
    let c := if c.column == 0 && c.looksAt isByteOrderMark then c.skip 1 else c
    let tabs := s.inFlow || !s.keyAllowed
    let c := (c.skipWhile fun x => x = ' ' || (tabs && x = '\t')).skipComment
    if c.looksAt isBreak then
      skipGap fuel { s with cursor := c.lineBreak.2, keyAllowed := s.keyAllowed || !s.inFlow }
    else { s with cursor := c }

/-! ## Single tokens -/

/-- The end of the text. -/
def streamEnd (s : Scan) : Option Scan := do
  let s ← (s.closeBlocks (-1)).forgetKey
  return s.emit .streamEnd

/-- A directive. -/
def directive (s : Scan) : Option Scan := do
  let s ← (s.closeBlocks (-1)).forgetKey
  let (token, cursor) ← directive? s.cursor
  return { s.emit token with cursor, keyAllowed := false }

/-- The start or the end of a document. -/
def documentMarker (s : Scan) (t : Token) : Option Scan := do
  let s ← (s.closeBlocks (-1)).forgetKey
  return { s with keyAllowed := false }.take t 3

/-- The start of a flow collection, which may be a key. -/
def flowStart (s : Scan) (t : Token) : Option Scan := do
  let s ← s.noteKey
  return { s with flow := s.flow + 1, keys := none :: s.keys, keyAllowed := true }.take t 1

/-- The end of a flow collection. -/
def flowEnd (s : Scan) (t : Token) : Option Scan := do
  let s ← s.forgetKey
  let s := if s.inFlow then { s with flow := s.flow - 1, keys := s.keys.drop 1 } else s
  return { s with keyAllowed := false }.take t 1

/-- A comma between the entries of a flow collection. -/
def flowEntry (s : Scan) : Option Scan := do
  let s ← s.forgetKey
  return { s with keyAllowed := true }.take .flowEntry 1

/-- The dash of an entry of a block sequence. -/
def blockEntry (s : Scan) : Option Scan := do
  if !s.inFlow && !s.keyAllowed then none
  let s ← (s.openBlock .blockSequenceStart).forgetKey
  return { s with keyAllowed := true }.take .blockEntry 1

/-- The mark of a key that is no simple one. -/
def complexKey (s : Scan) : Option Scan := do
  if !s.inFlow && !s.keyAllowed then none
  let s ← (s.openBlock .blockMappingStart).forgetKey
  return { s with keyAllowed := !s.inFlow }.take .key 1

/-- The colon before a value, behind a simple key or by itself. -/
def value (s : Scan) : Option Scan :=
  match s.keys with
  | some place :: rest =>
    let s := (s.insert place.slot .key).openBlockAt place
    some ({ s with keys := none :: rest, keyAllowed := false }.take .value 1)
  | _ =>
    if !s.inFlow && !s.keyAllowed then none
    else
      let s := s.openBlock .blockMappingStart
      some ({ s with keyAllowed := !s.inFlow }.take .value 1)

/-- A token at which a key may begin but within which none can. -/
def atom (s : Scan) (read : Cursor → Option (Token × Cursor)) : Option Scan := do
  let s ← s.noteKey
  let (token, cursor) ← read s.cursor
  return { s.emit token with cursor, keyAllowed := false }

/-- An alias. -/
def aliasTo (s : Scan) : Option Scan :=
  s.atom fun c => (anchorName? c).map fun (name, c) => (.aliasTo name, c)

/-- An anchor. -/
def anchor (s : Scan) : Option Scan :=
  s.atom fun c => (anchorName? c).map fun (name, c) => (.anchor name, c)

/-- A quoted scalar. -/
def quoted (s : Scan) (quote : Char) : Option Scan :=
  s.atom fun c => (quoted? quote c).map fun (text, c) => (.scalar false text, c)

/-- A block scalar. -/
def block (s : Scan) : Option Scan := do
  let s ← s.forgetKey
  let (text, cursor) ← blockScalar? s.indent s.cursor
  return { s.emit (.scalar false text) with cursor, keyAllowed := true }

/-- A plain scalar. Behind a line break a key may begin. -/
def plain (s : Scan) : Option Scan := do
  let s ← s.noteKey
  let (text, broken, cursor) ← plain? s.inFlow (s.indent + 1).toNat s.cursor
  return { s.emit (.scalar true text) with cursor, keyAllowed := broken }

/-- Whether a plain scalar may begin here. -/
def startsPlain (s : Scan) : Bool :=
  let c := s.cursor
  (!c.atGap && !c.looksAt fun x => "-?:,[]\x7b\x7d#&*!|>'\"%@\x60".toList.contains x)
    || (c.sees '-' && !c.looksAt isBlank 1)
    || (!s.inFlow && (c.sees '?' || c.sees ':') && !c.atGap 1)

/-- Reads the token that comes next, which is not the end of the text. -/
def token (s : Scan) : Option Scan :=
  let c := s.cursor
  if c.column == 0 && c.sees '%' then s.directive
  else if c.atMarker '-' then s.documentMarker .documentStart
  else if c.atMarker '.' then s.documentMarker .documentEnd
  else if c.sees '[' then s.flowStart .flowSequenceStart
  else if c.sees '\x7b' then s.flowStart .flowMappingStart
  else if c.sees ']' then s.flowEnd .flowSequenceEnd
  else if c.sees '\x7d' then s.flowEnd .flowMappingEnd
  else if c.sees ',' then s.flowEntry
  else if c.sees '-' && c.atGap 1 then s.blockEntry
  else if c.sees '?' && (s.inFlow || c.atGap 1) then s.complexKey
  else if c.sees ':' && (s.inFlow || c.atGap 1) then s.value
  else if c.sees '*' then s.aliasTo
  else if c.sees '&' then s.anchor
  else if c.sees '!' then s.atom (tag? s.inFlow)
  else if (c.sees '|' || c.sees '>') && !s.inFlow then s.block
  else if c.sees '\'' then s.quoted '\''
  else if c.sees '"' then s.quoted '"'
  else if s.startsPlain then s.plain
  else none

/-- Reads tokens to the end of the text. The fuel is the number of tokens that may be read. -/
def run : Nat → Scan → Option Scan
  | 0, _ => none
  | fuel + 1, s => do
    let s ← (skipGap (fuel + 1) s).forgetStale
    let s := s.closeBlocks s.cursor.column
    if s.cursor.rest.isEmpty then s.streamEnd
    else run fuel (← s.token)

end Scan

/-- The tokens of a text. -/
def tokens? (text : List Char) : Option (List Token) := do
  let s ← Scan.run (text.length + 1) { cursor := { rest := text } }
  return s.slots.toList.flatMap fun slot => slot.before ++ [slot.token]

end SwaggerService.Yaml
