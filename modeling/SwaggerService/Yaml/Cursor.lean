/-! # Positions in a YAML text

A cursor is the rest of a text together with its length, its line and its column. A line ends at a line
feed, a carriage return, both in a row, a next-line character, or a line or paragraph separator. -/

namespace SwaggerService.Yaml

/-- Whether a character ends a line. -/
def isBreak (c : Char) : Bool :=
  c = '\n' || c = '\r' || c.toNat = 0x85 || c.toNat = 0x2028 || c.toNat = 0x2029

/-- Whether a character is a blank inside a line. -/
def isBlank (c : Char) : Bool := c = ' ' || c = '\t'

/-- Whether a character may occur in names of anchors, handles and directives. -/
def isWordChar (c : Char) : Bool := c.isAlphanum || c = '_' || c = '-'

/-- Whether a character may occur in a text at all. -/
def isAllowed (c : Char) : Bool :=
  let code := c.toNat
  code == 0x09 || code == 0x0a || code == 0x0d || (0x20 ≤ code && code ≤ 0x7e) || code == 0x85
    || (0xa0 ≤ code && code ≤ 0xd7ff) || (0xe000 ≤ code && code ≤ 0xfffd) || 0x10000 ≤ code

/-- The mark that may stand at the start of a text or of a line. -/
def isByteOrderMark (c : Char) : Bool := c.toNat == 0xfeff

/-- A position in a text, before the `left` characters that remain of it. -/
structure Cursor where
  rest : List Char
  left : Nat := rest.length
  line : Nat := 0
  column : Nat := 0
  deriving Repr

namespace Cursor

/-- The character so many places ahead. -/
def ahead? (c : Cursor) (places : Nat) : Option Char := c.rest[places]?

/-- Whether a character stands so many places ahead. -/
def sees (c : Cursor) (x : Char) (places : Nat := 0) : Bool := c.ahead? places == some x

/-- Whether the character so many places ahead has a property. -/
def looksAt (c : Cursor) (p : Char → Bool) (places : Nat := 0) : Bool := (c.ahead? places).any p

/-- Whether a blank, a line break or the end stands so many places ahead. -/
def atGap (c : Cursor) (places : Nat := 0) : Bool :=
  (c.ahead? places).all fun x => isBlank x || isBreak x

/-- Whether a line break or the end comes next. -/
def atLineEnd (c : Cursor) : Bool := (c.ahead? 0).all isBreak

/-- Goes on by some characters of the same line. -/
def skip (c : Cursor) (places : Nat) : Cursor :=
  { c with rest := c.rest.drop places, left := c.left - places, column := c.column + places }

/-- Takes characters of the same line as long as they have a property. -/
def span (c : Cursor) (p : Char → Bool) : List Char × Cursor :=
  let taken := c.rest.takeWhile p
  (taken, c.skip taken.length)

/-- Skips characters of the same line as long as they have a property. -/
def skipWhile (c : Cursor) (p : Char → Bool) : Cursor := (c.span p).2

/-- Goes to the start of the next line, over a line break of some characters. -/
def newLine (c : Cursor) (places : Nat) : Cursor :=
  { rest := c.rest.drop places, left := c.left - places, line := c.line + 1, column := 0 }

/-- Takes a line break, if one comes next. It counts as a line feed, separators apart. -/
def lineBreak (c : Cursor) : List Char × Cursor :=
  match c.rest with
  | '\r' :: '\n' :: _ => (['\n'], c.newLine 2)
  | x :: _ =>
    if x.toNat = 0x2028 || x.toNat = 0x2029 then ([x], c.newLine 1)
    else if isBreak x then (['\n'], c.newLine 1)
    else ([], c)
  | [] => ([], c)

/-- Skips a comment, if one comes next. -/
def skipComment (c : Cursor) : Cursor :=
  if c.sees '#' then c.skipWhile (fun x => !isBreak x) else c

/-- Skips blanks and a comment up to the end of the line, and the line break. -/
def skipLineEnd? (c : Cursor) : Option Cursor :=
  let c := (c.skipWhile isBlank).skipComment
  if c.atLineEnd then some c.lineBreak.2 else none

/-- Whether a line of three equal marks, which begins or ends a document, comes next. -/
def atMarker (c : Cursor) (mark : Char) : Bool :=
  c.column == 0 && c.sees mark && c.sees mark 1 && c.sees mark 2 && c.atGap 3

/-- Whether the start or the end of a document comes next. -/
def atDocumentMarker (c : Cursor) : Bool := c.atMarker '-' || c.atMarker '.'

end Cursor

/-! ## Gaps -/

/-- What stands between two pieces of a text: blanks of one line, or line breaks, of which the first is
kept apart. -/
inductive Gap where
  | blanks (blanks : List Char)
  | broken (first : List Char) (others : List Char)
  deriving DecidableEq, Repr

namespace Gap

/-- What a gap stands for. A single line break becomes a blank, and of several ones the first is
dropped. A first separator is kept. -/
def folded : Gap → List Char
  | .blanks cs => cs
  | .broken ['\n'] [] => [' ']
  | .broken ['\n'] others => others
  | .broken first others => first ++ others

/-- Whether a gap has line breaks. -/
def isBroken : Gap → Bool
  | .blanks _ => false
  | .broken _ _ => true

end Gap

/-- Takes the blanks and line breaks that come next, after those already taken. Blanks at the start of a
line are dropped; a tab among them must not stand before the column `margin`. The fuel is the number of
characters that may be taken. -/
def takeGap (margin : Nat) : Nat → Gap → Cursor → Option (Gap × Cursor)
  | 0, gap, c => some (gap, c)
  | fuel + 1, gap, c =>
    match c.ahead? 0 with
    | none => some (gap, c)
    | some x =>
      if isBlank x then
        match gap with
        | .blanks cs =>
          let (run, next) := c.span isBlank
          takeGap margin fuel (.blanks (cs ++ run)) next
        | .broken first others =>
          if x = '\t' && c.column < margin then none
          else takeGap margin fuel (.broken first others) (c.skip 1)
      else if isBreak x then
        let (text, next) := c.lineBreak
        match gap with
        | .blanks _ => takeGap margin fuel (.broken text []) next
        | .broken first others => takeGap margin fuel (.broken first (others ++ text)) next
      else some (gap, c)

end SwaggerService.Yaml
