import SwaggerService.Text.Alphanumeric
import SwaggerService.Text.LetterCase

/-! # Words of an identifier

An identifier is split into lowercase words: at characters that are not alphanumeric, at a step from
lowercase or a digit to uppercase, and before the last capital of an acronym (`HTTPServer` has the words
`http` and `server`). The words are joined again in camel case or in Pascal case. -/

namespace SwaggerService.Naming

open Text

/-- Whether an uppercase character begins a new word inside a run of alphanumeric characters, by the
character before it and the one after it. -/
def beginsWord (before c : Char) (after : Option Char) : Bool :=
  isUppercase c &&
    (isLowercase before || before.isDigit || (isUppercase before && after.any isLowercase))

/-- Whether a word ends between a character and the alphanumeric one after it. -/
def cutBefore (before : Option Char) (c : Char) (after : Option Char) : Bool :=
  before.any fun b => beginsWord b c after

/-- Adds a finished word in front of the later ones, unless it is empty. -/
def consWord (word : List Char) (later : List (List Char)) : List (List Char) :=
  if word.isEmpty then later else word :: later

/-- The rest of the word that is open, and the words after it. `before` is the last character when it
belongs to the open word. -/
def splitWords (before : Option Char) : List Char → List Char × List (List Char)
  | [] => ([], [])
  | c :: rest =>
    if isAlphanumeric c then
      let (word, later) := splitWords (some c) rest
      if cutBefore before c rest.head? then ([], consWord (lowercase c ++ word) later)
      else (lowercase c ++ word, later)
    else
      let (word, later) := splitWords none rest
      ([], consWord word later)

/-- The lowercase words of an identifier. -/
def words (s : List Char) : List (List Char) :=
  let (word, later) := splitWords none s
  consWord word later

/-- Puts the first character of a word into uppercase. -/
def capitalize : List Char → List Char
  | [] => []
  | c :: rest => uppercase c ++ rest

/-- Joins the words of an identifier, all but the first one capitalized. -/
def camelChars (s : List Char) : List Char :=
  match words s with
  | [] => []
  | word :: later => word ++ (later.map capitalize).flatten

/-- Joins the capitalized words of an identifier. -/
def pascalChars (s : List Char) : List Char := ((words s).map capitalize).flatten

/-- The camel case form of an identifier: `postThing_body` becomes `postThingBody`. -/
def camelCase (s : String) : String := String.ofList (camelChars s.toList)

/-- The Pascal case form of an identifier: `pet store` becomes `PetStore`. -/
def pascalCase (s : String) : String := String.ofList (pascalChars s.toList)

end SwaggerService.Naming
