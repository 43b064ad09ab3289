import SwaggerService.Text.Lowercase

/-! # Singular forms

The singular of an English noun, by its ending. The ending is looked up in the lowercase form of the
word and cut off the word itself, so the letters that stay keep their case. -/

namespace SwaggerService.Naming

open Text

/-- Nouns that are the same in singular and plural. -/
def uncountable : List String :=
  ["equipment", "fish", "information", "metadata", "news", "series", "sheep", "species"]

/-- Plurals that follow no rule, with their singulars. -/
def irregular : List (String × String) :=
  [("children", "child"), ("geese", "goose"), ("men", "man"), ("mice", "mouse"),
    ("people", "person"), ("women", "woman")]

/-- How a word becomes singular. -/
inductive Inflection where
  | unchanged
  | replaced (singular : String)
  | cut (bytes : Nat) (ending : List Char)
  deriving DecidableEq, Repr

/-- Whether a text ends in a suffix. -/
def endsIn (suffix : String) (cs : List Char) : Bool := suffix.toList.isSuffixOf cs

/-- The length of a text in bytes. -/
def byteLength (cs : List Char) : Nat := cs.foldr (fun c n => c.utf8Size + n) 0

/-- The inflection of a word, read off its lowercase form. -/
def inflection (lower : List Char) : Inflection :=
  if uncountable.any (endsIn · lower) then .unchanged
  else
    match irregular.lookup (String.ofList lower) with
    | some singular => .replaced singular
    | none =>
      if endsIn "ies" lower && 4 < byteLength lower then .cut 3 ['y']
      else if ["sses", "shes", "ches", "xes", "zzes", "uses"].any (endsIn · lower) then .cut 2 []
      else if ["ss", "us", "is"].any (endsIn · lower) then .unchanged
      else if endsIn "s" lower && 1 < byteLength lower then .cut 1 []
      else .unchanged

/-- Takes whole characters from the front of a text until `bytes` bytes are taken; nothing when the text
is too short or a character reaches across the end. -/
def dropBytes? : Nat → List Char → Option (List Char)
  | 0, cs => some cs
  | _ + 1, [] => none
  | bytes + 1, c :: rest =>
    if c.utf8Size ≤ bytes + 1 then dropBytes? (bytes + 1 - c.utf8Size) rest else none
termination_by _ cs => cs.length

/-- The text without its last `bytes` bytes, if a character starts there. -/
def cutBytes? (bytes : Nat) (cs : List Char) : Option (List Char) :=
  (dropBytes? bytes cs.reverse).map List.reverse

/-- The inflected word, unless the cut would not leave a text. -/
def Inflection.inflect? (word : List Char) : Inflection → Option (List Char)
  | .unchanged => some word
  | .replaced singular => some singular.toList
  | .cut bytes ending => (cutBytes? bytes word).map (· ++ ending)

/-- The singular of a word: `categories` becomes `category`, `statuses` becomes `status`. -/
def singularize (word : String) : String :=
  let cs := word.toList
  String.ofList (((inflection (lowercaseText cs)).inflect? cs).getD cs)

end SwaggerService.Naming
