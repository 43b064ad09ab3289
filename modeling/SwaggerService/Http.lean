import SwaggerService.Decode.Scalar

/-! # HTTP vocabulary

The verbs of operations, the places where a parameter travels and the ways to join the items of an array
in one parameter. -/

namespace SwaggerService

/-- The verb of an operation. -/
inductive Verb where
  | get | put | post | delete | options | head | patch
  deriving DecidableEq, Repr, Inhabited

/-- Where a parameter travels. -/
inductive Location where
  | query | header | path | formData | body
  deriving DecidableEq, Repr, Inhabited

/-- How the items of an array are joined; `multi` repeats the key instead. -/
inductive CollectionFormat where
  | csv | ssv | tsv | pipes | multi
  deriving DecidableEq, Repr, Inhabited

namespace Verb

/-- Every verb. -/
def all : List Verb := [.get, .put, .post, .delete, .options, .head, .patch]

/-- The key of a verb in a path item. -/
def key : Verb → String
  | .get => "get"
  | .put => "put"
  | .post => "post"
  | .delete => "delete"
  | .options => "options"
  | .head => "head"
  | .patch => "patch"

/-- The verb in capitals. -/
def capitals : Verb → String
  | .get => "GET"
  | .put => "PUT"
  | .post => "POST"
  | .delete => "DELETE"
  | .options => "OPTIONS"
  | .head => "HEAD"
  | .patch => "PATCH"

/-- The verb of a key; other keys of a path item have none. -/
def ofKey? (key : String) : Option Verb := all.find? fun verb => verb.key == key

/-- Reads a verb. -/
def decode (payload : Decode.Payload) : Decoder Verb :=
  Decode.enumeration (all.map fun verb => (verb.key, verb)) none payload

theorem ofKey?_key (verb : Verb) : ofKey? verb.key = some verb := by
  cases verb <;> decide

theorem key_of_ofKey? {key : String} {verb : Verb} (h : ofKey? key = some verb) : verb.key = key := by
  simpa using List.find?_some h

end Verb

namespace Location

/-- Every location. -/
def all : List Location := [.query, .header, .path, .formData, .body]

/-- The name of a location. -/
def key : Location → String
  | .query => "query"
  | .header => "header"
  | .path => "path"
  | .formData => "formData"
  | .body => "body"

/-- Whether arrays are flattened into one delimited text there. -/
def isDelimited : Location → Bool
  | .query | .header | .path => true
  | .formData | .body => false

/-- Reads a location. -/
def decode (payload : Decode.Payload) : Decoder Location :=
  Decode.enumeration (all.map fun location => (location.key, location)) none payload

end Location

namespace CollectionFormat

/-- Every format. -/
def all : List CollectionFormat := [.csv, .ssv, .tsv, .pipes, .multi]

/-- The name of a format. -/
def key : CollectionFormat → String
  | .csv => "csv"
  | .ssv => "ssv"
  | .tsv => "tsv"
  | .pipes => "pipes"
  | .multi => "multi"

/-- The text between two items, if they share one value. -/
def separator? : CollectionFormat → Option String
  | .csv => some ","
  | .ssv => some " "
  | .tsv => some "\t"
  | .pipes => some "|"
  | .multi => none

/-- Reads a format. -/
def decode (payload : Decode.Payload) : Decoder CollectionFormat :=
  Decode.enumeration (all.map fun format => (format.key, format)) none payload

end CollectionFormat

end SwaggerService
