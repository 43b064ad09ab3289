import SwaggerService.Event
import SwaggerService.Json.Reader
import SwaggerService.Loaded
import SwaggerService.Yaml

/-! # Loading documents

A document is read from JSON or YAML text. Files whose names end in `.yaml` or `.yml` hold YAML, all
others JSON. -/

namespace SwaggerService

/-- The last component of a path that names a file. -/
def fileName? (path : String) : Option (List Char) :=
  let components := (path.toList.splitOn '/').filter fun c => c != [] && c != ['.']
  components.getLast?.filter fun c => c != ['.', '.']

/-- The part of a file name after its last point, if something stands before that point. -/
def extension? (path : String) : Option (List Char) :=
  (fileName? path).bind fun name =>
    let reversed := name.reverse
    let tail := reversed.takeWhile (· != '.')
    if tail.length + 1 < name.length then some tail.reverse else none

/-- The format of a file, by its name. -/
def Format.ofPath (path : String) : Format :=
  if extension? path = some ['y', 'a', 'm', 'l'] || extension? path = some ['y', 'm', 'l'] then .yaml
  else .json

/-- Reads a text in one of the formats. -/
def Format.read (format : Format) (text : String) : Except Fault Json :=
  match format with
  | .json => (Json.parse text).mapError Fault.json
  | .yaml =>
    match Yaml.parse text with
    | some v => .ok v
    | none => .error .yaml

namespace Loaded

/-- Loads a document from the value that it was written as. -/
def ofJson (raw : Json) : Except Fault Loaded :=
  if (raw.field? "openapi").isSome && (raw.field? "swagger").isNone then
    .error (.document .openApi3)
  else
    match Document.decode raw with
    | .ok document => .ok { document, raw }
    | .error fault => .error (.document (.shape fault))

/-- Loads a document from a text. -/
def ofText (format : Format) (text : String) : Except Fault Loaded := do
  ofJson (← format.read text)

/-- Loads a document from the content of a file. -/
def ofFile (path : String) (content : Except FileFault String) : Except Fault Loaded :=
  match content with
  | .ok text => ofText (Format.ofPath path) text
  | .error fault => .error (.document (.file path fault))

/-- What is noted when a document is loaded: it should declare the version 2.0. -/
def loadEvents (l : Loaded) : List Event :=
  match l.document.swagger with
  | some version => if version = "2.0" then [] else [.unexpectedVersion version]
  | none => []

end Loaded

end SwaggerService
