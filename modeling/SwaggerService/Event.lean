import SwaggerService.Decode.Fault
import SwaggerService.Http

/-! # Events

What is worth noting while a document is loaded and described, with the text of each note. -/

namespace SwaggerService

/-- The written form of a document. -/
inductive Format where
  | json | yaml
  deriving DecidableEq, Repr

/-- The name of a format. -/
def Format.name : Format → String
  | .json => "JSON"
  | .yaml => "YAML"

/-- How much an event matters. -/
inductive Level where
  | debug | warn
  deriving DecidableEq, Repr

/-- The name of a level. -/
def Level.name : Level → String
  | .debug => "DEBUG"
  | .warn => "WARN"

/-- Something worth noting. -/
inductive Event where
  | unexpectedVersion (version : String)
  | loaded (format : Format) (maxDepth : Nat)
  | interfaceBegun (name : String) (paths : Nat)
  | methodBegun (name : String) (verb : Verb)
  | enumNamed (name : String) (values : Nat)
  | typeNamed (name : String) (properties : Nat)
  | renamed (candidate : String) (name : String)
  | untypedDefinition (name : String)
  | untypedSchema (parent : String) (name : String)
  | shapelessTarget (reference : String) (fault : Decode.Fault)
  | described (interfaces types enums : Nat)
  deriving Repr

namespace Event

/-- How much an event matters. -/
def level : Event → Level
  | .unexpectedVersion _ | .renamed _ _ | .untypedDefinition _ | .untypedSchema _ _ => .warn
  | _ => .debug

/-- The text of an event. -/
def message : Event → String
  | .unexpectedVersion version => "unexpected swagger version, parsing as 2.0 version=" ++ version
  | .loaded format maxDepth =>
    "loaded document format=" ++ format.name ++ " options=ParseOptions \x7b max_depth: "
      ++ toString maxDepth ++ " \x7d"
  | .interfaceBegun name paths =>
    "building interface interface=" ++ name ++ " paths=" ++ toString paths
  | .methodBegun name verb => "building method method=" ++ name ++ " verb=" ++ verb.key
  | .enumNamed name values => "synthesized enum name=" ++ name ++ " values=" ++ toString values
  | .typeNamed name properties =>
    "synthesized anonymous type name=" ++ name ++ " properties=" ++ toString properties
  | .renamed candidate name =>
    "anonymous name collides with an existing type or enum synthesized=" ++ candidate
      ++ " renamed=" ++ name
  | .untypedDefinition name => "definition has no recognized type definition=" ++ name
  | .untypedSchema parent name =>
    "unrecognized schema kind, emitting unknown type parent=" ++ Text.quote parent
      ++ " name=" ++ Text.quote name
  | .shapelessTarget reference fault =>
    "reference target is not a schema pointer=" ++ Text.quote reference
      ++ " error=" ++ fault.message
  | .described interfaces types enums =>
    "converted swagger document interfaces=" ++ toString interfaces
      ++ " types=" ++ toString types ++ " enums=" ++ toString enums

/-- The line of an event in a log. -/
def line (e : Event) : String := e.level.name ++ " " ++ e.message ++ "\n"

end Event

end SwaggerService
