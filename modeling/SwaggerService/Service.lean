import SwaggerService.Http
import SwaggerService.Service.Rule

/-! # Services

The description of a service that code generators work from: interfaces with methods, the types and
enumerations that they mention, and the HTTP details of every method. It is plain data. -/

namespace SwaggerService.Service

/-- The type of a parameter, a result or a property. `typeName` is the name of a plain kind, of an entry of
the same service when `isLocal`, or the text of a reference when the type is unknown. -/
structure Descriptor where
  typeName : String
  isArray : Bool
  isLocal : Bool
  isUnknown : Bool
  rules : List Rule
  deriving DecidableEq, Repr, Inhabited

namespace Descriptor

/-- A plain kind such as `string`. -/
def plain (name : String) (rules : List Rule) : Descriptor := ⟨name, false, false, false, rules⟩

/-- A type or an enumeration of the same service. -/
def «local» (name : String) (rules : List Rule) : Descriptor := ⟨name, false, true, false, rules⟩

/-- A shape that is not modelled. -/
def unknown (rules : List Rule) : Descriptor := ⟨"unknown", false, false, true, rules⟩

/-- Whether the rules begin with `required`. -/
def isRequired (d : Descriptor) : Bool := d.rules.head? == some .required

/-- Puts the rule `required` in front, if asked to. -/
def withRequired (required : Bool) (d : Descriptor) : Descriptor :=
  if required then { d with rules := .required :: d.rules } else d

end Descriptor

/-- A text about a method: one text, or a summary and a longer description. -/
inductive Description where
  | text (text : String)
  | lines (lines : List String)
  deriving DecidableEq, Repr, Inhabited

namespace Description

/-- Combines a summary and a longer description, as far as they are there. -/
def combine : Option String → Option String → Option Description
  | some summary, some description => some (.lines [summary, description])
  | some line, none | none, some line => some (.text line)
  | none, none => none

/-- The single lines of a text. -/
def toLines : Description → List String
  | .text line => [line]
  | .lines several => several

end Description

/-- A parameter of a method. -/
structure Parameter where
  name : String
  description : Option String
  type : Descriptor
  deriving DecidableEq, Repr, Inhabited

/-- One operation on one path. Without a result type it returns nothing. -/
structure Method where
  name : String
  description : Option Description
  parameters : List Parameter
  returnType : Option Descriptor
  deriving DecidableEq, Repr, Inhabited

/-- Where a parameter travels, and how the items of an array are joined there. -/
structure WireParameter where
  name : String
  location : Location
  array : Option CollectionFormat
  deriving DecidableEq, Repr, Inhabited

/-- The HTTP details of a method. -/
structure WireMethod where
  name : String
  verb : Verb
  parameters : List WireParameter
  successCode : UInt16
  deriving DecidableEq, Repr, Inhabited

/-- The methods of one path template. -/
structure WirePath where
  path : String
  methods : List WireMethod
  deriving DecidableEq, Repr, Inhabited

/-- The details of the protocols that an interface speaks. -/
structure Protocols where
  http : List WirePath
  deriving DecidableEq, Repr, Inhabited

/-- The methods whose paths share their first segment. -/
structure Interface where
  name : String
  methods : List Method
  protocols : Protocols
  deriving DecidableEq, Repr, Inhabited

/-- A property of an object type. -/
structure Property where
  name : String
  description : Option String
  type : Descriptor
  deriving DecidableEq, Repr, Inhabited

/-- An object type: a named definition, or an inline object that was given a name. -/
structure TypeDef where
  name : String
  description : Option String
  properties : List Property
  rules : List ObjectRule
  deriving DecidableEq, Repr, Inhabited

/-- An enumeration of texts that was given a name. -/
structure EnumDef where
  name : String
  values : List String
  deriving DecidableEq, Repr, Inhabited

/-- The method of a name in an interface; the first one if there are several. -/
def Interface.findMethod? (i : Interface) (name : String) : Option Method :=
  i.methods.find? fun m => m.name == name

/-- The descriptors of a method: of its parameters, then of its result. -/
def Method.descriptors (m : Method) : List Descriptor :=
  m.parameters.map Parameter.type ++ m.returnType.toList

end SwaggerService.Service

namespace SwaggerService

/-- A service: its title in Pascal case, the major number of its version, its interfaces, its types
(named definitions first) and its enumerations. -/
structure Service where
  title : String
  majorVersion : UInt64
  interfaces : List Service.Interface
  types : List Service.TypeDef
  enums : List Service.EnumDef
  deriving DecidableEq, Repr, Inhabited

namespace Service

/-- The first type of a name. -/
def findType? (s : Service) (name : String) : Option TypeDef := s.types.find? fun t => t.name == name

/-- The first enumeration of a name. -/
def findEnum? (s : Service) (name : String) : Option EnumDef := s.enums.find? fun e => e.name == name

/-- The first interface of a name. -/
def findInterface? (s : Service) (name : String) : Option Interface :=
  s.interfaces.find? fun i => i.name == name

/-- Every descriptor of a service: those of the methods, then those of the properties. -/
def descriptors (s : Service) : List Descriptor :=
  s.interfaces.flatMap (fun i => i.methods.flatMap Method.descriptors) ++
    s.types.flatMap fun t => t.properties.map Property.type

end Service

end SwaggerService
