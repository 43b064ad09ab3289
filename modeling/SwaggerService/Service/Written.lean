import SwaggerService.Service

/-! # Written services

The JSON form of a service and of each of its parts, and how it is read back. Absent options are left
out, and the fields of a descriptor stand beside the name of the parameter or property that it types. -/

namespace SwaggerService.Service

open Decode Decode.Fields

/-- A field that is left out when it is absent. -/
def optionalField (key : String) : Option Json → List (String × Json)
  | none => []
  | some v => [(key, v)]

/-- A list of written parts. -/
def writeList {α : Type} (encode : α → Json) (parts : List α) : Json := .list (parts.map encode)

namespace Descriptor

/-- The written fields of a descriptor. -/
def entries (d : Descriptor) : List (String × Json) :=
  [("typeName", .string d.typeName), ("isArray", .bool d.isArray), ("isLocal", .bool d.isLocal),
    ("isUnknown", .bool d.isUnknown), ("rules", writeList Rule.encode d.rules)]

/-- The written form of a descriptor. -/
def encode (d : Descriptor) : Json := .object d.entries

/-- The fields of a descriptor. -/
def fields (form : TagForm) : Fields Descriptor :=
  mk <$> required "typeName" string <*> required "isArray" bool <*> required "isLocal" bool
    <*> required "isUnknown" bool <*> defaulted "rules" (list (Rule.decode form)) []

/-- Reads a descriptor. -/
def decode : Decoder Descriptor := (fields .text).decode "TypeDescriptor"

end Descriptor

/-- What stands before the descriptor of a parameter or of a property. -/
def nameAndText : Fields (String × Option String) :=
  Prod.mk <$> required "name" string <*> Fields.optional "description" string

/-- A written name and text, followed by the fields of a descriptor. -/
def typedEntries (name : String) (description : Option String) (type : Descriptor) :
    List (String × Json) :=
  ("name", .string name) :: optionalField "description" (description.map .string) ++ type.entries

/-- Reads a name and a text, and a descriptor from the other entries of the same object. -/
def decodeTyped (kind : String) : Decoder ((String × Option String) × Descriptor)
  | .object entries => do
    let named ← nameAndText.ofObject entries
    let others := entries.filter fun (key, _) => key != "name" && key != "description"
    return (named, ← (Descriptor.fields .textOrIndex).ofObject others)
  | v => .error (.wrongType v ("struct " ++ kind))

namespace Parameter

/-- The written form of a parameter. -/
def encode (p : Parameter) : Json := .object (typedEntries p.name p.description p.type)

/-- Reads a parameter. -/
def decode : Decoder Parameter := fun v =>
  (decodeTyped "Parameter" v).map fun ((name, description), type) => ⟨name, description, type⟩

end Parameter

namespace Property

/-- The written form of a property. -/
def encode (p : Property) : Json := .object (typedEntries p.name p.description p.type)

/-- Reads a property. -/
def decode : Decoder Property := fun v =>
  (decodeTyped "Property" v).map fun ((name, description), type) => ⟨name, description, type⟩

end Property

namespace Description

/-- The written form of a text: itself, or the list of its lines. -/
def encode : Description → Json
  | .text line => .string line
  | .lines several => writeList .string several

/-- Reads a text in either form. -/
def decode : Decoder Description
  | .string line => .ok (.text line)
  | v =>
    match list string v with
    | .ok several => .ok (.lines several)
    | .error _ => .error (.noForm "Description")

end Description

namespace Method

/-- The written form of a method. -/
def encode (m : Method) : Json :=
  .object (("name", .string m.name) ::
    optionalField "description" (m.description.map Description.encode) ++
    ("parameters", writeList Parameter.encode m.parameters) ::
    optionalField "returnType" (m.returnType.map Descriptor.encode))

/-- Reads a method. -/
def decode : Decoder Method :=
  (mk <$> required "name" string <*> Fields.optional "description" Description.decode
    <*> required "parameters" (list Parameter.decode)
    <*> Fields.optional "returnType" Descriptor.decode).decode "Method"

end Method

namespace WireParameter

/-- The written form of the details of a parameter. -/
def encode (p : WireParameter) : Json :=
  .object (("name", .string p.name) :: ("in", .string p.location.key) ::
    optionalField "array" (p.array.map fun format => .string format.key))

/-- Reads the details of a parameter. -/
def decode : Decoder WireParameter :=
  (mk <$> required "name" string <*> required "in" (Location.decode .null)
    <*> Fields.optional "array" (CollectionFormat.decode .null)).decode "ParameterSpec"

end WireParameter

namespace WireMethod

/-- The written form of the details of a method. -/
def encode (m : WireMethod) : Json :=
  .object [("name", .string m.name), ("verb", .string m.verb.key),
    ("parameters", writeList WireParameter.encode m.parameters),
    ("successCode", .nat m.successCode.toNat)]

/-- Reads the details of a method. -/
def decode : Decoder WireMethod :=
  (mk <$> required "name" string <*> required "verb" (Verb.decode .null)
    <*> required "parameters" (list WireParameter.decode)
    <*> required "successCode" uint16).decode "MethodSpec"

end WireMethod

namespace WirePath

/-- The written form of the methods of a path. -/
def encode (p : WirePath) : Json :=
  .object [("path", .string p.path), ("methods", writeList WireMethod.encode p.methods)]

/-- Reads the methods of a path. -/
def decode : Decoder WirePath :=
  (mk <$> required "path" string <*> required "methods" (list WireMethod.decode)).decode "PathSpec"

end WirePath

namespace Protocols

/-- The written form of the details of the protocols. -/
def encode (p : Protocols) : Json := .object [("http", writeList WirePath.encode p.http)]

/-- Reads the details of the protocols. -/
def decode : Decoder Protocols :=
  (mk <$> required "http" (list WirePath.decode)).decode "Protocols"

end Protocols

namespace Interface

/-- The written form of an interface. -/
def encode (i : Interface) : Json :=
  .object [("name", .string i.name), ("methods", writeList Method.encode i.methods),
    ("protocols", i.protocols.encode)]

/-- Reads an interface. -/
def decode : Decoder Interface :=
  (mk <$> required "name" string <*> required "methods" (list Method.decode)
    <*> required "protocols" Protocols.decode).decode "Interface"

end Interface

namespace TypeDef

/-- The written form of an object type. -/
def encode (t : TypeDef) : Json :=
  .object (("name", .string t.name) :: optionalField "description" (t.description.map .string) ++
    [("properties", writeList Property.encode t.properties),
      ("rules", writeList ObjectRule.encode t.rules)])

/-- Reads an object type. -/
def decode : Decoder TypeDef :=
  (mk <$> required "name" string <*> Fields.optional "description" string
    <*> required "properties" (list Property.decode)
    <*> defaulted "rules" (list ObjectRule.decode) []).decode "Type"

end TypeDef

namespace EnumDef

/-- The written form of an enumeration. -/
def encode (e : EnumDef) : Json :=
  .object [("name", .string e.name), ("values", writeList .string e.values)]

/-- Reads an enumeration. -/
def decode : Decoder EnumDef :=
  (mk <$> required "name" string <*> required "values" (list string)).decode "Enum"

end EnumDef

/-- The written form of a service. -/
def encode (s : Service) : Json :=
  .object [("title", .string s.title), ("majorVersion", writeUInt64 s.majorVersion),
    ("interfaces", writeList Interface.encode s.interfaces),
    ("types", writeList TypeDef.encode s.types), ("enums", writeList EnumDef.encode s.enums)]

/-- Reads a service. -/
def decode : Decoder Service :=
  (mk <$> required "title" string <*> required "majorVersion" uint64
    <*> required "interfaces" (list Interface.decode) <*> required "types" (list TypeDef.decode)
    <*> required "enums" (list EnumDef.decode)).decode "Service"

end SwaggerService.Service
