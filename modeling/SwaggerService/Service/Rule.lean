import SwaggerService.Decode.Tagged

/-! # Validation rules

Constraints on a value and on an object. A rule is written as an object whose `id` names its kind. Bounds
on numbers keep the number as the document has it. -/

namespace SwaggerService.Service

/-- A constraint on one value. -/
inductive Rule where
  | required
  | stringMaxLength (length : UInt64)
  | stringMinLength (length : UInt64)
  | stringPattern (pattern : String)
  | stringFormat (format : String)
  | stringEnum (values : List String)
  | numberMultipleOf (value : Number)
  | numberGt (value : Number)
  | numberGte (value : Number)
  | numberLt (value : Number)
  | numberLte (value : Number)
  | arrayMinItems (min : UInt64)
  | arrayMaxItems (max : UInt64)
  | arrayUniqueItems
  deriving DecidableEq, Repr, Inhabited

/-- A constraint on an object as a whole. -/
inductive ObjectRule where
  | minProperties (min : UInt64)
  | maxProperties (max : UInt64)
  | additionalProperties (forbidden : Bool)
  deriving DecidableEq, Repr, Inhabited

/-- The written form of an unsigned number. -/
def writeUInt64 (n : UInt64) : Json := .nat n.toNat

namespace Rule

/-- The kind of a rule. -/
def id : Rule → String
  | .required => "required"
  | .stringMaxLength _ => "string-max-length"
  | .stringMinLength _ => "string-min-length"
  | .stringPattern _ => "string-pattern"
  | .stringFormat _ => "string-format"
  | .stringEnum _ => "string-enum"
  | .numberMultipleOf _ => "number-multiple-of"
  | .numberGt _ => "number-gt"
  | .numberGte _ => "number-gte"
  | .numberLt _ => "number-lt"
  | .numberLte _ => "number-lte"
  | .arrayMinItems _ => "array-min-items"
  | .arrayMaxItems _ => "array-max-items"
  | .arrayUniqueItems => "array-unique-items"

/-- The fields of a rule other than its kind. -/
def payload : Rule → List (String × Json)
  | .required | .arrayUniqueItems => []
  | .stringMaxLength n | .stringMinLength n => [("length", writeUInt64 n)]
  | .stringPattern pattern => [("pattern", .string pattern)]
  | .stringFormat format => [("format", .string format)]
  | .stringEnum values => [("values", .list (values.map .string))]
  | .numberMultipleOf n | .numberGt n | .numberGte n | .numberLt n | .numberLte n =>
    [("value", .number n)]
  | .arrayMinItems n => [("min", writeUInt64 n)]
  | .arrayMaxItems n => [("max", writeUInt64 n)]

/-- The written form of a rule. -/
def encode (rule : Rule) : Json := .object (("id", .string rule.id) :: rule.payload)

open Decode Decode.Fields

/-- The kinds of rules. -/
def kinds : Tagged Rule where
  name := "ValidationRule"
  shapes := [
    ⟨"required", "Required", pure .required⟩,
    ⟨"string-max-length", "StringMaxLength", .stringMaxLength <$> .required "length" uint64⟩,
    ⟨"string-min-length", "StringMinLength", .stringMinLength <$> .required "length" uint64⟩,
    ⟨"string-pattern", "StringPattern", .stringPattern <$> .required "pattern" string⟩,
    ⟨"string-format", "StringFormat", .stringFormat <$> .required "format" string⟩,
    ⟨"string-enum", "StringEnum", .stringEnum <$> .required "values" (list string)⟩,
    ⟨"number-multiple-of", "NumberMultipleOf", .numberMultipleOf <$> .required "value" number⟩,
    ⟨"number-gt", "NumberGt", .numberGt <$> .required "value" number⟩,
    ⟨"number-gte", "NumberGte", .numberGte <$> .required "value" number⟩,
    ⟨"number-lt", "NumberLt", .numberLt <$> .required "value" number⟩,
    ⟨"number-lte", "NumberLte", .numberLte <$> .required "value" number⟩,
    ⟨"array-min-items", "ArrayMinItems", .arrayMinItems <$> .required "min" uint64⟩,
    ⟨"array-max-items", "ArrayMaxItems", .arrayMaxItems <$> .required "max" uint64⟩,
    ⟨"array-unique-items", "ArrayUniqueItems", pure .arrayUniqueItems⟩]

/-- Reads a rule. -/
def decode (form : TagForm) : Decoder Rule := kinds.decode form

end Rule

namespace ObjectRule

/-- The kind of a rule. -/
def id : ObjectRule → String
  | .minProperties _ => "object-min-properties"
  | .maxProperties _ => "object-max-properties"
  | .additionalProperties _ => "object-additional-properties"

/-- The fields of a rule other than its kind. -/
def payload : ObjectRule → List (String × Json)
  | .minProperties n => [("min", writeUInt64 n)]
  | .maxProperties n => [("max", writeUInt64 n)]
  | .additionalProperties forbidden => [("forbidden", .bool forbidden)]

/-- The written form of a rule. -/
def encode (rule : ObjectRule) : Json := .object (("id", .string rule.id) :: rule.payload)

open Decode Decode.Fields

/-- The kinds of rules on objects. -/
def kinds : Tagged ObjectRule where
  name := "ObjectValidationRule"
  shapes := [
    ⟨"object-min-properties", "ObjectMinProperties", .minProperties <$> .required "min" uint64⟩,
    ⟨"object-max-properties", "ObjectMaxProperties", .maxProperties <$> .required "max" uint64⟩,
    ⟨"object-additional-properties", "ObjectAdditionalProperties",
      .additionalProperties <$> .required "forbidden" bool⟩]

/-- Reads a rule on objects. -/
def decode : Decoder ObjectRule := kinds.decode .text

end ObjectRule

end SwaggerService.Service
