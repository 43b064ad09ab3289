import SwaggerService.Loaded
import SwaggerService.Service

/-! # Rules of a schema

The validation rules that a schema states, in a fixed order for each declared type. Whether a value is
required is not a rule of its schema: that depends on the object or parameter around it. -/

namespace SwaggerService

open Service

namespace Schema

/-- The rules of a text. -/
def stringRules (s : Schema) : List Rule :=
  (s.enumStrings.map Rule.stringEnum).toList ++ (s.format.map Rule.stringFormat).toList ++
    (s.maxLength.map Rule.stringMaxLength).toList ++
    (s.minLength.map Rule.stringMinLength).toList ++ (s.pattern.map Rule.stringPattern).toList

/-- The rules of a number. A bound is strict when it is marked as exclusive. -/
def numberRules (s : Schema) : List Rule :=
  let lower := if s.exclusiveMinimum.getD false then Rule.numberGt else Rule.numberGte
  let upper := if s.exclusiveMaximum.getD false then Rule.numberLt else Rule.numberLte
  (s.multipleOf.map Rule.numberMultipleOf).toList ++ (s.minimum.map lower).toList ++
    (s.maximum.map upper).toList

/-- The rules of an array, apart from those of its items. -/
def arrayRules (s : Schema) : List Rule :=
  (s.maxItems.map Rule.arrayMaxItems).toList ++ (s.minItems.map Rule.arrayMinItems).toList ++
    (if s.uniqueItems.getD false then [Rule.arrayUniqueItems] else [])

/-- The rules that a schema states itself. Keywords of another type state nothing. -/
def localRules (s : Schema) : List Rule :=
  match s.kind with
  | .string => s.stringRules
  | .number => s.numberRules
  | .array => s.arrayRules
  | _ => []

/-- The rules of an object as a whole. -/
def objectRules (s : Schema) : List ObjectRule :=
  if s.kind = .object then
    (s.maxProperties.map ObjectRule.maxProperties).toList ++
      (s.minProperties.map ObjectRule.minProperties).toList ++
      (if s.forbidsAdditional then [ObjectRule.additionalProperties true] else [])
  else []

/-- The items of an array. -/
def arrayItems? (s : Schema) : Option (RefOr Schema) := if s.kind = .array then s.items else none

end Schema

/-- The rules of a schema, followed by those of the items when it is an array. -/
def Loaded.ruleSet (l : Loaded) (s : Schema) : Except Fault (List Rule) :=
  match s.arrayItems? with
  | none => .ok s.localRules
  | some items => do return s.localRules ++ (← l.schema items).localRules

end SwaggerService
