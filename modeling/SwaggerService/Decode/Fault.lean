import SwaggerService.Json.Printer
import SwaggerService.Text.Quoted

/-! # Faults of decoding

Why a JSON value does not fit a type of the model. Each fault keeps the value or the name at fault; the
text that is shown is written in one place. -/

namespace SwaggerService.Decode

/-- Why a value does not fit. -/
inductive Fault where
  /-- A value of another kind than wanted. -/
  | wrongType (found : Json) (wanted : String)
  /-- A value of the right kind but outside what is wanted. -/
  | wrongValue (found : Json) (wanted : String)
  /-- A list, or a list of fields, of another length than wanted. -/
  | wrongLength (length : Nat) (wanted : String)
  /-- An object lacks a field. -/
  | missingField (name : String)
  /-- A text that names no variant of an enumeration. -/
  | unknownVariant (name : String) (known : List String)
  /-- A number that indexes no variant of an enumeration of so many. -/
  | unknownIndex (index : Json) (count : Nat)
  /-- None of the forms of a type with several forms fits. -/
  | noForm (name : String)
  /-- A fault inside an operation of a path. -/
  | inOperation (verb : String) (fault : Fault)
  /-- A path that refers to another one. -/
  | pathReference (target : Json)
  deriving Repr, Inhabited

/-- A text in the quotes that messages put around names. -/
def ticked (s : String) : String := "\x60" ++ s ++ "\x60"

/-- How a message names the value that was found. -/
def describe : Json → String
  | .null => "null"
  | .bool b => "boolean " ++ ticked (if b then "true" else "false")
  | .number (.int n) => "integer " ++ ticked (toString n)
  | .number x => "floating point " ++ ticked x.text
  | .string s => "string " ++ Text.quote s
  | .list _ => "sequence"
  | .object _ => "map"

/-- How a message lists the known variants. -/
def describeVariants : List String → String
  | [] => "there are no variants"
  | [a] => "expected " ++ ticked a
  | [a, b] => "expected " ++ ticked a ++ " or " ++ ticked b
  | known => "expected one of " ++ ", ".intercalate (known.map ticked)

/-- The text of a fault. -/
def Fault.message : Fault → String
  | .wrongType found wanted => "invalid type: " ++ describe found ++ ", expected " ++ wanted
  | .wrongValue found wanted => "invalid value: " ++ describe found ++ ", expected " ++ wanted
  | .wrongLength length wanted => "invalid length " ++ toString length ++ ", expected " ++ wanted
  | .missingField name => "missing field " ++ ticked name
  | .unknownVariant name known => "unknown variant " ++ ticked name ++ ", " ++ describeVariants known
  | .unknownIndex index count =>
    "invalid value: " ++ describe index ++ ", expected variant index 0 <= i < " ++ toString count
  | .noForm name => "data did not match any variant of untagged enum " ++ name
  | .inOperation verb fault => "invalid '" ++ verb ++ "' operation: " ++ fault.message
  | .pathReference target => "path item references are not supported: " ++ target.compact

end SwaggerService.Decode
