import SwaggerService.Yaml.Tokens
import SwaggerService.Yaml.Value

/-! # Reading YAML

A text holds one document of YAML 1.1, whose value is that of a JSON document. Faults are not told apart. -/

namespace SwaggerService.Yaml

/-- The characters of a text, when all of them are allowed. -/
def characters? (text : String) : Option (List Char) :=
  if text.toList.all isAllowed then some text.toList else none

/-- Reads the value of a text. A text without a document has the value `null`. -/
def parse (text : String) : Option Json := do
  match ← Event.ofTokens? (← tokens? (← characters? text)) with
  | [] => return .null
  | events => (← Tree.ofEvents? events).toJson?

end SwaggerService.Yaml
