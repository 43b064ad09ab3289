import SwaggerService.Service

/-! # Summaries

What a command shows of a service: its title and counts and, if asked for more, its methods, properties
and values. -/

namespace SwaggerService.Command

open Service

/-- A line of text. -/
def line (parts : List String) : String := String.join parts ++ "\n"

/-- A type in short: `widget[]` is an array, `string?` need not be there. -/
def typeText (d : Descriptor) : String :=
  d.typeName ++ (if d.isArray then "[]" else "") ++ (if d.isRequired then "" else "?")

/-- The line of a method. -/
def methodLine (path : String) (m : WireMethod) : String :=
  line ["    ", m.verb.capitals, " ", path, " ", m.name, " (", toString m.successCode.toNat, ")"]

/-- The lines of an interface. -/
def interfaceLines (i : Interface) : String :=
  line ["  • ", i.name] ++
    String.join (i.protocols.http.flatMap fun p => p.methods.map (methodLine p.path))

/-- The lines of a type. -/
def typeLines (t : TypeDef) : String :=
  line ["  • ", t.name] ++
    String.join (t.properties.map fun p => line ["    ", p.name, ": ", typeText p.type])

/-- The line of an enumeration. -/
def enumLine (e : EnumDef) : String := line ["  • ", e.name, " [", ", ".intercalate e.values, "]"]

/-- A titled part, left out when it is empty and not always shown. -/
def part (title : String) (always : Bool) (lines : List String) : String :=
  if lines.isEmpty && !always then "" else "\n" ++ line [title] ++ String.join lines

/-- The counts of a service. -/
def overview (s : Service) : String :=
  "\n" ++ line ["✓ Parse successful!"] ++ "\n" ++ line ["Service:"] ++
    line ["  Title: ", s.title] ++ line ["  Major version: ", toString s.majorVersion.toNat] ++
    line ["  Interfaces: ", toString s.interfaces.length] ++
    line ["  Types: ", toString s.types.length] ++ line ["  Enums: ", toString s.enums.length]

/-- Everything that is shown of a service. -/
def summary (verbose : Bool) (s : Service) : String :=
  if verbose then
    overview s ++ part "Interfaces:" true (s.interfaces.map interfaceLines) ++
      part "Types:" false (s.types.map typeLines) ++ part "Enums:" false (s.enums.map enumLine)
  else overview s

end SwaggerService.Command
