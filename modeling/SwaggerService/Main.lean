import SwaggerService.Command

/-! # The program

Runs the command on the real files. -/

namespace SwaggerService.Command

/-- The fault of an operation on a file that failed. -/
def fileFault : IO.Error → FileFault
  | .noFileOrDirectory .. => .notFound
  | e => .other (toString e)

/-- Reads a file as text. -/
def readFile (path : String) : IO (Except FileFault String) := do
  try
    let bytes ← IO.FS.readBinFile path
    match String.fromUTF8? bytes with
    | some text => return .ok text
    | none => return .error .notUtf8
  catch e => return .error (fileFault e)

/-- Writes a file. -/
def writeFile (path text : String) : IO (Except FileFault Unit) := do
  try
    IO.FS.writeFile path text
    return .ok ()
  catch e => return .error (fileFault e)

end SwaggerService.Command

open SwaggerService.Command in
/-- Runs the program. -/
def main (arguments : List String) : IO UInt32 := do
  let report ← run ⟨readFile, writeFile⟩ arguments
  if report.code = 2 then
    IO.eprint usage
  else
    IO.eprint (report.stderr true (isVerbose arguments))
    IO.print report.stdout
  return report.code.toUInt32
