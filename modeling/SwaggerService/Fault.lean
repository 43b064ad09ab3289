import SwaggerService.Decode.Fault
import SwaggerService.Json.Token
import SwaggerService.Version

/-! # Faults

Why a document could not be loaded or described as a service. Work on a document stops at its first
fault. -/

namespace SwaggerService

/-- Why a file could not be read or written. -/
inductive FileFault where
  | notFound
  | notUtf8
  | isDirectory
  | notDirectory
  | nameTooLong
  | nulInName
  | other (text : String)
  deriving DecidableEq, Repr

/-- The text of a fault of a file. -/
def FileFault.message : FileFault → String
  | .notFound => "No such file or directory (os error 2)"
  | .notUtf8 => "stream did not contain valid UTF-8"
  | .isDirectory => "Is a directory (os error 21)"
  | .notDirectory => "Not a directory (os error 20)"
  | .nameTooLong => "File name too long (os error 36)"
  | .nulInName => "file name contained an unexpected NUL byte"
  | .other description => description

/-- Why a document is not one that can be described. -/
inductive DocumentFault where
  /-- The document does not have the shape of a Swagger document. -/
  | shape (fault : Decode.Fault)
  /-- The document declares the version that came after Swagger 2.0. -/
  | openApi3
  /-- A reference leads to something else than a part of the kind it stands for. -/
  | target (reference : String) (fault : Decode.Fault)
  /-- The file of the document cannot be read. -/
  | file (name : String) (fault : FileFault)
  deriving Repr

/-- The text of a fault of a document. -/
def DocumentFault.message : DocumentFault → String
  | .shape fault => "Failed to parse Swagger document: " ++ fault.message
  | .openApi3 => "OpenAPI 3 documents are not supported, expected a Swagger 2.0 document"
  | .target reference fault =>
    "Reference '" ++ reference ++ "' has an unexpected shape: " ++ fault.message
  | .file name fault => "Failed to read Swagger file " ++ name ++ ": " ++ fault.message

/-- A fault of loading or describing a document. -/
inductive Fault where
  | document (fault : DocumentFault)
  | unresolvedReference (reference : String)
  | externalReference (reference : String)
  | depthExceeded (limit : Nat) (location : String)
  | invalidVersion (text : String) (fault : Version.Fault)
  | json (fault : Json.SyntaxFault)
  | yaml
  deriving Repr

namespace Fault

/-- The text of a fault. -/
def message : Fault → String
  | .document fault => "Parse error: " ++ fault.message
  | .unresolvedReference reference => "Unable to resolve reference '" ++ reference ++ "'"
  | .externalReference reference => "External reference '" ++ reference ++ "' is not supported"
  | .depthExceeded limit location =>
    "Schema nesting exceeds the maximum depth of " ++ toString limit ++ " at '" ++ location ++ "'"
  | .invalidVersion text fault => "Invalid semantic version '" ++ text ++ "': " ++ fault.message
  | .json fault => "JSON error: " ++ fault.message
  | .yaml => "YAML error"

/-- The text of the fault that lies behind another one, if it has a text of its own. -/
def cause? : Fault → Option String
  | .invalidVersion _ fault => some fault.message
  | .json fault => some fault.message
  | _ => none

end Fault

end SwaggerService
