/-! # YAML tokens

Indentation has become tokens of its own: a block collection opens with a start token and closes with
`blockEnd`. -/

namespace SwaggerService.Yaml

/-- A tag as it is written: a handle and a suffix, in bytes. -/
structure WrittenTag where
  handle : List Char
  suffix : List UInt8
  deriving DecidableEq, Repr

/-- A token. A `plain` scalar was written without quotes. -/
inductive Token where
  | version (major minor : Nat)
  | tagDirective (handle : List Char) (start : List UInt8)
  | documentStart
  | documentEnd
  | blockSequenceStart
  | blockMappingStart
  | blockEnd
  | flowSequenceStart
  | flowSequenceEnd
  | flowMappingStart
  | flowMappingEnd
  | blockEntry
  | flowEntry
  | key
  | value
  | aliasTo (name : List Char)
  | anchor (name : List Char)
  | tag (tag : WrittenTag)
  | scalar (plain : Bool) (text : List Char)
  | streamEnd
  deriving DecidableEq, Repr, Inhabited

end SwaggerService.Yaml
