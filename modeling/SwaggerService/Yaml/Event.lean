import SwaggerService.Yaml.Token

/-! # YAML events

The tokens of a text become the events of its tree: a scalar, an alias, or the start of a collection whose
content and end follow. What is still to come is a stack of parts, so that the tree may be as deep as it
likes. -/

namespace SwaggerService.Yaml

/-- What is written in front of a node: an anchor and a tag, whose handle is resolved. -/
structure Properties where
  anchor : Option (List Char) := none
  tag : Option (List UInt8) := none
  deriving DecidableEq, Repr

/-- An event. -/
inductive Event where
  | aliasTo (name : List Char)
  | scalar (properties : Properties) (plain : Bool) (text : List Char)
  | sequenceStart (properties : Properties)
  | mappingStart (properties : Properties)
  | collectionEnd
  deriving DecidableEq, Repr

namespace Event

/-- The scalar that stands where nothing is written. -/
def empty : Event := .scalar {} true []

/-! ## Directives -/

/-- Handles of tags and what they stand for. The first entry of a handle counts. -/
abbrev Handles := List (List Char × List UInt8)

/-- The handles that every document knows: `!`, which stands for itself, and `!!`. -/
def knownHandles : Handles :=
  [(['!'], [33]),
   (['!', '!'], "tag:yaml.org,2002:".toList.map fun c => c.toNat.toUInt8)]

/-- Reads the directives of a document. A version must be 1.1 or 1.2; no directive is repeated. -/
def directives (versioned : Bool) (handles : Handles) : List Token → Option (Handles × List Token)
  | .version major minor :: rest =>
    if versioned || major != 1 || (minor != 1 && minor != 2) then none
    else directives true handles rest
  | .tagDirective handle start :: rest =>
    if (handles.lookup handle).isSome then none
    else directives versioned (handles ++ [(handle, start)]) rest
  | rest => some (handles ++ knownHandles, rest)

/-- The tag that a written one stands for. -/
def resolve? (handles : Handles) (tag : WrittenTag) : Option (List UInt8) :=
  if tag.handle.isEmpty then some tag.suffix
  else (handles.lookup tag.handle).map (· ++ tag.suffix)

/-! ## Parts -/

/-- A part of a text that is still to come. -/
inductive Part where
  | node (block indentless : Bool)
  | blockItem
  | indentlessItem
  | blockKey
  | blockValue
  | flowItem (first : Bool)
  | pairKey
  | pairValue
  | pairEnd
  | flowKey (first : Bool)
  | flowValue (written : Bool)
  deriving DecidableEq, Repr

/-- What one step makes of a part: events, the parts that replace it, and the tokens behind it. -/
structure Step where
  events : List Event
  parts : List Part
  rest : List Token

/-- Reads an anchor and a tag, in either order. -/
def properties? (handles : Handles) : List Token → Option (Properties × List Token)
  | .anchor name :: .tag tag :: rest => do return (⟨name, ← resolve? handles tag⟩, rest)
  | .tag tag :: .anchor name :: rest => do return (⟨name, ← resolve? handles tag⟩, rest)
  | .anchor name :: rest => some (⟨name, none⟩, rest)
  | .tag tag :: rest => do return (⟨none, ← resolve? handles tag⟩, rest)
  | rest => some ({}, rest)

/-- A node behind its properties. A sequence whose items are not indented stands only as the value of a
block mapping. -/
def content? (block indentless : Bool) (p : Properties) : List Token → Option Step
  | .blockEntry :: rest =>
    if indentless then some ⟨[.sequenceStart p], [.indentlessItem], .blockEntry :: rest⟩
    else if p = {} then none
    else some ⟨[.scalar p true []], [], .blockEntry :: rest⟩
  | .scalar plain text :: rest => some ⟨[.scalar p plain text], [], rest⟩
  | .flowSequenceStart :: rest => some ⟨[.sequenceStart p], [.flowItem true], rest⟩
  | .flowMappingStart :: rest => some ⟨[.mappingStart p], [.flowKey true], rest⟩
  | tokens =>
    match block, tokens with
    | true, .blockSequenceStart :: rest => some ⟨[.sequenceStart p], [.blockItem], rest⟩
    | true, .blockMappingStart :: rest => some ⟨[.mappingStart p], [.blockKey], rest⟩
    | _, _ => if p = {} then none else some ⟨[.scalar p true []], [], tokens⟩

/-- A node. -/
def node? (handles : Handles) (block indentless : Bool) : List Token → Option Step
  | .aliasTo name :: rest => some ⟨[.aliasTo name], [], rest⟩
  | tokens => do
    let (p, rest) ← properties? handles tokens
    content? block indentless p rest

/-- A node or, before a token that ends its place, an empty scalar. -/
def nodeUnless (ends : List Token) (node : Part) (next : Part) (tokens : List Token) : Step :=
  if tokens.head?.any ends.contains then ⟨[.empty], [next], tokens⟩ else ⟨[], [node, next], tokens⟩

/-- An item of a flow sequence, behind its comma. A key begins a mapping of a single pair. -/
def flowItem : List Token → Step
  | .flowSequenceEnd :: rest => ⟨[.collectionEnd], [], rest⟩
  | .key :: rest => ⟨[.mappingStart {}], [.pairKey, .flowItem false], rest⟩
  | tokens => ⟨[], [.node false false, .flowItem false], tokens⟩

/-- A key of a flow mapping, behind its comma. -/
def flowKey : List Token → Step
  | .flowMappingEnd :: rest => ⟨[.collectionEnd], [], rest⟩
  | .key :: rest =>
    nodeUnless [.value, .flowEntry, .flowMappingEnd] (.node false false) (.flowValue true) rest
  | tokens => ⟨[], [.node false false, .flowValue false], tokens⟩

/-- Takes one step. The token in the place of the key of a single pair is dropped with the key when none
is written. -/
def step (handles : Handles) : Part → List Token → Option Step
  | .node block indentless, tokens => node? handles block indentless tokens
  | .blockItem, .blockEntry :: rest =>
    some (nodeUnless [.blockEntry, .blockEnd] (.node true false) .blockItem rest)
  | .blockItem, .blockEnd :: rest => some ⟨[.collectionEnd], [], rest⟩
  | .blockItem, _ => none
  | .indentlessItem, .blockEntry :: rest =>
    some (nodeUnless [.blockEntry, .key, .value, .blockEnd] (.node true false) .indentlessItem rest)
  | .indentlessItem, tokens => some ⟨[.collectionEnd], [], tokens⟩
  | .blockKey, .key :: rest =>
    some (nodeUnless [.key, .value, .blockEnd] (.node true true) .blockValue rest)
  | .blockKey, .blockEnd :: rest => some ⟨[.collectionEnd], [], rest⟩
  | .blockKey, _ => none
  | .blockValue, .value :: rest =>
    some (nodeUnless [.key, .value, .blockEnd] (.node true true) .blockKey rest)
  | .blockValue, tokens => some ⟨[.empty], [.blockKey], tokens⟩
  | .flowItem true, tokens => some (flowItem tokens)
  | .flowItem false, .flowEntry :: rest => some (flowItem rest)
  | .flowItem false, .flowSequenceEnd :: rest => some ⟨[.collectionEnd], [], rest⟩
  | .flowItem false, _ => none
  | .pairKey, tokens =>
    if tokens.head?.any [.value, .flowEntry, .flowSequenceEnd].contains then
      some ⟨[.empty], [.pairValue], tokens.drop 1⟩
    else some ⟨[], [.node false false, .pairValue], tokens⟩
  | .pairValue, .value :: rest =>
    some (nodeUnless [.flowEntry, .flowSequenceEnd] (.node false false) .pairEnd rest)
  | .pairValue, tokens => some ⟨[.empty], [.pairEnd], tokens⟩
  | .pairEnd, tokens => some ⟨[.collectionEnd], [], tokens⟩
  | .flowKey true, tokens => some (flowKey tokens)
  | .flowKey false, .flowEntry :: rest => some (flowKey rest)
  | .flowKey false, .flowMappingEnd :: rest => some ⟨[.collectionEnd], [], rest⟩
  | .flowKey false, _ => none
  | .flowValue true, .value :: rest =>
    some (nodeUnless [.flowEntry, .flowMappingEnd] (.node false false) (.flowKey false) rest)
  | .flowValue _, tokens => some ⟨[.empty], [.flowKey false], tokens⟩

/-- Takes steps until no part is left. The events already read are newest first. The fuel is the number
of steps that may be taken. -/
def run (handles : Handles) :
    Nat → List Part → List Token → List Event → Option (List Event × List Token)
  | _, [], tokens, done => some (done.reverse, tokens)
  | 0, _ :: _, _, _ => none
  | fuel + 1, part :: parts, tokens, done => do
    let s ← step handles part tokens
    run handles fuel (s.parts ++ parts) s.rest (s.events.reverse ++ done)

/-- Whether only ends of the document and the end of the text are left. -/
def atEnd (tokens : List Token) : Bool := tokens.dropWhile (· == .documentEnd) == [.streamEnd]

/-- The events of a root node, behind which nothing but the end may stand. Each token is met by at most
four steps. -/
def ofRoot? (handles : Handles) (tokens : List Token) : Option (List Event) := do
  let (events, rest) ← run handles (4 * (tokens.length + 1)) [.node true false] tokens []
  if atEnd rest then some events else none

/-- The content of a document behind its start. It may be missing. -/
def ofContent? (handles : Handles) (tokens : List Token) : Option (List Event) :=
  if atEnd tokens then some [.empty] else ofRoot? handles tokens

/-- The events of a text that holds at most one document; there are none when it holds nothing. -/
def ofTokens? : List Token → Option (List Event)
  | [.streamEnd] => some []
  | tokens =>
    match tokens with
    | .version _ _ :: _ | .tagDirective _ _ :: _ | .documentStart :: _ => do
      let (handles, rest) ← directives false [] tokens
      match rest with
      | .documentStart :: rest => ofContent? handles rest
      | _ => none
    | _ => ofRoot? knownHandles tokens

end Event

end SwaggerService.Yaml
