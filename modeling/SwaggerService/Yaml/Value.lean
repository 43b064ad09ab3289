import SwaggerService.Yaml.Node
import SwaggerService.Yaml.Scalar

/-! # The value of a YAML document

A tree becomes a JSON value. The depth of the value is bounded, and so is the number of aliases that are
followed; an alias inside the node it refers to therefore ends in a refusal. -/

namespace SwaggerService.Yaml

/-- A computation that counts the aliases it follows, and may be refused. -/
abbrev Following := StateT Nat Option

namespace Tree

/-- How many aliases may be followed for each event of a document. -/
def aliasesPerEvent : Nat := 100

/-- Follows a node that is an alias. -/
def follow (t : Tree) : Node → Following Node
  | .aliasTo target => do
    let followed := (← get) + 1
    if t.size * aliasesPerEvent < followed then failure
    set followed
    match t.anchors.node? target with
    | some node => return node
    | none => failure
  | node => return node

/-- The key of an entry: the text of a scalar, however it is written. -/
def key (t : Tree) (node : Node) : Following String := do
  match ← t.follow node with
  | .scalar _ _ text => return String.ofList text
  | _ => failure

/-- The value of a scalar; any other node is refused. -/
def scalar : Node → Following Json
  | .scalar tag plain text => (scalarValue? tag plain (String.ofList text) : Option Json)
  | _ => failure

/-- The value of a node below which so many collections may be nested. Of entries with the same key the
last one counts. A collection whose tag names a type of its own is refused. -/
def value (t : Tree) : Nat → Node → Following Json
  | 0, node => do scalar (← t.follow node)
  | room + 1, node => do
    match ← t.follow node with
    | .sequence false items => return .list (← items.mapM fun item => value t room item)
    | .mapping false entries =>
      let fields ← entries.mapM fun (key, item) => do
        return (← t.key key, ← value t room item)
      return .object (Entries.ofList fields)
    | node => scalar node

/-- The deepest nesting of collections. -/
def maxNesting : Nat := 128

/-- The value of a document. -/
def toJson? (t : Tree) : Option Json := (t.value maxNesting t.root).run' 0

end Tree

end SwaggerService.Yaml
