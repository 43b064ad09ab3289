import SwaggerService.Yaml.Event

/-! # YAML nodes

The events of a document become its tree. An alias is kept as a node of its own, because it may stand
inside the node it refers to. -/

namespace SwaggerService.Yaml

/-- A node. A collection is `typed` when its tag names a type of its own. -/
inductive Node where
  | aliasTo (target : Nat)
  | scalar (tag : Option (List UInt8)) (plain : Bool) (text : List Char)
  | sequence (typed : Bool) (items : List Node)
  | mapping (typed : Bool) (entries : List (Node × Node))
  deriving Repr, Inhabited

/-- The anchors of a document. An anchor counts under the number of names that were known before it: so a
name that is given again shares its number with the next new name, and the later node of a number
counts. -/
structure Anchors where
  /-- The number under which a name counts, the latest first. -/
  names : List (List Char × Nat) := []
  /-- The position at which the node of a number starts, the latest first. -/
  starts : List (Nat × Nat) := []
  /-- The finished nodes by their positions. -/
  nodes : List (Nat × Node) := []
  /-- How many names are known. -/
  known : Nat := 0

namespace Anchors

/-- Notes an anchor in front of the node that starts at a position. -/
def note (a : Anchors) (position : Nat) : Option (List Char) → Anchors
  | none => a
  | some name =>
    { a with
      names := (name, a.known) :: a.names
      starts := (a.known, position) :: a.starts
      known := if (a.names.lookup name).isSome then a.known else a.known + 1 }

/-- Notes a finished node under its position. -/
def finish (a : Anchors) (position : Nat) (anchor : Option (List Char)) (node : Node) : Anchors :=
  if anchor.isSome then { a with nodes := (position, node) :: a.nodes } else a

/-- The node of a number. -/
def node? (a : Anchors) (target : Nat) : Option Node :=
  (a.starts.lookup target).bind fun position => a.nodes.lookup position

end Anchors

/-- A document: its root, its anchors, and the number of its events. -/
structure Tree where
  root : Node
  anchors : Anchors
  size : Nat

namespace Tree

/-- A collection that is still open. Items and entries are newest first; a mapping may wait for the value
of a key. -/
inductive Frame where
  | sequence (position : Nat) (properties : Properties) (items : List Node)
  | mapping (position : Nat) (properties : Properties) (entries : List (Node × Node))
    (key : Option Node)

/-- The state of building a tree. -/
structure Building where
  anchors : Anchors := {}
  unfinished : List Frame := []
  root : Option Node := none

/-- Whether a tag names a type of its own: a mark and a name in valid UTF-8. -/
def isLocalTag : Option (List UInt8) → Bool
  | some (mark :: name) => mark == 33 && name.toByteArray.validateUTF8
  | _ => false

/-- Puts a finished node where it belongs. -/
def Building.give (b : Building) (node : Node) : Building :=
  match b.unfinished with
  | [] => { b with root := some node }
  | .sequence position p items :: rest =>
    { b with unfinished := .sequence position p (node :: items) :: rest }
  | .mapping position p entries none :: rest =>
    { b with unfinished := .mapping position p entries (some node) :: rest }
  | .mapping position p entries (some key) :: rest =>
    { b with unfinished := .mapping position p ((key, node) :: entries) none :: rest }

/-- Gives a node that may have an anchor. -/
def Building.finish (b : Building) (position : Nat) (p : Properties) (node : Node) : Building :=
  { b with anchors := b.anchors.finish position p.anchor node }.give node

/-- Takes the event at a position. -/
def Building.step (b : Building) : Event × Nat → Option Building
  | (.aliasTo name, _) => (b.anchors.names.lookup name).map fun target => b.give (.aliasTo target)
  | (.scalar p plain text, position) =>
    let b := { b with anchors := b.anchors.note position p.anchor }
    some (b.finish position p (.scalar p.tag plain text))
  | (.sequenceStart p, position) =>
    some { b with
      anchors := b.anchors.note position p.anchor
      unfinished := .sequence position p [] :: b.unfinished }
  | (.mappingStart p, position) =>
    some { b with
      anchors := b.anchors.note position p.anchor
      unfinished := .mapping position p [] none :: b.unfinished }
  | (.collectionEnd, _) =>
    match b.unfinished with
    | .sequence position p items :: rest =>
      some ({ b with unfinished := rest }.finish position p (.sequence (isLocalTag p.tag) items.reverse))
    | .mapping position p entries _ :: rest =>
      some ({ b with unfinished := rest }.finish position p (.mapping (isLocalTag p.tag) entries.reverse))
    | [] => none

/-- The tree of the events of a document. -/
def ofEvents? (events : List Event) : Option Tree := do
  let b ← events.zipIdx.foldlM Building.step {}
  return { root := ← b.root, anchors := b.anchors, size := events.length }

end Tree

end SwaggerService.Yaml
