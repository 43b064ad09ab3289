import SwaggerService.Fault

/-! # Files

The two things that a command does with files: it reads a text and it writes a text. A `Disk` is a tree of
files that is held as a value, with a current directory from which relative paths lead. -/

namespace SwaggerService.Command

/-- How files are read and written. -/
structure Files (m : Type → Type) where
  read : String → m (Except FileFault String)
  write : String → String → m (Except FileFault Unit)

/-- A tree of files, each with the components of its path from the root, and the current directory. The
directories are those that hold a file and those on the way to the current one. -/
structure Disk where
  here : List String
  files : List (List String × ByteArray)
  deriving Inhabited

namespace Disk

/-- The components of a path. -/
def components (path : String) : List String :=
  ((path.toList.splitOn '/').map String.ofList).filter fun c => c != ""

/-- Whether a path ends with a `/`. -/
def endsOpen (path : String) : Bool := path.toList.getLast? = some '/'

/-- Where a path starts: at the root or in the current directory. -/
def start (here : List String) (path : String) : List String :=
  if path.toList.head? = some '/' then [] else here

/-- A disk with some files. -/
def ofFiles (here : List String) (files : List (String × ByteArray)) : Disk :=
  ⟨here, files.map fun (path, bytes) => (start here path ++ components path, bytes)⟩

/-- The content of a file. -/
def content? (d : Disk) (place : List String) : Option ByteArray :=
  (d.files.find? fun file => file.1 == place).map (·.2)

/-- Whether a place is a directory. -/
def isDirectory (d : Disk) (place : List String) : Bool :=
  place.isPrefixOf d.here || d.files.any fun file => place.isPrefixOf file.1 && place != file.1

/-- Makes sure that a place is a directory. -/
def enter (d : Disk) (place : List String) : Except FileFault Unit :=
  if (d.content? place).isSome then .error .notDirectory
  else if d.isDirectory place then .ok ()
  else .error .notFound

/-- The greatest length of a component in bytes. -/
def longestName : Nat := 255

/-- The greatest length of a path in bytes. -/
def longestPath : Nat := 4095

/-- Follows one component of a path, out of a directory. -/
def follow (d : Disk) (place : List String) (component : String) : Except FileFault (List String) := do
  d.enter place
  if component = "." then return place
  if component = ".." then return place.dropLast
  if longestName < component.utf8ByteSize then throw .nameTooLong
  return place ++ [component]

/-- Follows components of a path from where the path starts. -/
def locate (d : Disk) (path : String) (components : List String) :
    Except FileFault (List String) := do
  if path.toList.contains (Char.ofNat 0) then throw .nulInName
  if path.isEmpty then throw .notFound
  if longestPath < path.utf8ByteSize then throw .nameTooLong
  components.foldlM d.follow (start d.here path)

/-- Reads a text. A path that ends with a `/` leads to a directory only. -/
def read (d : Disk) (path : String) : Except FileFault String := do
  let place ← d.locate path (components path ++ if endsOpen path then ["."] else [])
  match d.content? place with
  | some bytes =>
    match String.fromUTF8? bytes with
    | some text => return text
    | none => throw .notUtf8
  | none => throw (if d.isDirectory place then .isDirectory else .notFound)

/-- Writes a text; the directory around it must be there. No file is made at a path that ends with a `/`,
whatever stands there. -/
def write (d : Disk) (path text : String) : Except FileFault Disk := do
  if endsOpen path then
    d.enter (← d.locate path (components path).dropLast)
    throw .isDirectory
  let place ← d.locate path (components path)
  if d.isDirectory place then throw .isDirectory
  let others := d.files.filter fun file => file.1 != place
  return { d with files := others ++ [(place, text.toUTF8)] }

/-- Reading and writing on a disk that is held as a value. -/
def access : Files (StateM Disk) where
  read path := fun d => (d.read path, d)
  write path text := fun d =>
    match d.write path text with
    | .ok changed => (.ok (), changed)
    | .error fault => (.error fault, d)

end Disk

end SwaggerService.Command
