import DesignCompiler.Files.Path
import DesignCompiler.Number.Layout
import DesignCompiler.Text.Quoted
import DesignCompiler.Text.Utf8

/-!
Contract: directories and files.

Owns:
- `Content`, what a file holds;
- `Tree`, the entries at all places, and the working directory;
- reading and writing files, and making directories with all that lead to them;
- `FileError`, what the system says when one of these fails.

Does not own: which files are read and written.
-/

set_option autoImplicit false

namespace DesignCompiler.Files

/-- What a file holds: a text, or bytes that are none. -/
inductive Content where
  | text (value : String)
  | binary (bytes : List UInt8)
deriving DecidableEq

def Content.ofBytes (bytes : List UInt8) : Content :=
  match Text.utf8Strict bytes with
  | some cs => .text (String.ofList cs)
  | none => .binary bytes

inductive Entry where
  | directory
  | file (content : Content)
deriving DecidableEq

inductive FileCause where
  | notFound
  | exists
  | notDirectory
  | isDirectory
  | nameTooLong
  /-- The path holds the null character, of which the system is not even told. -/
  | nullCharacter
deriving DecidableEq

/-- The number and the description of a cause that the system gives. -/
def FileCause.systemText? : FileCause → Option (Nat × String)
  | .notFound => some (2, "No such file or directory")
  | .exists => some (17, "File exists")
  | .notDirectory => some (20, "Not a directory")
  | .isDirectory => some (21, "Is a directory")
  | .nameTooLong => some (36, "File name too long")
  | .nullCharacter => none

def nullCharacterMessage : String :=
  "embedded null byte"

structure FileError where
  cause : FileCause
  path : Path
deriving DecidableEq

def FileError.message (error : FileError) : String :=
  match error.cause.systemText? with
  | some (number, text) =>
    "[Errno " ++ (Number.int number).text ++ "] " ++ text ++ ": " ++ Text.quoted error.path.text
  | none => nullCharacterMessage

/-- All entries, the last one first, and the working directory. -/
structure Tree where
  here : Location
  entries : List (Location × Entry) := []

namespace Tree

/-- What stands at a place; the root is a directory. -/
def entry? (tree : Tree) (location : Location) : Option Entry :=
  if location = [] then some .directory else tree.entries.lookup location

def isTooLong (name : String) : Bool :=
  255 < name.utf8ByteSize

/-- Walks from a directory along some names, all of which have to be directories. -/
def descend (tree : Tree) : Location → List String → Except FileCause Location
  | place, [] => .ok place
  | place, name :: rest =>
    if name = ".." then tree.descend place.dropLast rest
    else if isTooLong name then .error .nameTooLong
    else match tree.entry? (place ++ [name]) with
      | some .directory => tree.descend (place ++ [name]) rest
      | some (.file _) => .error .notDirectory
      | none => .error .notFound

/-- Where walking along a path begins. -/
def start (tree : Tree) (path : Path) : Location :=
  if path.slashes = 0 then tree.here else []

/-- The place that a path names, whose directory has to exist; none for a path that ends with a
directory by its form. -/
def target (tree : Tree) (path : Path) : Except FileCause (Option Location) :=
  if path.hasNull then .error .nullCharacter
  else match path.names.getLast? with
  | none => .ok none
  | some name => do
    let directory ← tree.descend (tree.start path) path.names.dropLast
    if name = ".." then .ok none
    else if isTooLong name then .error .nameTooLong
    else .ok (some (directory ++ [name]))

def isDirectory (tree : Tree) (path : Path) : Bool :=
  match tree.descend (tree.start path) path.names with
  | .ok _ => true
  | .error _ => false

def put (tree : Tree) (location : Location) (entry : Entry) : Tree :=
  { tree with entries := (location, entry) :: tree.entries.filter fun other => other.1 ≠ location }

def makeDirectory (tree : Tree) (path : Path) : Except FileCause Tree := do
  match ← tree.target path with
  | none => .error .exists
  | some location =>
    match tree.entry? location with
    | some _ => .error .exists
    | none => .ok (tree.put location .directory)

/-- The tree after something was done to it, and the result. -/
abbrev Effect (α : Type) := Tree × Except FileError α

/-- Makes one directory, unless there is one. -/
def ensureDirectory (tree : Tree) (path : Path) : Effect Unit :=
  match tree.makeDirectory path with
  | .ok tree => (tree, .ok ())
  | .error cause =>
    if tree.isDirectory path then (tree, .ok ()) else (tree, .error ⟨cause, path⟩)

/-- Makes a directory and, where they are missing, up to `depth` ones above it. -/
def makeDirectoriesUpTo : Nat → Tree → Path → Effect Unit
  | 0, tree, path => tree.ensureDirectory path
  | depth + 1, tree, path =>
    match tree.makeDirectory path with
    | .error .notFound =>
      match makeDirectoriesUpTo depth tree path.parent with
      | (tree, .ok ()) => tree.ensureDirectory path
      | failed => failed
    | _ => tree.ensureDirectory path

/-- Makes a directory with all that lead to it. -/
def makeDirectories (tree : Tree) (path : Path) : Effect Unit :=
  makeDirectoriesUpTo path.names.length tree path

/-- Writes a file in an existing directory. -/
def writeFile (tree : Tree) (path : Path) (content : Content) : Effect Unit :=
  match tree.target path with
  | .error cause => (tree, .error ⟨cause, path⟩)
  | .ok none => (tree, .error ⟨.isDirectory, path⟩)
  | .ok (some location) =>
    match tree.entry? location with
    | some .directory => (tree, .error ⟨.isDirectory, path⟩)
    | _ => (tree.put location (.file content), .ok ())

def writeWithDirectories (tree : Tree) (path : Path) (content : Content) : Effect Unit :=
  match tree.makeDirectories path.parent with
  | (tree, .ok ()) => tree.writeFile path content
  | failed => failed

def readFile (tree : Tree) (path : Path) : Except FileError Content :=
  match tree.target path with
  | .error cause => .error ⟨cause, path⟩
  | .ok none => .error ⟨.isDirectory, path⟩
  | .ok (some location) =>
    match tree.entry? location with
    | some (.file content) => .ok content
    | some .directory => .error ⟨.isDirectory, path⟩
    | none => .error ⟨.notFound, path⟩

def filesBelow (tree : Tree) (place : Location) : List (String × Content) :=
  tree.entries.filterMap fun found =>
    match found.2 with
    | .file content =>
      if place.isPrefixOf found.1 then
        some ("/".intercalate (found.1.drop place.length), content)
      else none
    | .directory => none

/-- The tree that holds nothing but its working directory and the directories that lead to it. -/
def empty (here : Location) : Tree :=
  let ancestors := (List.range here.length).map fun n => here.take (n + 1)
  { here, entries := ancestors.map fun location => (location, .directory) }

end Tree

end DesignCompiler.Files
