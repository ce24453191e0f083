import DesignCompiler.Text.Split

/-!
Contract: paths of files, as texts and as names of places.

Owns:
- `Path`, a text without repeated and pointless separators;
- `Path.resolve`, the absolute path without steps upwards;
- `Path.expandHome`, in which a leading tilde stands for a home directory, that of the user who is
  named behind it or one's own.

Does not own: what stands at a path, see `DesignCompiler.Files.Tree`, nor who the users are: they
are a parameter.
-/

set_option autoImplicit false

namespace DesignCompiler.Files

/-- A place: the names on the way from the root. -/
abbrev Location := List String

/-- The home directories of the users that a system knows. -/
abbrev Users := String → Option String

structure Path where
  /-- How many separators it begins with: none if it is relative, and two keep their own meaning. -/
  slashes : Nat
  names : List String
deriving DecidableEq

namespace Path

/-- How many separators a text begins with, three and more being as good as one. -/
def leadingSlashes : List Char → Nat
  | '/' :: '/' :: '/' :: _ => 1
  | '/' :: '/' :: _ => 2
  | '/' :: _ => 1
  | _ => 0

def ofText (text : String) : Path :=
  let cs := text.toList
  let names := (Text.splitOn '/' cs).filter fun name => name ≠ [] && name ≠ ['.']
  ⟨leadingSlashes cs, names.map String.ofList⟩

def text (path : Path) : String :=
  if path.slashes = 0 ∧ path.names = [] then "."
  else String.ofList (List.replicate path.slashes '/') ++ "/".intercalate path.names

/-- Whether the null character stands in a path; no file has such a name. -/
def hasNull (path : Path) : Bool :=
  path.names.any fun name => name.toList.contains '\x00'

def child (path : Path) (name : String) : Path :=
  { path with names := path.names ++ [name] }

/-- A path continued by another one, which counts alone if it is absolute. -/
def append (path other : Path) : Path :=
  if other.slashes = 0 then { path with names := path.names ++ other.names } else other

/-- The path without its last name. -/
def parent (path : Path) : Path :=
  { path with names := path.names.dropLast }

def ofLocation (location : Location) : Path :=
  ⟨1, location⟩

/-- Resolves steps upwards; `done` holds the names before, the last one first. -/
def resolveUp : List String → List String → List String
  | done, [] => done.reverse
  | done, name :: rest =>
    if name = ".." then resolveUp done.tail rest else resolveUp (name :: done) rest

def locate (path : Path) (directory : Location) : Location :=
  resolveUp [] (if path.slashes = 0 then directory ++ path.names else path.names)

/-- The absolute path without steps upwards. -/
def resolve (path : Path) (directory : Location) : Path :=
  ofLocation (path.locate directory)

/-- A home directory, as a text of the system, without separators at its end. -/
def homeOf (home : String) : String :=
  let trimmed := String.ofList (home.toList.reverse.dropWhile (· == '/')).reverse
  if trimmed.isEmpty then "/" else trimmed

/-- Replaces a leading tilde by one's own home directory, or by that of the user whose name follows
it.  There is no path if the user is not known or a home directory begins with a tilde itself. -/
def expandHome (path : Path) (home : String) (users : Users := fun _ => none) : Option Path :=
  match path.slashes, path.names with
  | 0, first :: rest =>
    match first.toList with
    | '~' :: user => do
      let found ← if user.isEmpty then some home else users (String.ofList user)
      let root := ofText (homeOf found)
      if (homeOf found).toList.head? = some '~' then none
      else some { root with names := root.names ++ rest }
    | _ => some path
  | _, _ => some path

end Path

end DesignCompiler.Files
