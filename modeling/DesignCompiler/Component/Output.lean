import DesignCompiler.Component.Variant
import DesignCompiler.Files.Tree

/-!
Contract: where the sources of components are kept.

Owns:
- `outputPath`, the absolute path of a source, and `OutputFault`, why there is none;
- `write`, which keeps a source at its path.

Does not own: the sources, see `DesignCompiler.Component.Compile`.
-/

set_option autoImplicit false

namespace DesignCompiler.Component

open DesignCompiler.Files

inductive OutputFault where
  | unknownHome
  | nullCharacter
deriving DecidableEq

def OutputFault.message : OutputFault → String
  | .unknownHome => "Could not determine home directory."
  | .nullCharacter => nullCharacterMessage

def fileName (name : String) (variant : Variant) : String :=
  name ++ "." ++ variant.extension

/-- The path that is meant: the one asked for, or the component's own file. -/
def chosenPath (home name : String) (variant : Variant) (output : Option String)
    (users : Users := fun _ => none) : Option Path :=
  match output.filter fun path => !path.isEmpty with
  | some path => (Path.ofText path).expandHome home users
  | none => some (Path.ofText (fileName name variant))

/-- The absolute path of a source, as seen from the working directory. -/
def outputPath (here : Location) (home name : String) (variant : Variant)
    (output : Option String) (users : Users := fun _ => none) : Except OutputFault Path :=
  match chosenPath home name variant output users with
  | none =>
    if (output.getD "").toList.contains '\x00' then .error .nullCharacter else .error .unknownHome
  | some path =>
    if path.hasNull then .error .nullCharacter else .ok (path.resolve here)

/-- Keeps a source at a path, making the directories that lead to it. -/
def write (tree : Tree) (path : Path) (source : String) : Tree.Effect Unit :=
  tree.writeWithDirectories path (.text source)

end DesignCompiler.Component
