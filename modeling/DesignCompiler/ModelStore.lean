import DesignCompiler.Files.Tree
import DesignCompiler.Json.Reader
import DesignCompiler.Json.Text

/-!
Contract: the remembered choice of a language model.

Owns:
- the file that holds it, an object of which all other entries are kept;
- reading it, where everything but an object reads as an empty one;
- `resolve`, the model to be used.

Does not own: what models there are.
-/

set_option autoImplicit false

namespace DesignCompiler.ModelStore

open DesignCompiler.Files

def modelKey : String := "selectedModel"

def file (directory : Path) : Path :=
  directory.child "config.json"

def entriesOf : Content → Fields
  | .binary _ => []
  | .text value =>
    match Json.read value.toList with
    | .ok (.object fields) => fields
    | _ => []

def read (tree : Tree) (directory : Path) : Fields :=
  match tree.readFile (file directory) with
  | .ok content => entriesOf content
  | .error _ => []

def contentOf (fields : Fields) : Content :=
  .text ((Json.object fields).render .indented)

def save (tree : Tree) (directory : Path) (fields : Fields) : Tree.Effect Path :=
  match tree.writeWithDirectories (file directory) (contentOf fields) with
  | (tree, .ok ()) => (tree, .ok (file directory))
  | (tree, .error error) => (tree, .error error)

def selected (tree : Tree) (directory : Path) : Option Json :=
  (read tree directory).lookup modelKey

def select (tree : Tree) (directory : Path) (model : String) : Tree.Effect Path :=
  save tree directory ((read tree directory).put modelKey (.string model))

/-- The model to be used: the one asked for, else the one that is kept, else the usual one. -/
def resolve (explicit : Option String) (selected : Option Json) (usual : String) : Json :=
  match explicit.filter fun model => !model.isEmpty with
  | some model => .string model
  | none => (selected.filter fun model => !model.isBlank).getD (.string usual)

end DesignCompiler.ModelStore
