import DesignCompiler.Text.Blank
import DesignCompiler.Text.Case

/-!
Contract: the names of components.

Owns:
- `derive`, the component name made of the words of a layer name;
- `validate`, the check of a name that a user gives, and `NameError`;
- `suggest`, the name that is used when the user gives none.

Does not own: where names appear in a source, see `DesignCompiler.Component.Template`.
-/

set_option autoImplicit false

namespace DesignCompiler.Component

/-- The characters between the words of a layer name. -/
def isSeparator (c : Char) : Bool :=
  Text.isBlank c || c == '-' || c == '_' || c == '/'

/-- The letters and digits of a layer name, where the first character of every word is written as a
capital and the others in lower case.  The flag says whether a word begins here. -/
def wordLetters : Bool → List Char → List Char
  | _, [] => []
  | begins, c :: rest =>
    if isSeparator c then wordLetters true rest
    else (if begins then Text.upperLetters c else Text.lowerLetters c) ++ wordLetters false rest

/-- The component name of a layer name that has letters or digits, and the empty one of others. -/
def core (layerName : String) : List Char :=
  wordLetters true layerName.toList

def derive (layerName : String) : String :=
  match core layerName with
  | [] => "Component"
  | letters => String.ofList letters

/-- The layer name without everything but letters and digits. -/
def plainName (layerName : String) : String :=
  String.ofList (layerName.toList.filter Text.isAlphanumeric)

inductive NameError where
  | empty
  | notCapital
  | notAlphanumeric
deriving DecidableEq

def NameError.message : NameError → String
  | .empty => "Component name cannot be empty"
  | .notCapital => "Component name must start with an uppercase letter"
  | .notAlphanumeric => "Component name can only contain letters and numbers"

/-- Checks a name: a capital letter, and then letters and digits. -/
def validate (name : String) : Except NameError String :=
  if name.toList.all Text.isBlank then .error .empty
  else if !(name.toList.head?.any Char.isUpper) then .error .notCapital
  else if !(name.toList.all Text.isAlphanumeric) then .error .notAlphanumeric
  else .ok name

/-- The name used for a layer when none is given: its own, if that is valid without its
punctuation. -/
def suggest (layerName : String) : String :=
  match validate (plainName layerName) with
  | .ok name => name
  | .error _ => derive layerName

end DesignCompiler.Component
