import DesignCompiler.Design.Node
import DesignCompiler.Number.Lenient

/-!
Contract: the fields of the records of a design file.

Owns:
- the two spellings of a field's name and which of them counts;
- the entries of an object that a record does not declare;
- the values that a field of each type admits.

Does not own: which fields the records have.
-/

set_option autoImplicit false

namespace DesignCompiler.Design

/-- The spelling of a name in lower case with underscores between its words. -/
def snakeCase (name : String) : String :=
  String.ofList (name.toList.flatMap fun c => if c.isUpper then ['_', c.toLower] else [c])

/-- The value of a declared field: the one under its own name, or else under the name's other
spelling. -/
def field? (fields : Fields) (name : String) : Option Json :=
  match fields.lookup name with
  | some value => some value
  | none => fields.lookup (snakeCase name)

/-- Whether an entry with the given key is the value of a declared field. -/
def isDeclared (declared : List String) (fields : Fields) (key : String) : Bool :=
  declared.contains key
    || declared.any fun name => snakeCase name == key && !fields.has name

/-- The entries that belong to no declared field, in order. -/
def extrasOf (declared : List String) (fields : Fields) : Fields :=
  fields.filter fun entry => !isDeclared declared fields entry.1

/-- The number that a value denotes in a numeric field. -/
def number? : Json → Option Number
  | .number value => some value
  | .bool value => some (.int (if value then 1 else 0))
  | .string value => lenientNumber? value
  | _ => none

/-- The texts that denote a truth value, in lower case. -/
def flagTexts : List (String × Bool) :=
  [("0", false), ("off", false), ("f", false), ("false", false), ("n", false), ("no", false),
   ("1", true), ("on", true), ("t", true), ("true", true), ("y", true), ("yes", true)]

def flag? : Json → Option Bool
  | .bool value => some value
  | .number value =>
    match value.plain with
    | .int 0 => some false
    | .int 1 => some true
    | _ => none
  | .string value => flagTexts.lookup (String.ofList (value.toList.map Char.toLower))
  | _ => none

/-- An optional numeric field; a malformed one counts as absent. -/
def optionalNumber (fields : Fields) (name : String) : Option Number :=
  (field? fields name).bind number?

/-- An optional text field; a malformed one counts as absent. -/
def optionalText (fields : Fields) (name : String) : Option String :=
  (field? fields name).bind Json.text?

/-- A numeric field with a default.  A malformed one, null included, is a fault of the record. -/
def requiredNumber (fields : Fields) (name : String) (default : Number) : Option Number :=
  match field? fields name with
  | none => some default
  | some value => number? value

end DesignCompiler.Design
