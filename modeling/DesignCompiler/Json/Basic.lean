import DesignCompiler.Number.Basic

/-!
Contract: JSON values whose objects remember the order of their entries.

Owns:
- `Json` and the entries of objects: `lookup`, `put`, `without`;
- `Json.isBlank`, the values that stand for an absent one.

Does not own: the texts of values, see `DesignCompiler.Json.Text` and `DesignCompiler.Json.Reader`.
-/

set_option autoImplicit false

namespace DesignCompiler

inductive Json where
  | null
  | bool (value : Bool)
  | number (value : Number)
  | string (value : String)
  | array (items : List Json)
  | object (fields : List (String × Json))

/-- The entries of an object, in order. -/
abbrev Fields := List (String × Json)

namespace Fields

def lookup (fields : Fields) (key : String) : Option Json :=
  List.lookup key fields

def has (fields : Fields) (key : String) : Bool :=
  (fields.lookup key).isSome

/-- Stores a value: in the place of the key's old value, or at the end. -/
def put (key : String) (value : Json) : Fields → Fields
  | [] => [(key, value)]
  | entry :: rest =>
    if entry.1 = key then (key, value) :: rest else entry :: put key value rest

def without (keys : List String) (fields : Fields) : Fields :=
  fields.filter fun entry => !keys.contains entry.1

end Fields

namespace Json

def ofNat (n : Nat) : Json :=
  .number (.int n)

/-- The values that count as absent: null, false, zero and everything empty. -/
def isBlank : Json → Bool
  | .null => true
  | .bool value => !value
  | .number value => value.isZero
  | .string value => value.isEmpty
  | .array items => items.isEmpty
  | .object fields => fields.isEmpty

def isNull : Json → Bool
  | .null => true
  | _ => false

/-- The value under a key of an object; other values have no keys. -/
def get? (value : Json) (key : String) : Option Json :=
  match value with
  | .object fields => fields.lookup key
  | _ => none

def text? : Json → Option String
  | .string value => some value
  | _ => none

def ofText? : Option String → Json
  | some value => .string value
  | none => .null

end Json

end DesignCompiler
