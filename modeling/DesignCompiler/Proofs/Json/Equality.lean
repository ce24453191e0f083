import DesignCompiler.Json.Basic

/-!
Contract: JSON values can be compared.

Owns: the decision whether two values are the same, along their items and entries.

Does not own: values that differ in the order of entries only, which are different ones here.
-/

set_option autoImplicit false

namespace DesignCompiler.Json

mutual

def isSame : Json → Json → Bool
  | .null, .null => true
  | .bool first, .bool second => first == second
  | .number first, .number second => first == second
  | .string first, .string second => first == second
  | .array first, .array second => areSame first second
  | .object first, .object second => haveSameFields first second
  | _, _ => false

def areSame : List Json → List Json → Bool
  | [], [] => true
  | first :: rest, second :: rest' => isSame first second && areSame rest rest'
  | _, _ => false

def haveSameFields : List (String × Json) → List (String × Json) → Bool
  | [], [] => true
  | (key, first) :: rest, (key', second) :: rest' =>
    key == key' && isSame first second && haveSameFields rest rest'
  | _, _ => false

end

mutual

theorem isSame_iff (first second : Json) : isSame first second = true ↔ first = second := by
  match first with
  | .array items =>
    cases second with
    | array items' => simp [isSame, areSame_iff items items']
    | _ => simp [isSame]
  | .object fields =>
    cases second with
    | object fields' => simp [isSame, haveSameFields_iff fields fields']
    | _ => simp [isSame]
  | .null | .bool _ | .number _ | .string _ => cases second <;> simp [isSame]

theorem areSame_iff (first second : List Json) : areSame first second = true ↔ first = second := by
  match first, second with
  | [], [] => simp [areSame]
  | [], _ :: _ | _ :: _, [] => simp [areSame]
  | item :: rest, item' :: rest' => simp [areSame, isSame_iff item item', areSame_iff rest rest']

theorem haveSameFields_iff (first second : List (String × Json)) :
    haveSameFields first second = true ↔ first = second := by
  match first, second with
  | [], [] => simp [haveSameFields]
  | [], _ :: _ | _ :: _, [] => simp [haveSameFields]
  | (key, value) :: rest, (key', value') :: rest' =>
    simp [haveSameFields, isSame_iff value value', haveSameFields_iff rest rest']

end

instance : DecidableEq Json :=
  fun first second => decidable_of_iff _ (isSame_iff first second)

end DesignCompiler.Json
