import DesignCompiler.Json.Basic
import DesignCompiler.Number.Layout
import DesignCompiler.Text.Quoted

/-!
Contract: how a JSON value is shown inside a message.

Owns:
- `Json.displayChars`, the text of a value inside another one, with quoted strings;
- `Json.display`, the text of a value by itself, where a string stands as it is.

Does not own: JSON texts, see `DesignCompiler.Json.Text`.
-/

set_option autoImplicit false

namespace DesignCompiler.Json

mutual

def displayChars : Json → List Char
  | .null => "None".toList
  | .bool true => "True".toList
  | .bool false => "False".toList
  | .number value => value.text.toList
  | .string value => (Text.quoted value).toList
  | .array [] => ['[', ']']
  | .array (first :: rest) => '[' :: displayChars first ++ displayItems rest ++ [']']
  | .object [] => ['{', '}']
  | .object ((key, first) :: rest) =>
    '{' :: (Text.quoted key).toList ++ [':', ' '] ++ displayChars first ++ displayFields rest
      ++ ['}']

def displayItems : List Json → List Char
  | [] => []
  | item :: rest => ',' :: ' ' :: displayChars item ++ displayItems rest

def displayFields : List (String × Json) → List Char
  | [] => []
  | (key, value) :: rest =>
    ',' :: ' ' :: (Text.quoted key).toList ++ [':', ' '] ++ displayChars value ++ displayFields rest

end

def display : Json → String
  | .string value => value
  | value => String.ofList value.displayChars

end DesignCompiler.Json
