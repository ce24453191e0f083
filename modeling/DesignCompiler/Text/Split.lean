/-!
Contract: the parts of a text between separators.

Owns: `splitOn`, whose parts, joined by the separator, are the text again.

Does not own: which parts count.
-/

set_option autoImplicit false

namespace DesignCompiler.Text

def splitOn (separator : Char) : List Char → List (List Char)
  | [] => [[]]
  | c :: rest =>
    if c = separator then [] :: splitOn separator rest
    else
      match splitOn separator rest with
      | part :: parts => (c :: part) :: parts
      | [] => [[c]]

end DesignCompiler.Text
