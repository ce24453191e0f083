/-!
Contract: searching a text.

Owns: `firstMatch?`, what a partial reader finds at the first place where it finds anything.

Does not own: the readers.
-/

set_option autoImplicit false

namespace DesignCompiler.Text

/-- What a partial reader finds at the first place where it finds anything. -/
def firstMatch? {α : Type} (reader : List Char → Option α) : List Char → Option α
  | [] => reader []
  | c :: rest =>
    match reader (c :: rest) with
    | some found => some found
    | none => firstMatch? reader rest

end DesignCompiler.Text
