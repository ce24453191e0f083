/-!
Contract: the characters that count as blank, and trimming by a class of characters.

Owns:
- `isBlank`, the characters that separate words in layer names and that are trimmed from text;
- `isWhiteSpace`, the narrower class that may surround a number in design data;
- `trimBy`, which removes a class of characters from both ends of a text.

Does not own: which of the two classes a particular reader uses.
-/

set_option autoImplicit false

namespace DesignCompiler.Text

/-- The characters with the standard property `White_Space`. -/
def isWhiteSpace (c : Char) : Bool :=
  let n := c.toNat
  (0x09 ≤ n && n ≤ 0x0D) || n == 0x20 || n == 0x85 || n == 0xA0 || n == 0x1680
    || (0x2000 ≤ n && n ≤ 0x200A) || n == 0x2028 || n == 0x2029 || n == 0x202F
    || n == 0x205F || n == 0x3000

/-- A blank is a white-space character or one of the four information separators. -/
def isBlank (c : Char) : Bool :=
  isWhiteSpace c || (0x1C ≤ c.toNat && c.toNat ≤ 0x1F)

/-- What is left of a text after the characters of a class are taken from both ends. -/
def trimBy (p : Char → Bool) (cs : List Char) : List Char :=
  ((cs.dropWhile p).reverse.dropWhile p).reverse

def strip (s : String) : String :=
  String.ofList (trimBy isBlank s.toList)

end DesignCompiler.Text
