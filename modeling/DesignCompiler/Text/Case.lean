/-!
Contract: case mappings of single characters, as far as their results hold ASCII letters.

Owns:
- `lowerChar` and `lower`, the lower-case form of a character and of a text;
- `upperLetters`, the ASCII letters and digits of a character's upper-case form.

Does not own: case mappings between characters beyond ASCII, which no name, marker or header
looks at.
-/

set_option autoImplicit false

namespace DesignCompiler.Text

def isAlphanumeric (c : Char) : Bool :=
  c.isAlphanum

/-- The lower-case form of a character whose lower-case form holds an ASCII letter; any other
character stands for itself.  Two characters beyond ASCII have such a form: the capital I with a
dot above and the Kelvin sign. -/
def lowerChar (c : Char) : List Char :=
  if c.toNat < 0x80 then [c.toLower]
  else if c.toNat = 0x130 then ['i', '\u0307']
  else if c.toNat = 0x212A then ['k']
  else [c]

def lower (cs : List Char) : List Char :=
  cs.flatMap lowerChar

/-- The characters beyond ASCII whose upper-case form holds ASCII letters, with these letters:
sharp s, dotless i, the letters with a mark that no capital carries, long s and the ligatures. -/
def capitalResidues : List (Nat × String) :=
  [(0xDF, "SS"), (0x131, "I"), (0x149, "N"), (0x17F, "S"), (0x1F0, "J"),
   (0x1E96, "H"), (0x1E97, "T"), (0x1E98, "W"), (0x1E99, "Y"), (0x1E9A, "A"),
   (0xFB00, "FF"), (0xFB01, "FI"), (0xFB02, "FL"), (0xFB03, "FFI"), (0xFB04, "FFL"),
   (0xFB05, "ST"), (0xFB06, "ST")]

/-- The ASCII letters and digits of a character's upper-case form. -/
def upperLetters (c : Char) : List Char :=
  if isAlphanumeric c then [c.toUpper]
  else ((capitalResidues.lookup c.toNat).getD "").toList

/-- The ASCII letters and digits of a character's lower-case form. -/
def lowerLetters (c : Char) : List Char :=
  (lowerChar c).filter isAlphanumeric

end DesignCompiler.Text
