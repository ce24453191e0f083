import DesignCompiler.Number.Basic
import DesignCompiler.Number.Decimal
import DesignCompiler.Text.Blank
import DesignCompiler.Text.Case
import DesignCompiler.Text.Digit

/-!
Contract: numbers in texts that people write: headers and settings.

Owns:
- `Literal`, a decimal numeral taken apart, and `Literal.read?`;
- `Binary64.read?`, which also knows the names of the values that have no digits;
- `readInteger?` and `readDouble?`, which allow white space around the number, digits of any script
  and single underscores between digits.

Does not own: the numbers of JSON, see `DesignCompiler.Json.Reader`, nor those of design data, see
`DesignCompiler.Number.Lenient`.
-/

set_option autoImplicit false

namespace DesignCompiler

structure Literal where
  negative : Bool
  whole : List Char
  fraction : List Char
  exponent : Int

/-- Splits off an optional sign; the first component says whether it is a minus. -/
def splitSign : List Char → Bool × List Char
  | '-' :: rest => (true, rest)
  | '+' :: rest => (false, rest)
  | cs => (false, cs)

def digitsValue? (cs : List Char) : Option Nat :=
  if !cs.isEmpty && cs.all Char.isDigit then some (Nat.ofDigitChars 10 cs 0) else none

def signedDigits? (cs : List Char) : Option Int :=
  let (negative, digits) := splitSign cs
  (digitsValue? digits).map fun n => if negative then -(n : Int) else n

namespace Literal

def toBinary64 (l : Literal) : Binary64 :=
  Decimal.toBinary64 l.negative
    ⟨Nat.ofDigitChars 10 (l.whole ++ l.fraction) 0, l.exponent - l.fraction.length⟩

/-- The exponent that ends a numeral; an absent one is zero. -/
def readExponent? : List Char → Option Int
  | [] => some 0
  | 'e' :: rest => signedDigits? rest
  | 'E' :: rest => signedDigits? rest
  | _ => none

/-- Reads a numeral: an optional sign, digits with at most one point among or around them, and an
optional exponent. -/
def read? (cs : List Char) : Option Literal :=
  let (negative, unsigned) := splitSign cs
  let whole := unsigned.takeWhile Char.isDigit
  let (fraction, rest) :=
    match unsigned.dropWhile Char.isDigit with
    | '.' :: rest => (rest.takeWhile Char.isDigit, rest.dropWhile Char.isDigit)
    | rest => ([], rest)
  if whole.isEmpty && fraction.isEmpty then none
  else (readExponent? rest).map fun exponent => ⟨negative, whole, fraction, exponent⟩

end Literal

/-- The double that a text without blanks denotes: a numeral, or the name of an infinity or of the
undefined number in any case of letters, with an optional sign. -/
def Binary64.read? (cs : List Char) : Option Binary64 :=
  let (negative, unsigned) := splitSign cs
  let name := String.ofList (unsigned.map Char.toLower)
  if name = "inf" || name = "infinity" then some (.infinite negative)
  else if name = "nan" then some .nan
  else (Literal.read? cs).map Literal.toBinary64

/-- Removes the underscores of a numeral, none if one of them does not stand between two digits. -/
def dropSeparators : Bool → List Char → Option (List Char)
  | _, [] => some []
  | afterDigit, '_' :: rest =>
    if afterDigit && (rest.head?.any Char.isDigit) then dropSeparators false rest else none
  | _, c :: rest => (dropSeparators c.isDigit rest).map (c :: ·)

/-- Writes a decimal digit of any script as the ASCII digit of the same value. -/
def asciiDigit (c : Char) : Char :=
  match Text.digitValue c with
  | some value => Char.ofNat (0x30 + value)
  | none => c

/-- A written numeral without the white space around it and the underscores in it. -/
def plainNumeral? (s : String) : Option (List Char) :=
  dropSeparators false ((Text.trimBy Text.isWhiteSpace s.toList).map asciiDigit)

def readInteger? (s : String) : Option Int :=
  (plainNumeral? s).bind signedDigits?

def readDouble? (s : String) : Option Binary64 :=
  (plainNumeral? s).bind Binary64.read?

end DesignCompiler
