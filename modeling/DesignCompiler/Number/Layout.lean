import DesignCompiler.Number.Basic
import DesignCompiler.Number.Shortest

/-!
Contract: the texts of numbers.

Owns:
- `Layout`, the choices that a text of decimal digits leaves open, and `Layout.text`, which makes
  them;
- the three layouts in use: `Layout.full` for JSON and messages, `Layout.css` for style values and
  `Layout.brief` for waits;
- `Number.text`, `Number.cssText` and `Number.briefText?`.

Does not own: reading numbers, see `DesignCompiler.Number.Literal`.
-/

set_option autoImplicit false

namespace DesignCompiler

def integerChars (i : Int) : List Char :=
  if i < 0 then '-' :: Nat.toDigits 10 i.natAbs else Nat.toDigits 10 i.natAbs

/-- How the digits of a double are laid out. -/
structure Layout where
  /-- The least power of ten of the first digit for which the text has no exponent. -/
  positionalFrom : Int
  /-- The least power of ten above it for which the text has an exponent again. -/
  exponentFrom : Int
  /-- The least count of digits of an exponent. -/
  exponentWidth : Nat
  /-- Whether a text without exponent always has a fraction. -/
  keepsFraction : Bool

namespace Layout

/-- The layout that tells doubles from integers: always a fraction or an exponent. -/
def full : Layout := ⟨-4, 16, 2, true⟩

/-- The layout of numbers in style values. -/
def css : Layout := ⟨-6, 21, 1, false⟩

/-- The layout of seconds in messages. -/
def brief : Layout := ⟨-4, 6, 2, false⟩

def exponentChars (width : Nat) (exponent : Int) : List Char :=
  let digits := Nat.toDigits 10 exponent.natAbs
  (if exponent < 0 then '-' else '+') :: List.replicate (width - digits.length) '0' ++ digits

def positionalChars (layout : Layout) (d : Decimal) : List Char :=
  let digits := d.digitChars
  let fraction := if layout.keepsFraction then ['.', '0'] else []
  match d.exponent with
  | .ofNat n => digits ++ List.replicate n '0' ++ fraction
  | .negSucc n =>
    let places := n + 1
    if digits.length ≤ places then
      '0' :: '.' :: List.replicate (places - digits.length) '0' ++ digits
    else
      digits.take (digits.length - places) ++ '.' :: digits.drop (digits.length - places)

def exponentialChars (layout : Layout) (d : Decimal) : List Char :=
  let exponent := 'e' :: exponentChars layout.exponentWidth d.leadingExponent
  match d.digitChars with
  | first :: second :: rest => first :: '.' :: second :: rest ++ exponent
  | digits => digits ++ exponent

def decimalChars (layout : Layout) (d : Decimal) : List Char :=
  if d.digits = 0
      ∨ (layout.positionalFrom ≤ d.leadingExponent ∧ d.leadingExponent < layout.exponentFrom)
  then layout.positionalChars d
  else layout.exponentialChars d

/-- The text of a double of which `digitsOf` gives the digits. -/
def chars (layout : Layout) (digitsOf : Binary64.Finite → Decimal) : Binary64 → List Char
  | .nan => ['n', 'a', 'n']
  | .infinite negative => (if negative then ['-'] else []) ++ ['i', 'n', 'f']
  | .finite value => (if value.negative then ['-'] else []) ++ layout.decimalChars (digitsOf value)

end Layout

/-- The shortest text that reads back as the double and not as an integer. -/
def Binary64.text (x : Binary64) : String :=
  String.ofList (Layout.full.chars Binary64.Finite.shortest x)

namespace Number

def text : Number → String
  | .int value => String.ofList (integerChars value)
  | .float value => value.text

/-- The text of a number in a style value.  Below `10 ^ 21` an integral double is written as the
integer it is. -/
def cssText : Number → String
  | .int value => String.ofList (integerChars value)
  | .float value =>
    match value.toInt? with
    | some i =>
      if i.natAbs < Nat.pow 10 21 then String.ofList (integerChars i)
      else String.ofList (Layout.css.chars Binary64.Finite.shortest value)
    | none => String.ofList (Layout.css.chars Binary64.Finite.shortest value)

/-- The text of seconds with six significant digits; none for an integer beyond all doubles. -/
def briefText? (n : Number) : Option String :=
  n.toBinary64?.map fun value =>
    String.ofList (Layout.brief.chars (fun finite => finite.rounded 6) value)

end Number

end DesignCompiler
