import DesignCompiler.Json.Basic
import DesignCompiler.Number.Literal
import DesignCompiler.Text.Encoding
import DesignCompiler.Text.Hexadecimal

/-!
Contract: reading JSON.

Owns:
- the readers of strings, numbers and values, each of which returns the rest of the input;
- the places of faults, counted as the characters that are left where the fault was seen;
- `Json.read`, which turns such a place into an offset, and `Json.readBytes?`.

Of an object's entries with one key the last value counts, in the place of the first.  Not-a-number
and the infinities are read by the names under which `DesignCompiler.Json.Text` writes them.
Integers of more digits than `maxIntegerDigits` are refused.

Texts hold no halves of surrogate pairs.  An escape that stands for one alone is read as the
replacement character, and so two strings that differ in such an escape only are read as one.
Values may be nested to any depth.

Does not own: encodings, see `DesignCompiler.Text.Encoding`.
-/

set_option autoImplicit false

namespace DesignCompiler.Json.Reader

inductive Stop where
  /-- The text is malformed at the place where this many characters are left. -/
  | malformed (left : Nat)
  | longInteger

/-- A fault at the place where the given characters are left. -/
def faultAt {α : Type} (rest : List Char) : Except Stop α :=
  .error (.malformed rest.length)

def maxIntegerDigits : Nat := 4300

/-- The blanks between tokens. -/
def isGap (c : Char) : Bool :=
  c == ' ' || c == '\t' || c == '\n' || c == '\r'

def skipGap (cs : List Char) : List Char :=
  cs.dropWhile isGap

def unit? (a b c d : Char) : Option Nat := do
  let a ← Text.hexValue a
  let b ← Text.hexValue b
  let c ← Text.hexValue c
  let d ← Text.hexValue d
  some (((a * 16 + b) * 16 + c) * 16 + d)

/-- The character after a backslash that stands for itself or for a control character. -/
def simpleEscape? : Char → Option Char
  | '"' => some '"'
  | '\\' => some '\\'
  | '/' => some '/'
  | 'b' => some '\x08'
  | 'f' => some '\x0C'
  | 'n' => some '\n'
  | 'r' => some '\r'
  | 't' => some '\t'
  | _ => none

/-- The character of a code unit that stands alone; a surrogate has none and is replaced. -/
def charOfUnit (unit : Nat) : Char :=
  (Text.charOfCodePoint unit).getD '\uFFFD'

def isHighSurrogate (unit : Nat) : Bool :=
  0xD800 ≤ unit && unit < 0xDC00

def isLowSurrogate (unit : Nat) : Bool :=
  0xDC00 ≤ unit && unit < 0xE000

def charOfPair (high low : Nat) : Char :=
  charOfUnit (0x10000 + (high - 0xD800) * 0x400 + (low - 0xDC00))

/-- Reads a `\u` escape whose `u` is `here.head`.  A character has to follow the digits. -/
def readUnit (here : List Char) : Except Stop (Nat × List Char) :=
  match here with
  | _ :: a :: b :: c :: d :: next :: rest =>
    match unit? a b c d with
    | some unit => .ok (unit, next :: rest)
    | none => faultAt here
  | _ => faultAt here

/-- Reads the escape after a backslash, `here` being the input from the backslash on. -/
def readEscape (opening here : List Char) : Except Stop (Char × List Char) :=
  match here with
  | _ :: 'u' :: rest => do
    let (unit, rest) ← readUnit ('u' :: rest)
    match rest with
    | '\\' :: 'u' :: second =>
      if isHighSurrogate unit && !(second.drop 4).isEmpty then do
        let (low, after) ← readUnit ('u' :: second)
        if isLowSurrogate low then .ok (charOfPair unit low, after)
        else .ok (charOfUnit unit, rest)
      else .ok (charOfUnit unit, rest)
    | _ => .ok (charOfUnit unit, rest)
  | _ :: c :: rest =>
    match simpleEscape? c with
    | some value => .ok (value, rest)
    | none => faultAt here
  | _ => faultAt opening

/-- Reads the characters of a string up to and with the closing quotation mark; `opening` is the
input from the opening one on. -/
def readStringChars (opening : List Char) : Nat → List Char → Except Stop (List Char × List Char)
  | 0, _ => faultAt opening
  | _ + 1, [] => faultAt opening
  | fuel + 1, c :: rest =>
    if c = '"' then .ok ([], rest)
    else if c = '\\' then do
      let (value, rest) ← readEscape opening (c :: rest)
      let (values, rest) ← readStringChars opening fuel rest
      .ok (value :: values, rest)
    else if c.toNat < 0x20 then faultAt (c :: rest)
    else do
      let (values, rest) ← readStringChars opening fuel rest
      .ok (c :: values, rest)

/-- Reads a string, `opening` being the input from its quotation mark on.  The count bounds the
characters that are read. -/
def readString (fuel : Nat) (opening : List Char) : Except Stop (String × List Char) := do
  let (values, rest) ← readStringChars opening fuel opening.tail
  .ok (String.ofList values, rest)

/-- Splits off a fraction: a point with digits after it. -/
def splitFraction : List Char → List Char × List Char
  | '.' :: rest =>
    if rest.head?.any Char.isDigit then (rest.takeWhile Char.isDigit, rest.dropWhile Char.isDigit)
    else ([], '.' :: rest)
  | cs => ([], cs)

/-- Splits off an exponent: a letter, an optional sign and digits. -/
def splitExponent (cs : List Char) : Option Int × List Char :=
  match cs with
  | c :: rest =>
    if c = 'e' || c = 'E' then
      let (negative, digits) := splitSign rest
      if digits.head?.any Char.isDigit then
        let n : Int := Nat.ofDigitChars 10 (digits.takeWhile Char.isDigit) 0
        (some (if negative then -n else n), digits.dropWhile Char.isDigit)
      else (none, cs)
    else (none, cs)
  | [] => (none, cs)

/-- Splits off the whole part of a number: a zero, or digits that do not begin with one. -/
def splitWhole : List Char → List Char × List Char
  | '0' :: rest => (['0'], rest)
  | cs => (cs.takeWhile Char.isDigit, cs.dropWhile Char.isDigit)

/-- Reads a number.  It is an integer unless it has a fraction or an exponent. -/
def readNumber (cs : List Char) : Except Stop (Number × List Char) :=
  let (negative, unsigned) := match cs with
    | '-' :: rest => (true, rest)
    | _ => (false, cs)
  let (whole, rest) := splitWhole unsigned
  if whole.isEmpty then faultAt cs
  else
    let (fraction, rest) := splitFraction rest
    let (exponent, rest) := splitExponent rest
    if fraction.isEmpty && exponent.isNone then
      if maxIntegerDigits < whole.length then .error .longInteger
      else
        let n : Int := Nat.ofDigitChars 10 whole 0
        .ok (.int (if negative then -n else n), rest)
    else
      .ok (.float (Literal.toBinary64 ⟨negative, whole, fraction, exponent.getD 0⟩), rest)

mutual

/-- Reads a value; the count bounds the nesting and length of what is read. -/
def readValue : Nat → List Char → Except Stop (Json × List Char)
  | 0, cs => faultAt cs
  | fuel + 1, cs =>
    match cs with
    | 'n' :: 'u' :: 'l' :: 'l' :: rest => .ok (.null, rest)
    | 't' :: 'r' :: 'u' :: 'e' :: rest => .ok (.bool true, rest)
    | 'f' :: 'a' :: 'l' :: 's' :: 'e' :: rest => .ok (.bool false, rest)
    | 'N' :: 'a' :: 'N' :: rest => .ok (.number (.float .nan), rest)
    | 'I' :: 'n' :: 'f' :: 'i' :: 'n' :: 'i' :: 't' :: 'y' :: rest =>
      .ok (.number (.float (.infinite false)), rest)
    | '-' :: 'I' :: 'n' :: 'f' :: 'i' :: 'n' :: 'i' :: 't' :: 'y' :: rest =>
      .ok (.number (.float (.infinite true)), rest)
    | '"' :: _ => do
      let (value, rest) ← readString fuel cs
      .ok (.string value, rest)
    | '[' :: rest =>
      match skipGap rest with
      | ']' :: rest => .ok (.array [], rest)
      | rest => do
        let (items, rest) ← readItems fuel rest
        .ok (.array items, rest)
    | '{' :: rest =>
      match skipGap rest with
      | '}' :: rest => .ok (.object [], rest)
      | rest => do
        let (fields, rest) ← readFields fuel [] rest
        .ok (.object fields, rest)
    | _ => do
      let (value, rest) ← readNumber cs
      .ok (.number value, rest)

/-- Reads the items of an array, of which there is at least one, and the closing bracket. -/
def readItems : Nat → List Char → Except Stop (List Json × List Char)
  | 0, cs => faultAt cs
  | fuel + 1, cs => do
    let (item, rest) ← readValue fuel cs
    match skipGap rest with
    | ']' :: rest => .ok ([item], rest)
    | ',' :: rest => do
      let (items, rest) ← readItems fuel (skipGap rest)
      .ok (item :: items, rest)
    | rest => faultAt rest

/-- Reads the entries of an object, of which there is at least one more, and the closing bracket;
`fields` holds the entries read before. -/
def readFields : Nat → Fields → List Char → Except Stop (Fields × List Char)
  | 0, _, cs => faultAt cs
  | fuel + 1, fields, cs =>
    match cs with
    | '"' :: _ => do
      let (key, rest) ← readString fuel cs
      match skipGap rest with
      | ':' :: rest => do
        let (value, rest) ← readValue fuel (skipGap rest)
        let fields := fields.put key value
        match skipGap rest with
        | '}' :: rest => .ok (fields, rest)
        | ',' :: rest => readFields fuel fields (skipGap rest)
        | rest => faultAt rest
      | rest => faultAt rest
    | _ => faultAt cs

end

/-- Reads a value that blanks may surround and nothing else may follow. -/
def readDocument (cs : List Char) : Except Stop Json := do
  let (value, rest) ← readValue (2 * cs.length + 2) (skipGap cs)
  match skipGap rest with
  | [] => .ok value
  | rest => faultAt rest

end Reader

inductive TextFault where
  /-- The text is malformed, as seen at an offset. -/
  | malformed (offset : Nat)
  | longInteger
deriving DecidableEq

def read (cs : List Char) : Except TextFault Json :=
  match Reader.readDocument cs with
  | .ok value => .ok value
  | .error (.malformed left) => .error (.malformed (cs.length - left))
  | .error .longInteger => .error .longInteger

def readBytes? (bytes : List UInt8) : Option Json :=
  (Text.decode bytes).bind fun cs => (read cs).toOption

end DesignCompiler.Json
