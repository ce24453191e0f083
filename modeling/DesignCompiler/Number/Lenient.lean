import DesignCompiler.Number.Literal

/-!
Contract: numbers that design data gives as texts.

Owns:
- `lenientInteger?`, which reads integers also with leading zeros, a fraction of zeros and single
  underscores;
- `lenientNumber?`, which takes a text that is no integer as a double.

Does not own: which fields of design data are numbers.
-/

set_option autoImplicit false

namespace DesignCompiler

/-- Whether a text is an integer in its usual form: no plus sign and no leading zero. -/
def usualInteger? (cs : List Char) : Option Int :=
  let digits := match cs with
    | '-' :: rest => rest
    | _ => cs
  match digits with
  | '0' :: _ :: _ => none
  | _ => signedDigits? (if digits.head? = some '+' then [] else cs)

/-- Removes underscores, none if one stands at an end or next to another one. -/
def dropInnerUnderscores (cs : List Char) : Option (List Char) :=
  let rec doubled : List Char → Bool
    | '_' :: '_' :: _ => true
    | _ :: rest => doubled rest
    | [] => false
  if cs.head? = some '_' || cs.getLast? = some '_' || doubled cs then none
  else some (cs.filter (· != '_'))

/-- Removes leading zeros and underscores that follow a first zero.  A zero before a point stays,
and of nothing but zeros the last character stays. -/
def dropLeadingZeros (cs : List Char) : Option (List Char) :=
  match cs with
  | '0' :: rest =>
    match rest.dropWhile fun c => c == '0' || c == '_' with
    | [] => some (cs.drop (cs.length - 1))
    | '.' :: digits => some ('0' :: '.' :: digits)
    | c :: digits => if c.isDigit then some (c :: digits) else none
  | '-' :: _ => some cs
  | c :: _ => if c.isDigit then some cs else none
  | [] => none

/-- Removes a point and the zeros after it, of which there has to be one; none if another
character follows the point. -/
def dropZeroFraction (cs : List Char) : Option (List Char) :=
  match cs.dropWhile (· != '.') with
  | [] => some cs
  | _ :: fraction =>
    if !fraction.isEmpty && fraction.all (· == '0') then some (cs.takeWhile (· != '.')) else none

def maxIntegerLength : Nat := 4300

def lenientInteger? (cs : List Char) : Option Int :=
  let text := Text.trimBy Text.isWhiteSpace cs
  if maxIntegerLength < text.length then none
  else match usualInteger? text with
  | some i => some i
  | none => do
    let unsigned ← match text with
      | '+' :: '-' :: _ => none
      | '+' :: rest => some rest
      | _ => some text
    let significant ← dropLeadingZeros unsigned
    let whole ← dropZeroFraction significant
    let digits ← dropInnerUnderscores whole
    usualInteger? digits

/-- A double in any of the forms that a numeric field admits: blanks may surround it, or else
underscores may stand in it. -/
def lenientDouble? (cs : List Char) : Option Binary64 :=
  match Binary64.read? (Text.trimBy Text.isWhiteSpace cs) with
  | some x => some x
  | none => (dropInnerUnderscores cs).bind Binary64.read?

/-- The number that a text denotes in a numeric field. -/
def lenientNumber? (s : String) : Option Number :=
  match lenientInteger? s.toList with
  | some i => some (.int i)
  | none => (lenientDouble? s.toList).map .float

end DesignCompiler
