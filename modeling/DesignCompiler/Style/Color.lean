import DesignCompiler.Design.Node
import DesignCompiler.Number.Layout

/-!
Contract: colours as style values.

Owns:
- the whole-number channels, where a half is rounded up;
- `ColorFault`, the numbers that have no whole-number channel;
- `Color.cssText?`, with the opacity shown only where it is less than one.

Does not own: which colour a node shows, see `DesignCompiler.Style.Declaration`.
-/

set_option autoImplicit false

namespace DesignCompiler

inductive ColorFault where
  | undefined
  /-- The channel is, or becomes when it is scaled, infinite. -/
  | infinite
  | tooLarge
deriving DecidableEq

def ColorFault.message : ColorFault → String
  | .undefined => "cannot convert float NaN to integer"
  | .infinite => "cannot convert float infinity to integer"
  | .tooLarge => "int too large to convert to float"

/-- The greatest integer not above a double. -/
def Binary64.floor? : Binary64 → Except ColorFault Int
  | .nan => .error .undefined
  | .infinite _ => .error .infinite
  | .finite value => .ok (value.signedSteps / (Nat.pow 2 Binary64.unitExponent : Nat))

/-- The whole number next to a scaled channel, halves upwards; none is an integer beyond all
doubles. -/
def wholeNumber? : Option Binary64 → Except ColorFault Int
  | some scaled => scaled.addHalf.floor?
  | none => .error .tooLarge

/-- A channel scaled to 255 and rounded to a whole number. -/
def channel? : Number → Except ColorFault Int
  | .int value => wholeNumber? (Binary64.ofInt? (value * 255))
  | .float value => wholeNumber? (some (value.scale 255))

def Design.Color.cssText? (color : Design.Color) : Except ColorFault String := do
  let red ← channel? color.red
  let green ← channel? color.green
  let blue ← channel? color.blue
  let channels := (Number.int red).text ++ ", " ++ (Number.int green).text ++ ", " ++
    (Number.int blue).text
  if color.alpha.lt 1 then .ok ("rgba(" ++ channels ++ ", " ++ color.alpha.cssText ++ ")")
  else .ok ("rgb(" ++ channels ++ ")")

end DesignCompiler
