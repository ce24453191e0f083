import DesignCompiler.Http.Percent
import DesignCompiler.Text.Case
import DesignCompiler.Text.Search

/-!
Contract: how files and nodes of a design service are named.

Owns:
- `nodeId`, the form of a node's name that the service knows;
- `readLink`, the file and the node that a link leads to.

Does not own: requests, see `DesignCompiler.Figma.Client`.
-/

set_option autoImplicit false

namespace DesignCompiler.Figma

/-- A node's name as the service knows it: links write a hyphen for its colon and may encode it. -/
def nodeIdChars (cs : List Char) : List Char :=
  (Http.percentDecoded cs).map fun c => if c = '-' then ':' else c

def nodeId (name : String) : String :=
  String.ofList (nodeIdChars name.toList)

/-- The text after a beginning, if a text begins so. -/
def after? (start : List Char) (cs : List Char) : Option (List Char) :=
  if start.isPrefixOf cs then some (cs.drop start.length) else none

/-- A nonempty run of characters of a class. -/
def run? (p : Char → Bool) (cs : List Char) : Option (List Char) :=
  match cs.takeWhile p with
  | [] => none
  | found => some found

/-- The key of a file, where a link to a file begins here. -/
def keyHere? (cs : List Char) : Option (List Char) := do
  let path ← after? "figma.com/".toList cs
  let key ← (after? "design/".toList path).orElse fun _ => after? "file/".toList path
  run? Text.isAlphanumeric key

/-- The encoded name of a node, where the parameter for it begins here. -/
def nodeHere? : List Char → Option (List Char)
  | c :: rest =>
    if c = '?' || c = '&' then
      (after? "node-id=".toList rest).bind (run? fun c => c != '&' && c != '#')
    else none
  | [] => none

def linkMessage : String :=
  "Invalid Figma URL. Expected format: "
    ++ "https://www.figma.com/design/\x7bfileKey\x7d/...?node-id=\x7bnodeId\x7d"

/-- The key of the file that a link leads to, with the node if it names one; none if the text is no
link to a file. -/
def readLink (link : String) : Option (String × Option String) :=
  (Text.firstMatch? keyHere? link.toList).map fun key =>
    (String.ofList key,
      (Text.firstMatch? nodeHere? link.toList).map fun name => String.ofList (nodeIdChars name))

end DesignCompiler.Figma
