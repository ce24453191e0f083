import DesignCompiler.Http.Percent
import DesignCompiler.Json.Display
import DesignCompiler.Text.Blank
import DesignCompiler.Text.Quoted
import DesignCompiler.Text.Split

/-!
Contract: the addresses of requests.

Owns:
- `Url` and `Url.read`, which takes an address apart and refuses control characters;
- `Url.join`, an address relative to a base;
- the path and the query parameters that a server sees.

Does not own: which addresses are asked, see `DesignCompiler.Figma.Client` and
`DesignCompiler.Completion.Client`.
-/

set_option autoImplicit false

namespace DesignCompiler.Http

inductive UrlFault where
  /-- A control character stands at an offset. -/
  | control (c : Char) (offset : Nat)
  /-- What follows the host is no port. -/
  | port (text : String)
deriving DecidableEq

def UrlFault.message : UrlFault → String
  | .control c offset =>
    "Invalid non-printable ASCII character in URL, " ++ Text.quoted (String.singleton c)
      ++ " at position " ++ (Number.int offset).text ++ "."
  | .port text => "Invalid port: " ++ Text.quoted text

/-- An address, still encoded, without its fragment. -/
structure Url where
  /-- The scheme in lower case, empty for a relative address. -/
  scheme : List Char
  /-- The host and a port that is not the scheme's own. -/
  host : List Char
  path : List Char
  query : Option (List Char)
deriving DecidableEq

/-- Splits a text at the first character of a class, which goes with the second part. -/
def splitAtFirst (p : Char → Bool) (cs : List Char) : List Char × List Char :=
  (cs.takeWhile fun c => !p c, cs.dropWhile fun c => !p c)

/-- Splits off a scheme: a letter and then letters, digits and `+.-`, up to a colon. -/
def splitScheme (cs : List Char) : List Char × List Char :=
  match splitAtFirst (· == ':') cs with
  | (first :: name, ':' :: rest) =>
    if first.isAlpha && name.all (fun c => c.isAlphanum || c == '+' || c == '.' || c == '-') then
      ((first :: name).map Char.toLower, rest)
    else ([], cs)
  | _ => ([], cs)

def ownPort (scheme : List Char) : Option Nat :=
  if scheme = "http".toList || scheme = "ws".toList then some 80
  else if scheme = "https".toList || scheme = "wss".toList then some 443
  else if scheme = "ftp".toList then some 21
  else none

def readHost (scheme authority : List Char) : Except UrlFault (List Char) :=
  let address := match splitAtFirst (· == '@') authority with
    | (_, '@' :: rest) => rest
    | _ => authority
  let (host, rest) := match address with
    | '[' :: _ =>
      let (inside, rest) := splitAtFirst (· == ']') address
      (inside ++ rest.take 1, rest.drop 1)
    | _ => splitAtFirst (· == ':') address
  let port := match rest with
    | ':' :: port => port
    | _ => rest
  let host := host.map Char.toLower
  if port.isEmpty then .ok host
  else if port.all Char.isDigit then
    let number := Nat.ofDigitChars 10 port 0
    if ownPort scheme = some number then .ok host
    else .ok (host ++ ':' :: Nat.toDigits 10 number)
  else .error (.port (String.ofList port))

/-- Splits off a query, whose fragment has been removed. -/
def splitQuery (cs : List Char) : List Char × Option (List Char) :=
  match splitAtFirst (· == '?') cs with
  | (path, '?' :: query) => (path, some query)
  | (path, _) => (path, none)

def Url.read (text : String) : Except UrlFault Url :=
  let cs := text.toList
  match cs.findIdx? fun c => c.toNat < 0x20 || c.toNat == 0x7F with
  | some offset => .error (.control (cs.getD offset ' ') offset)
  | none => do
    let (scheme, rest) := splitScheme cs
    let (rest, _) := splitAtFirst (· == '#') rest
    let (authority, rest) := match rest with
      | '/' :: '/' :: rest => splitAtFirst (fun c => c == '/' || c == '?') rest
      | _ => ([], rest)
    let host ← readHost scheme authority
    let (path, query) := splitQuery rest
    .ok ⟨scheme, host, path, query⟩

/-- The path with its query, a missing path being the root. -/
def Url.target (url : Url) : List Char :=
  let path := if url.path.isEmpty then ['/'] else url.path
  match url.query with
  | some query => path ++ '?' :: query
  | none => path

/-- An address with its path and query below those of a base.  An address with a host of its own
stays as it is. -/
def Url.join (base relative : Url) : Url :=
  if !relative.scheme.isEmpty && !relative.host.isEmpty then relative
  else
    let root := base.target
    let root := if root.getLast? = some '/' then root else root ++ ['/']
    let (path, query) := splitQuery (root ++ relative.target.dropWhile (· == '/'))
    { base with path := path, query := query }

def Url.origin (url : Url) : String :=
  String.ofList (url.scheme ++ "://".toList ++ url.host)

/-- Resolves the segments that stand for the same and the upper directory; `done` holds the
segments before, the last one first. -/
def resolveDots : List (List Char) → List (List Char) → List (List Char)
  | done, [] => done.reverse
  | done, segment :: rest =>
    if segment = ['.'] then resolveDots done rest
    else if segment = ['.', '.'] then
      resolveDots (if done = [] || done = [[]] then done else done.tail) rest
    else resolveDots (segment :: done) rest

/-- The decoded path that a server sees. -/
def Url.pathText (url : Url) : String :=
  let segments := resolveDots [] (Text.splitOn '/' url.path)
  let path := ['/'].intercalate segments
  String.ofList (if path.isEmpty then ['/'] else percentDecoded path)

abbrev Parameter := String × String

def decodeParameter (cs : List Char) : String :=
  String.ofList (percentDecoded (cs.map fun c => if c = '+' then ' ' else c))

/-- Brings the parameters of one name together, at the place of the first of them. -/
def groupParameters (parameters : List Parameter) : List Parameter :=
  let names := (parameters.map Prod.fst).eraseDups
  names.flatMap fun name => parameters.filter fun parameter => parameter.1 = name

def queryParameters (query : List Char) : List Parameter :=
  let pairs := (Text.splitOn '&' query).filter fun pair => !pair.isEmpty
  groupParameters (pairs.map fun pair =>
    let (name, value) := splitAtFirst (· == '=') pair
    (decodeParameter name, decodeParameter value.tail))

def parameterText : Json → String
  | .null => ""
  | .bool value => if value then "true" else "false"
  | value => value.display

/-- The parameters that the entries of an object give; a list gives one for each of its items. -/
def givenParameters (fields : Fields) : List Parameter :=
  fields.flatMap fun entry =>
    match entry.2 with
    | .array items => items.map fun item => (entry.1, parameterText item)
    | value => [(entry.1, parameterText value)]

end DesignCompiler.Http
