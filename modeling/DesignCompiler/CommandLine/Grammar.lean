import DesignCompiler.Component.Variant
import DesignCompiler.Text.Digit

/-!
Contract: the arguments of the command line.

Owns:
- `Command` and `parse`, which makes one of the arguments;
- `Exit`, the ways in which arguments end the program without a command.

Options may stand before, between and after the other arguments of their command.  A long option
may be shortened as long as only one option begins so, a value may follow it after an equals sign
or as the next argument, and short options without values may share a dash.  After two dashes
nothing is an option.

Does not own: what commands do, see `DesignCompiler.CommandLine.Run`.
-/

set_option autoImplicit false

namespace DesignCompiler.CommandLine

/-! ## Options -/

inductive OptionKey where
  | help | version | verbose
  | framework | name | instructions | output | ai | model
deriving DecidableEq

structure OptionRule where
  key : OptionKey
  /-- The letter after a single dash. -/
  short : Option Char
  /-- The word after two dashes. -/
  long : String
  /-- Whether a value belongs to it. -/
  takesValue : Bool

def helpRule : OptionRule := ⟨.help, some 'h', "help", false⟩

/-- The options before the first command. -/
def mainRules : List OptionRule :=
  [helpRule, ⟨.version, none, "version", false⟩, ⟨.verbose, some 'v', "verbose", false⟩]

def componentRules : List OptionRule :=
  [helpRule, ⟨.framework, some 'f', "framework", true⟩, ⟨.name, some 'n', "name", true⟩,
   ⟨.instructions, some 'i', "instructions", true⟩, ⟨.output, some 'o', "output", true⟩,
   ⟨.ai, none, "ai", false⟩, ⟨.model, none, "model", true⟩]

def OptionRule.longText (rule : OptionRule) : List Char :=
  '-' :: '-' :: rule.long.toList

def exactRule? (rules : List OptionRule) (cs : List Char) : Option OptionRule :=
  rules.find? fun rule =>
    rule.longText == cs || (rule.short.map fun letter => ['-', letter]) == some cs

/-- What an argument is taken for. -/
inductive Shape where
  /-- It belongs to the command or to an option before it. -/
  | plain
  /-- It is an option, with what is written behind it and whether an equals sign joins them. -/
  | option (rule : OptionRule) (value : Option String) (joined : Bool)
  | unknown
  | ambiguous

def splitEquals (cs : List Char) : Option (List Char × List Char) :=
  match cs.dropWhile (· != '=') with
  | _ :: value => some (cs.takeWhile (· != '='), value)
  | [] => none

/-- Whether an argument is a negative number: digits, or a point with digits after it. -/
def isNegativeNumber : List Char → Bool
  | '-' :: rest =>
    let body := if rest.getLast? = some '\n' then rest.dropLast else rest
    let isDigit (c : Char) := (Text.digitValue c).isSome
    match body.dropWhile isDigit with
    | [] => !body.isEmpty
    | '.' :: fraction => !fraction.isEmpty && fraction.all isDigit
    | _ => false
  | _ => false

/-- What an argument that is no option of the command is taken for. -/
def shapeOfRest (cs : List Char) : Shape :=
  if isNegativeNumber cs || cs.contains ' ' then .plain else .unknown

/-- The shape of an argument that begins with two dashes and is no option as it stands. -/
def longShape (rules : List OptionRule) (cs : List Char) : Shape :=
  let (start, value) := match splitEquals cs with
    | some (start, value) => (start, some (String.ofList value))
    | none => (cs, none)
  match rules.filter fun rule => start.isPrefixOf rule.longText with
  | [] => shapeOfRest cs
  | [rule] => .option rule value value.isSome
  | _ => .ambiguous

/-- The shape of an argument that begins with one dash and is no option as it stands. -/
def shortShape (rules : List OptionRule) (cs : List Char) : Shape :=
  match exactRule? rules (cs.take 2) with
  | some rule => .option rule (some (String.ofList (cs.drop 2))) false
  | none => shapeOfRest cs

def shape (rules : List OptionRule) (argument : String) : Shape :=
  let cs := argument.toList
  match cs with
  | '-' :: second :: _ =>
    match exactRule? rules cs with
    | some rule => .option rule none false
    | none =>
      match (splitEquals cs).bind fun parts =>
          (exactRule? rules parts.1).map fun rule => (rule, parts.2) with
      | some (rule, value) => .option rule (some (String.ofList value)) true
      | none => if second = '-' then longShape rules cs else shortShape rules cs
  | _ => .plain

/-- An argument with its shape; `none` is the pair of dashes after which there are no options. -/
abbrev Token := String × Option Shape

def tokens (rules : List OptionRule) : List String → List Token
  | [] => []
  | argument :: rest =>
    if argument = "--" then (argument, none) :: rest.map fun later => (later, some .plain)
    else (argument, some (shape rules argument)) :: tokens rules rest

def isAmbiguous : Token → Bool
  | (_, some .ambiguous) => true
  | _ => false

/-! ## Results -/

/-- The ways in which arguments end the program. -/
inductive Exit where
  | usage
  | help
  | version
  /-- Nothing is left of a value but the pair of dashes that is taken away. -/
  | missingValue
deriving DecidableEq

structure ComponentOptions where
  framework : String := "mui-tsx"
  name : Option String := none
  instructions : String := ""
  output : Option String := none
  ai : Bool := false
  model : Option String := none

inductive Command where
  | frames (fileKey : String)
  | frame (fileKey frameId : String)
  | toReact (fileKey frameId : String) (options : ComponentOptions)
  | getModel
  | setModel (model : String)

abbrev Use := OptionRule × String

/-- What one argument with options amounts to. -/
structure Cluster where
  uses : List Use
  /-- Whether the last use still lacks its value. -/
  lacksValue : Bool := false
  /-- Whether letters are left that are no options. -/
  hasExtras : Bool := false

/-- What an option with something written behind it amounts to.  It is the value of an option that
takes one.  Behind any other option there may be further options, but no equals sign. -/
def spread (rules : List OptionRule) (rule : OptionRule) (joined : Bool) (behind : List Char) :
    Except Exit Cluster :=
  if rule.takesValue then .ok { uses := [(rule, String.ofList behind)] }
  else
    match behind with
    | [] => .error .usage
    | letter :: rest =>
      if joined || letter = '-' then .error .usage
      else
        match exactRule? rules ['-', letter], rest with
        | none, _ => .ok { uses := [(rule, "")], hasExtras := true }
        | some next, [] =>
          .ok { uses := [(rule, ""), (next, "")], lacksValue := next.takesValue }
        | some next, '=' :: value => do
          let cluster ← spread rules next true value
          .ok { cluster with uses := (rule, "") :: cluster.uses }
        | some next, rest => do
          let cluster ← spread rules next false rest
          .ok { cluster with uses := (rule, "") :: cluster.uses }
termination_by behind.length

def clusterOf (rules : List OptionRule) (argument : String) (rule : OptionRule)
    (value : Option String) (joined : Bool) : Except Exit Cluster :=
  match value with
  | none => .ok { uses := [(rule, "")], lacksValue := rule.takesValue }
  | some value =>
    if "--".isPrefixOf argument && !rule.takesValue then .error .usage
    else spread rules rule joined value.toList

/-- Refuses values that are not allowed, and options that end the program. -/
def applyUse (options : ComponentOptions) : Use → Except Exit ComponentOptions
  | (rule, value) =>
    match rule.key with
    | .help => .error .help
    | .version => .error .version
    | .verbose => .ok options
    | .framework =>
      if (Component.Variant.all.map Component.Variant.name).contains value then
        .ok { options with framework := value }
      else .error .usage
    | .name => .ok { options with name := some value }
    | .instructions => .ok { options with instructions := value }
    | .output => .ok { options with output := some value }
    | .ai => .ok { options with ai := true }
    | .model => .ok { options with model := some value }

def applyUses (options : ComponentOptions) : List Use → Except Exit ComponentOptions
  | [] => .ok options
  | use :: rest => do applyUses (← applyUse options use) rest

/-! ## Commands without further commands -/

/-- What has been read of a command's arguments. -/
structure Reading where
  options : ComponentOptions := {}
  values : List String := []
  /-- Whether there were arguments that the command does not take. -/
  hasExtras : Bool := false
  /-- Whether the argument before was taken as a value. -/
  afterValue : Bool := false
  /-- Whether the pair of dashes stands before the next value. -/
  afterDashes : Bool := false

/-- Takes a plain argument: as the next value, if there is room for one. -/
def Reading.take (reading : Reading) (room : Nat) (argument : String) : Except Exit Reading :=
  if reading.values.length < room then
    if argument = "--" && !reading.afterDashes then .error .missingValue
    else .ok { reading with values := reading.values ++ [argument], afterValue := true,
                            afterDashes := false }
  else .ok { reading with hasExtras := true, afterValue := false, afterDashes := false }

/-- Takes the pair of dashes: it goes with the value before it or, if there is one, with the value
after it. -/
def Reading.takeDashes (reading : Reading) (room : Nat) (isLast : Bool) : Reading :=
  if reading.afterValue then { reading with afterValue := false }
  else if reading.values.length < room && !isLast then { reading with afterDashes := true }
  else { reading with hasExtras := true }

/-- Reads the arguments of a command that has room for some values. -/
def readTokens (rules : List OptionRule) (room : Nat) : Reading → List Token → Except Exit Reading
  | reading, [] => .ok reading
  | reading, (_, none) :: rest => readTokens rules room (reading.takeDashes room rest.isEmpty) rest
  | reading, (argument, some shape) :: rest =>
    match shape with
    | .plain => do readTokens rules room (← reading.take room argument) rest
    | .unknown => readTokens rules room { reading with hasExtras := true, afterValue := false } rest
    | .ambiguous => .error .usage
    | .option rule value joined =>
      match clusterOf rules argument rule value joined with
      | .error exit => .error exit
      | .ok { uses, lacksValue := false, hasExtras } => do
        let options ← applyUses reading.options uses
        readTokens rules room
          { reading with options, hasExtras := reading.hasExtras || hasExtras, afterValue := false }
          rest
      | .ok { uses, lacksValue := true, .. } =>
        match rest with
        | (value, some .plain) :: rest => do
          let complete := uses.dropLast ++ (uses.getLast?.map fun use => (use.1, value)).toList
          let options ← applyUses reading.options complete
          readTokens rules room { reading with options, afterValue := false } rest
        | _ => .error .usage

/-- The options and values of a command; there have to be as many values as there is room for. -/
def readLeaf (rules : List OptionRule) (room : Nat) (arguments : List String) :
    Except Exit (ComponentOptions × List String) :=
  let found := tokens rules arguments
  if found.any isAmbiguous then .error .usage
  else do
    let reading ← readTokens rules room {} found
    if reading.values.length < room || reading.hasExtras then .error .usage
    else .ok (reading.options, reading.values)

/-! ## Commands with further commands -/

/-- Reads the options before a command's name.  The result holds the name, the arguments after it,
and whether there were options that nobody knows. -/
def readName (rules : List OptionRule) : List Token → Except Exit (String × List String × Bool)
  | [] => .error .usage
  | (_, none) :: _ => .error .usage
  | (argument, some shape) :: rest =>
    match shape with
    | .plain => .ok (argument, rest.map Prod.fst, false)
    | .unknown => do
      let (name, arguments, _) ← readName rules rest
      .ok (name, arguments, true)
    | .ambiguous => .error .usage
    | .option rule value joined => do
      let cluster ← clusterOf rules argument rule value joined
      let _ ← applyUses {} cluster.uses
      let (name, arguments, hasExtras) ← readName rules rest
      .ok (name, arguments, hasExtras || cluster.hasExtras)

/-- Reads a command's name and hands the arguments after it to the command of that name. -/
def readGroup (rules : List OptionRule)
    (commands : List (String × (List String → Except Exit Command))) (arguments : List String) :
    Except Exit Command :=
  let found := tokens rules arguments
  if found.any isAmbiguous then .error .usage
  else do
    let (name, rest, hasExtras) ← readName rules found
    match commands.lookup name with
    | none => .error .usage
    | some command => do
      let command ← command rest
      if hasExtras then .error .usage else .ok command

def readFrames (arguments : List String) : Except Exit Command := do
  match ← readLeaf [helpRule] 1 arguments with
  | (_, [fileKey]) => .ok (.frames fileKey)
  | _ => .error .usage

def readFrame (arguments : List String) : Except Exit Command := do
  match ← readLeaf [helpRule] 2 arguments with
  | (_, [fileKey, frameId]) => .ok (.frame fileKey frameId)
  | _ => .error .usage

def readToReact (arguments : List String) : Except Exit Command := do
  match ← readLeaf componentRules 2 arguments with
  | (options, [fileKey, frameId]) => .ok (.toReact fileKey frameId options)
  | _ => .error .usage

def readGetModel (arguments : List String) : Except Exit Command := do
  let _ ← readLeaf [helpRule] 0 arguments
  .ok .getModel

def readSetModel (arguments : List String) : Except Exit Command := do
  match ← readLeaf [helpRule] 1 arguments with
  | (_, [model]) => .ok (.setModel model)
  | _ => .error .usage

def parse (arguments : List String) : Except Exit Command :=
  readGroup mainRules
    [("figma", readGroup [helpRule]
      [("frames", readFrames), ("frame", readFrame), ("to-react", readToReact)]),
     ("model", readGroup [helpRule] [("get", readGetModel), ("set", readSetModel)])]
    arguments

end DesignCompiler.CommandLine
