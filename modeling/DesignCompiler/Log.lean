import DesignCompiler.Files.Tree

/-!
Contract: logs.

Owns:
- `Logger`, to whom messages are given, and its handlers, which write them;
- `Log.setup`, which equips a logger once, and `Log.write`;
- the texts of log lines.

Loggers form a tree by the dots in their names, below one top logger.  A message goes to the
handlers of its logger and of those above it, up to one that keeps its messages to itself.

Does not own: what is logged.
-/

set_option autoImplicit false

namespace DesignCompiler

open DesignCompiler.Files

/-- Who writes messages: to the console, or to a file. -/
structure LogHandler where
  /-- The file, none for the console. -/
  file : Option Path
  /-- The least level of the messages that are written. -/
  level : Int

/-- To whom messages are given. -/
structure Logger where
  name : String
  /-- The least level of the messages that are taken; zero leaves it to the loggers above. -/
  level : Int := 0
  /-- Whether messages go on to the loggers above. -/
  propagates : Bool := true
  handlers : List LogHandler := []

/-- All loggers, what stands on the console, and the files. -/
structure Log where
  /-- The text of the current time. -/
  time : String
  directory : Path
  tree : Tree
  loggers : List Logger := []
  /-- The names under which loggers have been equipped. -/
  equipped : List String := []
  console : String := ""

namespace Log

/-- The name of the logger above all others. -/
def topName : String := "root"

/-- The name of the logger that is asked for by a name; the empty name asks for the top one. -/
def loggerName (name : String) : String :=
  if name.isEmpty then topName else name

/-- The level below which nobody takes messages unless told otherwise. -/
def usualLevel : Int := 30

def levelName (level : Int) : String :=
  match level with
  | 50 => "CRITICAL"
  | 40 => "ERROR"
  | 30 => "WARNING"
  | 20 => "INFO"
  | 10 => "DEBUG"
  | 0 => "NOTSET"
  | other => "Level " ++ (Number.int other).text

/-- The logger of a name; one that nobody has equipped leaves everything to those above. -/
def logger (log : Log) (name : String) : Logger :=
  let name := loggerName name
  (log.loggers.find? fun logger => logger.name = name).getD
    { name, level := if name = topName then usualLevel else 0 }

/-- The names above a reversed name, the nearest first: what stands before a dot, where of two dots
side by side the first one does not count. -/
def namesAbove : List Char → List String
  | '.' :: c :: rest => String.ofList (c :: rest).reverse :: namesAbove rest
  | _ :: rest => namesAbove rest
  | [] => []

/-- The names of a logger and of those above it, the nearest first and the top one last. -/
def chain (name : String) : List String :=
  (loggerName name :: namesAbove name.toList.reverse).filter (· ≠ topName) ++ [topName]

def passed (log : Log) (name : String) : List Logger :=
  let loggers := (chain name).map log.logger
  let onward := loggers.takeWhile Logger.propagates
  onward ++ (loggers.drop onward.length).take 1

/-- The least level of the messages that a logger takes. -/
def effectiveLevel (log : Log) (name : String) : Int :=
  ((((chain name).map log.logger).find? fun logger => logger.level ≠ 0).map Logger.level).getD 0

def line (time : String) (handler : LogHandler) (name message : String) (level : Int) : String :=
  match handler.file with
  | none => time ++ " [" ++ name ++ "] " ++ message ++ "\n"
  | some _ => time ++ " [" ++ name ++ "] [" ++ levelName level ++ "] " ++ message ++ "\n"

/-- Adds text to the end of a file, which is made if it is absent. -/
def append (tree : Tree) (path : Path) (text : String) : Tree.Effect Unit :=
  match tree.readFile path with
  | .ok (.text old) => tree.writeFile path (.text (old ++ text))
  | .ok (.binary bytes) => tree.writeFile path (.ofBytes (bytes ++ Text.utf8Bytes text.toList))
  | .error _ => tree.writeFile path (.text text)

def emit (name message : String) (level : Int) (log : Log) (handler : LogHandler) : Log :=
  if level < handler.level then log
  else
    let text := line log.time handler name message level
    match handler.file with
    | none => { log with console := log.console ++ text }
    | some path => { log with tree := (append log.tree path text).1 }

/-- Gives a message to a logger.  Where nobody handles it, warnings stand on the console as they
are.  Messages without a positive level are never taken. -/
def write (log : Log) (name message : String) (level : Int) : Log :=
  if level ≤ 0 || level < log.effectiveLevel name then log
  else
    match (log.passed name).flatMap Logger.handlers with
    | [] =>
      if level < usualLevel then log else { log with console := log.console ++ message ++ "\n" }
    | handlers => handlers.foldl (emit (loggerName name) message level) log

/-- Makes sure that a file of the log and its directory exist; its path. -/
def openFile (log : Log) (name : String) : Tree × Except FileError Path :=
  match log.tree.makeDirectories log.directory with
  | (tree, .error error) => (tree, .error error)
  | (tree, .ok ()) =>
    let path := (log.directory.append (Path.ofText name)).resolve tree.here
    match append tree path "" with
    | (tree, .error error) => (tree, .error error)
    | (tree, .ok ()) => (tree, .ok path)

/-- Gives a logger more handlers, and a level below which it takes nothing. -/
def equip (log : Log) (name : String) (level : Int) (handlers : List LogHandler) : Log :=
  let old := log.logger name
  { log with
    equipped := name :: log.equipped
    loggers :=
      { old with level, propagates := false, handlers := old.handlers ++ handlers } :: log.loggers }

/-- Equips a logger with a handler for the console and, if a file is named, one for it.  A logger
that has been equipped under the name already stays as it is. -/
def setup (log : Log) (name : String) (level : Int) (file : Option String) :
    Except FileError Log :=
  if log.equipped.contains name then .ok log
  else
    let console := LogHandler.mk none level
    match file.filter fun name => !name.isEmpty with
    | none => .ok (log.equip name level [console])
    | some fileName =>
      match log.openFile fileName with
      | (_, .error error) => .error error
      | (tree, .ok path) =>
        .ok ({ log with tree }.equip name level [LogHandler.mk (some path) level, console])

end Log

end DesignCompiler
