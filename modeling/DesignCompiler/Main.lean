import DesignCompiler.CommandLine.Run

/-!
Contract: the program.

Owns:
- the variables, files and directories that the program looks at;
- showing the outcome of a command, and keeping the files that it writes.

This program has no transport, so that no server can be reached.  It has no words for the defects of
a design either, so that a message about a design that is refused does not tell them.

Does not own: what the commands do, see `DesignCompiler.CommandLine.Run`.
-/

set_option autoImplicit false

namespace DesignCompiler.Program

open DesignCompiler.Files

def variableNames : List String :=
  ["HOME", "FIGMA_TOKEN", "FIGMA_API_BASE", "AI_PROXY_URL", "AI_PROXY_USERNAME",
   "CASCADE_DEFAULT_MODEL", "CASCADE_CONFIG_DIR", "API_HOST", "API_PORT", "CORS_ORIGINS",
   "FIGMA_MAX_ATTEMPTS", "RATE_LIMIT_MAX_WAIT", "RATE_LIMIT_DEFAULT_RETRY_AFTER",
   "NETWORK_BACKOFF_CAP", "FIGMA_HTTP_TIMEOUT", "FIGMA_NODE_DEPTH", "FIGMA_NODE_GEOMETRY",
   "AI_PROXY_MAX_ATTEMPTS", "AI_PROXY_TIMEOUT", "AI_TEMPERATURE", "AI_MAX_TOKENS",
   "MARKUP_BASE_DEPTH"]

def observeVariables : IO Environment := do
  let found ← variableNames.filterMapM fun key => do
    let value ← IO.getEnv key
    return value.map fun value => (key, value)
  return fun key => found.lookup key

/-- Looks up the home directories of the users in the table that lists them. -/
def observeUsers : IO Users := do
  let table ← try IO.FS.readFile "/etc/passwd" catch _ => pure ""
  let homes := (Text.splitOn '\n' table.toList).filterMap fun line =>
    match Text.splitOn ':' line with
    | [name, _, _, _, _, home, _] => some (String.ofList name, String.ofList home)
    | _ => none
  return fun name => homes.lookup name

/-- What the commands are told by an environment; none if an option of it makes no policy. -/
def contextOf? (environment : Environment) (settings : Settings) (configuration : Configuration) :
    Option CommandLine.Context := do
  let figmaPolicy ← settings.policy? settings.figmaMaxAttempts
  let completionPolicy ← settings.policy? settings.aiProxyMaxAttempts
  some
    { token := environment "FIGMA_TOKEN"
      home := textSetting environment "HOME" "/"
      directory := configuration.directory
      usualModel := configuration.defaultModel
      figma :=
        { token := "", baseUrl := configuration.figmaApiBase, policy := figmaPolicy,
          nodeDepth := settings.figmaNodeDepth, nodeGeometry := settings.figmaNodeGeometry }
      completion :=
        { url := configuration.aiProxyUrl, policy := completionPolicy,
          sampling :=
            { temperature := settings.aiTemperature, maxTokens := settings.aiMaxTokens,
              username := configuration.aiProxyUsername } }
      markupDepth := settings.markupBaseDepth }

/-- Enters what stands at a place into a tree; what is neither a file nor absent is a directory. -/
def observe (tree : Tree) (location : Location) : IO Tree := do
  try
    let bytes ← IO.FS.readBinFile (Path.ofLocation location).text
    return tree.put location (.file (.ofBytes bytes.toList))
  catch error =>
    match error with
    | .noFileOrDirectory .. => return tree
    | _ => return tree.put location .directory

def observeTo (tree : Tree) (location : Location) : IO Tree :=
  (List.range location.length).foldlM
    (fun tree count => observe tree (location.take (count + 1))) tree

def namedPaths (context : CommandLine.Context) (arguments : List String) : List Path :=
  let output := match CommandLine.parse arguments with
    | .ok (.toReact _ _ options) =>
      (options.output.bind fun output =>
        (Path.ofText output).expandHome context.home context.users).toList
    | _ => []
  ModelStore.file context.directory :: output

/-- The transport, which reaches nobody. -/
def replies : Http.Replies :=
  fun _ => .unreachable ⟨"ConnectError", "no transport"⟩

def milliseconds (seconds : Number) : UInt32 :=
  match seconds.toBinary64? with
  | some value => (((value.scale 1000).floor?.toOption).getD 0).toNat.toUInt32
  | none => 0

def replay (event : Http.Event) : IO Unit :=
  match event with
  | .request _ => pure ()
  | .report attempt => IO.eprint ((CommandLine.progress? attempt).getD "")
  | .sleep seconds => IO.sleep (milliseconds seconds)

def keep (before after : Tree) : IO Unit :=
  after.entries.reverse.forM fun (location, entry) => do
    if before.entry? location ≠ some entry then
      match entry with
      | .directory => IO.FS.createDirAll (Path.ofLocation location).text
      | .file (.text value) => IO.FS.writeFile (Path.ofLocation location).text value
      | .file (.binary bytes) =>
        IO.FS.writeBinFile (Path.ofLocation location).text ⟨bytes.toArray⟩

def conclude (outcome : CommandLine.Outcome) : IO UInt32 := do
  IO.print outcome.output
  match outcome.result with
  | .ok status => return status.toNat.toUInt32
  | .error error =>
    IO.eprint (error.report?.getD (error.message ++ "\n"))
    return 1

def runIn (context : CommandLine.Context) (arguments : List String) : IO UInt32 := do
  let here := (Path.ofText (toString (← IO.currentDir))).names
  let tree := Tree.empty here
  let places := (namedPaths context arguments).map fun path => path.locate here
  let tree ← places.foldlM observeTo tree
  let outcome := CommandLine.run context tree replies arguments
  outcome.events.forM replay
  keep tree outcome.tree
  conclude outcome

def run (arguments : List String) : IO UInt32 := do
  let environment ← observeVariables
  match Settings.read environment, Configuration.read environment with
  | .ok settings, .ok configuration =>
    match contextOf? environment settings configuration with
    | some context => runIn { context with users := ← observeUsers } arguments
    | none =>
      IO.eprintln Http.noAttemptsMessage
      return 1
  | .error fault, _ | _, .error fault =>
    IO.eprintln fault.message
    return 1

end DesignCompiler.Program

def main (arguments : List String) : IO UInt32 :=
  DesignCompiler.Program.run arguments
