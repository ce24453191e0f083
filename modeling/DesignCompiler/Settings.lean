import DesignCompiler.Completion.Client
import DesignCompiler.Figma.Client
import DesignCompiler.Files.Path

/-!
Contract: what can be set from the environment.

Owns:
- `Settings`, the numbers that tune requests and sources;
- `Configuration`, tokens, addresses and the directory of remembered choices;
- their usual values and their reading from an environment.

Does not own: where the environment comes from.
-/

set_option autoImplicit false

namespace DesignCompiler

abbrev Environment := String → Option String

inductive SettingFault where
  | notInteger (text : String)
  | notNumber (text : String)
  | unknownHome
deriving DecidableEq

/-- The message about an environment that cannot be used.  Of a text that is no integer, only the
beginning is shown. -/
def SettingFault.message : SettingFault → String
  | .notInteger text =>
    "invalid literal for int() with base 10: "
      ++ String.ofList ((Text.quoted text).toList.take 200)
  | .notNumber text => "could not convert string to float: " ++ Text.quoted text
  | .unknownHome => "Could not determine home directory."

def integerSetting (environment : Environment) (key : String) (usual : Int) :
    Except SettingFault Int :=
  match environment key with
  | none => .ok usual
  | some text =>
    match readInteger? text with
    | some value => .ok value
    | none => .error (.notInteger text)

def numberSetting (environment : Environment) (key : String) (usual : Binary64) :
    Except SettingFault Binary64 :=
  match environment key with
  | none => .ok usual
  | some text =>
    match readDouble? text with
    | some value => .ok value
    | none => .error (.notNumber text)

def textSetting (environment : Environment) (key usual : String) : String :=
  (environment key).getD usual

def whole (n : Nat) : Binary64 :=
  Binary64.ofRatio false n 1

/-- The numbers that tune requests and sources. -/
structure Settings where
  figmaMaxAttempts : Int := 3
  rateLimitMaxWait : Binary64 := whole 30
  rateLimitDefaultRetryAfter : Binary64 := whole 60
  networkBackoffCap : Binary64 := whole 8
  figmaHttpTimeout : Binary64 := whole 60
  figmaNodeDepth : Int := 100
  figmaNodeGeometry : String := "paths"
  aiProxyMaxAttempts : Int := 1
  aiProxyTimeout : Binary64 := whole 120
  aiTemperature : Binary64 := Binary64.ofRatio false 7 10
  aiMaxTokens : Int := 4000
  markupBaseDepth : Int := 2

def Settings.read (environment : Environment) : Except SettingFault Settings := do
  let usual : Settings := {}
  let figmaMaxAttempts ← integerSetting environment "FIGMA_MAX_ATTEMPTS" usual.figmaMaxAttempts
  let rateLimitMaxWait ← numberSetting environment "RATE_LIMIT_MAX_WAIT" usual.rateLimitMaxWait
  let rateLimitDefaultRetryAfter ←
    numberSetting environment "RATE_LIMIT_DEFAULT_RETRY_AFTER" usual.rateLimitDefaultRetryAfter
  let networkBackoffCap ← numberSetting environment "NETWORK_BACKOFF_CAP" usual.networkBackoffCap
  let figmaHttpTimeout ← numberSetting environment "FIGMA_HTTP_TIMEOUT" usual.figmaHttpTimeout
  let figmaNodeDepth ← integerSetting environment "FIGMA_NODE_DEPTH" usual.figmaNodeDepth
  let figmaNodeGeometry := textSetting environment "FIGMA_NODE_GEOMETRY" usual.figmaNodeGeometry
  let aiProxyMaxAttempts ←
    integerSetting environment "AI_PROXY_MAX_ATTEMPTS" usual.aiProxyMaxAttempts
  let aiProxyTimeout ← numberSetting environment "AI_PROXY_TIMEOUT" usual.aiProxyTimeout
  let aiTemperature ← numberSetting environment "AI_TEMPERATURE" usual.aiTemperature
  let aiMaxTokens ← integerSetting environment "AI_MAX_TOKENS" usual.aiMaxTokens
  let markupBaseDepth ← integerSetting environment "MARKUP_BASE_DEPTH" usual.markupBaseDepth
  .ok { figmaMaxAttempts, rateLimitMaxWait, rateLimitDefaultRetryAfter, networkBackoffCap,
        figmaHttpTimeout, figmaNodeDepth, figmaNodeGeometry, aiProxyMaxAttempts, aiProxyTimeout,
        aiTemperature, aiMaxTokens, markupBaseDepth }

def Settings.policy? (settings : Settings) (attempts : Int) : Option Http.RetryPolicy :=
  Http.RetryPolicy.make? attempts (.float settings.rateLimitMaxWait)
    (.float settings.rateLimitDefaultRetryAfter) (.float settings.networkBackoffCap)

/-- Tokens, addresses and the directory of remembered choices. -/
structure Configuration where
  figmaToken : String := ""
  figmaApiBase : String := "https://api.figma.com"
  aiProxyUrl : String := "http://localhost:5000/api/proxy/openai"
  aiProxyUsername : String := "cascade-cli-user"
  defaultModel : String := "gpt-4o"
  directory : Files.Path
  apiHost : String := "0.0.0.0"
  apiPort : Int := 8000
  /-- The origins from which browsers may use the service. -/
  origins : List String := ["http://localhost:3000", "http://127.0.0.1:3000"]

/-- The entries of a list in a variable: what stands between commas, without blanks around it. -/
def listEntries (text : String) : List String :=
  ((Text.splitOn ',' text.toList).map (Text.trimBy Text.isBlank)).filterMap fun entry =>
    if entry.isEmpty then none else some (String.ofList entry)

def homeDirectory? (environment : Environment) : Option Files.Path :=
  (Files.Path.ofText "~").expandHome (textSetting environment "HOME" "/")

def Configuration.read (environment : Environment) : Except SettingFault Configuration := do
  let home ← match homeDirectory? environment with
    | some home => .ok home
    | none => .error .unknownHome
  let usual : Configuration := { directory := home.child ".cascade-cli" }
  let apiPort ← integerSetting environment "API_PORT" usual.apiPort
  .ok
    { figmaToken := textSetting environment "FIGMA_TOKEN" usual.figmaToken
      figmaApiBase := textSetting environment "FIGMA_API_BASE" usual.figmaApiBase
      aiProxyUrl := textSetting environment "AI_PROXY_URL" usual.aiProxyUrl
      aiProxyUsername := textSetting environment "AI_PROXY_USERNAME" usual.aiProxyUsername
      defaultModel := textSetting environment "CASCADE_DEFAULT_MODEL" usual.defaultModel
      directory := ((environment "CASCADE_CONFIG_DIR").map Files.Path.ofText).getD usual.directory
      apiHost := textSetting environment "API_HOST" usual.apiHost
      apiPort := apiPort
      origins := ((environment "CORS_ORIGINS").map listEntries).getD usual.origins }

end DesignCompiler
