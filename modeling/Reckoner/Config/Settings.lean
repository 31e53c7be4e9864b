import Reckoner.Config.Origins
import Reckoner.Config.Tracing
import Reckoner.Json.Reader
import Reckoner.Schema.Check

namespace Reckoner.Config

open Reckoner.Decimal Reckoner.Json Reckoner.Schema

structure Settings where
  apiTitle : String
  apiVersion : String
  provider : String
  baseUrl : String
  model : String
  temperature : Double
  timeout : Double
  extractionTemperature : Double
  formattingTemperature : Double
  showPipeline : Bool
  logLevel : String
  logFormat : String
  enableEvents : Bool
  heartbeat : Double
  corsOrigins : List String
  frontendOrigin : Option String
  publicKey : Option String
  secretKey : Option String
  tracingHost : Option String
  tracingRelease : Option String

/-- Why there are no settings: a list that is not JSON, or values that fail their checks. -/
inductive Unsettled where
  | malformed (field : String)
  | invalid (issues : List Issue)

def Unsettled.malformedMessage (field : String) : String :=
  "error parsing value for field \"" ++ field ++ "\" from source \"EnvSettingsSource\""

/-- Where values come from. -/
structure Sources where
  given : Members
  environment : List (String × String)

/-- The last variable of a name, in any letter case. -/
def Sources.variable? (s : Sources) (name : String) : Option String :=
  s.environment.reverse.findSome? fun (n, v) => if Text.lower n = name then some v else none

/-- A value by the names that it may be given under, then by its variables, the preferred first. -/
def Sources.find? (s : Sources) (names fallbacks : List String) : Option Value :=
  (names.findSome? s.given.get?) <|> (fallbacks.findSome? s.variable?).map .text

/-- A setting that is reported under a label. -/
def setting {α : Type} (label : String) (value : Option Value) (default : α) (check : Check α) :
    Checked α :=
  under (.member label) <|
    match value with
    | some v => check v
    | none => .ok default

def plain {α : Type} (s : Sources) (name : String) (default : α) (check : Check α) : Checked α :=
  setting name (s.find? [name] [name]) default check

def tenths (n : Nat) : Double :=
  Double.nearest false n 10

def defaultOrigins : List String :=
  ["http://localhost:54671", "http://127.0.0.1:54671"]

/-- The list of origins in the environment; JSON null stands for no list. -/
def Sources.originsVariable (depth : Nat) (s : Sources) : Except Unsettled (Option Value) :=
  match s.variable? "cors_origins" with
  | none => .ok none
  | some text =>
    match Json.read depth text.toList with
    | .error _ => .error (.malformed "cors_origins")
    | .ok .null => .ok none
    | .ok v => .ok (some v)

def optionalText : Check (Option String) :=
  nullable Schema.text

def Settings.check (s : Sources) (origins : Option Value) : Checked Settings := do
  let text (name default : String) := plain s name default Schema.text
  let amount (name : String) (default : Double) := plain s name default Schema.number
  let flag (name : String) := plain s name true Schema.bool
  let secret (name : String) := plain s name none optionalText
  let first := both (text "api_title" "PAL Chat API") (both (text "api_version" "0.1.0")
    (both (text "llm_provider" "ollama")
      (both (setting "OLLAMA_BASE_URL"
          (s.find? ["OLLAMA_BASE_URL", "OLLAMA_HOST", "ollama_base_url"] ["ollama_base_url", "ollama_host"])
          "http://localhost:11434" Schema.text)
        (text "llm_model" "llama3"))))
  let amounts := both (amount "llm_temperature" (tenths 7)) (both (amount "llm_timeout_sec" (tenths 1200))
    (both (amount "extraction_temperature" (tenths 1)) (amount "formatting_temperature" (tenths 5))))
  let shown := both (flag "show_pipeline") (both (text "log_level" "INFO")
    (both (plain s "log_format" "json" (oneOf ["json", "text"]))
      (both (flag "enable_sse") (amount "sse_heartbeat_sec" (tenths 100)))))
  let web := both
    (setting "cors_origins" ((s.given.get? "cors_origins") <|> origins) defaultOrigins (listOf Schema.text))
    (setting "FRONTEND_ORIGIN" (s.find? ["FRONTEND_ORIGIN", "frontend_origin"] ["frontend_origin"]) none
      optionalText)
  let tracing := both (secret "langfuse_public_key") (both (secret "langfuse_secret_key")
    (both (secret "langfuse_host") (secret "langfuse_release")))
  let ((apiTitle, apiVersion, provider, baseUrl, model),
      (temperature, timeout, extractionTemperature, formattingTemperature),
      (showPipeline, logLevel, logFormat, enableEvents, heartbeat), (corsOrigins, frontendOrigin),
      publicKey, secretKey, tracingHost, tracingRelease) ←
    both first (both amounts (both shown (both web tracing)))
  return { apiTitle, apiVersion, provider, baseUrl, model, temperature, timeout, extractionTemperature,
           formattingTemperature, showPipeline, logLevel, logFormat, enableEvents, heartbeat, corsOrigins,
           frontendOrigin, publicKey, secretKey, tracingHost, tracingRelease }

/-- The settings that the sources give. JSON among them is read with containers nested no deeper than so many levels. -/
def Settings.load (depth : Nat) (s : Sources) : Except Unsettled Settings := do
  let origins ← s.originsVariable depth
  (Settings.check s origins).mapError .invalid

def Settings.origins (s : Settings) : List String :=
  resolveOrigins s.corsOrigins s.frontendOrigin

def Settings.tracing (s : Settings) : Tracing :=
  ⟨s.publicKey, s.secretKey, s.tracingHost, s.tracingRelease⟩

def Settings.toMembers (s : Settings) : Members :=
  [("api_title", .text s.apiTitle), ("api_version", .text s.apiVersion), ("llm_provider", .text s.provider),
    ("ollama_base_url", .text s.baseUrl), ("llm_model", .text s.model),
    ("llm_temperature", .real s.temperature), ("llm_timeout_sec", .real s.timeout),
    ("extraction_temperature", .real s.extractionTemperature),
    ("formatting_temperature", .real s.formattingTemperature), ("show_pipeline", .bool s.showPipeline),
    ("log_level", .text s.logLevel), ("log_format", .text s.logFormat), ("enable_sse", .bool s.enableEvents),
    ("sse_heartbeat_sec", .real s.heartbeat), ("cors_origins", .list (s.corsOrigins.map .text)),
    ("frontend_origin", .ofText? s.frontendOrigin), ("langfuse_public_key", .ofText? s.publicKey),
    ("langfuse_secret_key", .ofText? s.secretKey), ("langfuse_host", .ofText? s.tracingHost),
    ("langfuse_release", .ofText? s.tracingRelease)]

end Reckoner.Config
