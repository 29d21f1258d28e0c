import HexWorld.Decimal.Reading
import HexWorld.Text.Lowercase
import HexWorld.Text.Quoted
import HexWorld.Sync.Backoff

/-!
# Configuration

Settings of the daemon. Every field has a value of its own when none is given; variables of the
environment take precedence over the file; and what is left is checked in a fixed order, of which
the first violation is reported.

## Contents
- `Config` and its sections, with `Config.default`.
- `FileFault`, `ConfigError`.
- `Config.override`, `Config.validate`.
- `Config.backoffPolicy`, `Config.requestTimeout`.
-/

namespace HexWorld

/-- Names under which a source answers. -/
structure Subjects where
  rooms : String
  layout : String
  terrain : String
  entities : String
  deriving DecidableEq

/-- How to reach a source. -/
structure SourceConfig where
  url : String
  requestTimeoutMs : UInt64
  subjects : Subjects
  deriving DecidableEq

/-- How a failed source is tried again. -/
structure BackoffConfig where
  baseMs : UInt64
  maxMs : UInt64
  maxRetries : Option UInt32
  jitter : Double
  deriving DecidableEq

/-- Where the relay listens. -/
structure ObserverConfig where
  host : String
  port : UInt16
  deriving DecidableEq

/-- The form of log lines. -/
inductive LogFormat where
  | pretty
  | json
  deriving DecidableEq

/-- What is logged, and in which form. -/
structure LoggingConfig where
  level : String
  format : LogFormat
  deriving DecidableEq

structure Config where
  source : SourceConfig
  backoff : BackoffConfig
  observer : ObserverConfig
  logging : LoggingConfig
  deriving DecidableEq

/-! ## Values when none is given -/

def Subjects.default : Subjects :=
  ⟨"world.rooms", "world.layout", "world.terrain", "world.entities"⟩

def SourceConfig.default : SourceConfig :=
  ⟨"nats://localhost:4222", 5000, .default⟩

/-- A tenth of each wait may be cut. -/
def BackoffConfig.default : BackoffConfig :=
  ⟨1000, 10000, none, Double.ofDecimal false 1 (-1)⟩

def ObserverConfig.default : ObserverConfig :=
  ⟨"0.0.0.0", 8080⟩

def LoggingConfig.default : LoggingConfig :=
  ⟨"info", .pretty⟩

def Config.default : Config :=
  ⟨.default, .default, .default, .default⟩

/-! ## Errors -/

/-- Why a file has no text. -/
inductive FileFault where
  | missing
  /-- Its bytes are none. -/
  | notText
  deriving DecidableEq

namespace FileFault

def message : FileFault → String
  | missing => "No such file or directory (os error 2)"
  | notText => "stream did not contain valid UTF-8"

def shape : FileFault → String
  | missing => "Os \x7b code: 2, kind: NotFound, message: \"No such file or directory\" \x7d"
  | notText => "Error \x7b kind: InvalidData, message: " ++ Text.quoted notText.message ++ " \x7d"

end FileFault

/-- Why there is no configuration. -/
inductive ConfigError where
  | io (fault : FileFault)
  | yaml
  | invalid (field reason : String)
  deriving DecidableEq

namespace ConfigError

def message : ConfigError → String
  | io fault => s!"failed to read config file: {fault.message}"
  | yaml => "failed to parse config YAML"
  | invalid field reason => s!"invalid config value for {field}: {reason}"

def shape : ConfigError → String
  | io fault => "Io \x7b source: " ++ fault.shape ++ " \x7d"
  | yaml => "Yaml"
  | invalid field reason =>
    "Invalid \x7b field: " ++ Text.quoted field ++ ", reason: " ++ Text.quoted reason ++ " \x7d"

end ConfigError

/-! ## The environment -/

/-- The variables that take precedence over the file. -/
structure Overrides where
  sourceUrl : Option String
  observerPort : Option String
  logFormat : Option String
  deriving DecidableEq

namespace Config

/-- The port that a variable gives. -/
def portOf (text : String) : Except ConfigError UInt16 :=
  match Text.readInteger (.unsigned 16) text.toList with
  | .ok n => .ok (.ofNat n.toNat)
  | .error fault =>
    .error (.invalid "observer.port" s!"OBSERVER_PORT={Text.quoted text}: {fault.message}")

/-- The log format that a variable gives, in upper or lower case. -/
def formatOf (text : String) : Except ConfigError LogFormat :=
  let lower := String.ofList (Text.lowercase text.toList)
  if lower = "json" then .ok .json
  else if lower = "pretty" then .ok .pretty
  else .error <|
    .invalid "logging.format" s!"LOG_FORMAT={Text.quoted lower} is neither json nor pretty"

/-- The configuration with the fields of the given variables replaced. -/
def override (c : Config) (env : Overrides) : Except ConfigError Config := do
  let port ← (env.observerPort.map portOf).getD (.ok c.observer.port)
  let format ← (env.logFormat.map formatOf).getD (.ok c.logging.format)
  return { c with
    source := { c.source with url := env.sourceUrl.getD c.source.url }
    observer := { c.observer with port }
    logging := { c.logging with format } }

/-! ## Checks -/

/-- A fraction of at least zero and less than one. -/
def isFraction (x : Double) : Bool :=
  match x.toRat? with
  | some r => 0 ≤ r && r < 1
  | none => false

/-- The first value that nothing can be done with. -/
def violation? (c : Config) : Option ConfigError :=
  if Text.trim c.source.url.toList = [] then
    some (.invalid "source.url" "must not be empty")
  else if c.source.requestTimeoutMs = 0 then
    some (.invalid "source.request_timeout_ms" "must be positive")
  else if c.backoff.baseMs = 0 then
    some (.invalid "backoff.base_ms" "must be positive")
  else if c.backoff.maxMs < c.backoff.baseMs then
    some (.invalid "backoff.max_ms"
      s!"{c.backoff.maxMs.toNat} is below backoff.base_ms ({c.backoff.baseMs.toNat})")
  else if !isFraction c.backoff.jitter then
    some (.invalid "backoff.jitter" s!"{c.backoff.jitter.plainText} is outside [0, 1)")
  else none

/-- The configuration, if every value can be worked with. -/
def validate (c : Config) : Except ConfigError Config :=
  match c.violation? with
  | some e => .error e
  | none => .ok c

/-! ## What the settings mean -/

/-- The policy of retries. -/
def backoffPolicy (c : Config) : Backoff where
  base := .ofMillis c.backoff.baseMs.toNat
  bound := .ofMillis c.backoff.maxMs.toNat
  maxRetries := c.backoff.maxRetries
  jitter := c.backoff.jitter

/-- The time that a request may take. -/
def requestTimeout (c : Config) : Duration :=
  .ofMillis c.source.requestTimeoutMs.toNat

end Config

end HexWorld
