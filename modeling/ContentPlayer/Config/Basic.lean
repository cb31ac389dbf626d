import ContentPlayer.Text.Blank

namespace ContentPlayer

inductive LogLevel where
  | trace
  | debug
  | info
  | warn
  | error
  deriving DecidableEq, Repr

namespace LogLevel

def all : List LogLevel := [.trace, .debug, .info, .warn, .error]

/-- The name used in configuration files. -/
def name : LogLevel → String
  | .trace => "Trace"
  | .debug => "Debug"
  | .info => "Info"
  | .warn => "Warn"
  | .error => "Error"

/-- The name used in log filters. -/
def filter : LogLevel → String
  | .trace => "trace"
  | .debug => "debug"
  | .info => "info"
  | .warn => "warn"
  | .error => "error"

/-- Lower case for ASCII letters only. -/
def lowered (s : String) : String := String.ofList (s.toList.map Char.toLower)

/-- A level by its name in any case; warnings have a second name. -/
def ofName? (s : String) : Option LogLevel :=
  match lowered s with
  | "trace" => some .trace
  | "debug" => some .debug
  | "info" => some .info
  | "warn" => some .warn
  | "warning" => some .warn
  | "error" => some .error
  | _ => none

end LogLevel

/-- The names of the system resources and the limits of fetching them. -/
structure BootstrapConfig where
  assetRoot : String := "assets"
  builtin : String := "builtins/builtin.abc"
  catalog : String := "builtins/playerglobal.abcs"
  catalogIndex : String := "builtins/playerglobal.json"
  shell : String := "builtins/avmplus.abc"
  /-- Milliseconds a fetch may take; 0 is no limit. -/
  fetchTimeout : UInt64 := 30000
  deriving DecidableEq, Repr

structure LoggingConfig where
  /-- Used where the environment asks for no other level. -/
  level : LogLevel := .info
  toConsole : Bool := true
  deriving DecidableEq, Repr

structure PlayerConfig where
  bootstrap : BootstrapConfig := {}
  logging : LoggingConfig := {}
  deriving DecidableEq, Repr

inductive ConfigError where
  | file (reason : String)
  | parse (reason : String)
  | validation (reason : String)
  deriving DecidableEq, Repr

def ConfigError.message : ConfigError → String
  | .file reason => s!"Config file error: {reason}"
  | .parse reason => s!"Config parse error: {reason}"
  | .validation reason => s!"Config validation error: {reason}"

/-- The limit of a single fetch in milliseconds. -/
def BootstrapConfig.limit (c : BootstrapConfig) : Option Nat :=
  if c.fetchTimeout = 0 then none else some c.fetchTimeout.toNat

/-- The resource names with the names of their fields. -/
def BootstrapConfig.resources (c : BootstrapConfig) : List (String × String) :=
  [("builtin", c.builtin), ("catalog", c.catalog), ("catalog_index", c.catalogIndex),
    ("shell", c.shell)]

/-- No resource name may be blank. -/
def BootstrapConfig.validate (c : BootstrapConfig) : Except ConfigError Unit :=
  match c.resources.find? fun (_, name) => Text.isBlankText name with
  | some (field, _) => .error (.validation s!"bootstrap.{field} must not be empty")
  | none => .ok ()

def PlayerConfig.validate (c : PlayerConfig) : Except ConfigError Unit := c.bootstrap.validate

/-- The environment's variables, as a lookup. -/
abbrev Environment := String → Option String

/-- A count of milliseconds: digits, perhaps behind a plus, that fit 64 bits. -/
def milliseconds? (s : String) : Option UInt64 :=
  let digits := match s.toList with
    | '+' :: rest => rest
    | cs => cs
  if digits.isEmpty || !digits.all Char.isDigit then none
  else
    let n : Nat := digits.foldl (fun n c => n * 10 + (c.toNat - '0'.toNat)) 0
    if n < UInt64.size then some n.toUInt64 else none

/-- Fields that the environment sets are replaced; what does not read is passed over. -/
def PlayerConfig.override (c : PlayerConfig) (env : Environment) : PlayerConfig where
  bootstrap :=
    { c.bootstrap with
      assetRoot := (env "PLAYER_ASSET_ROOT").getD c.bootstrap.assetRoot
      fetchTimeout :=
        ((env "PLAYER_FETCH_TIMEOUT_MS").bind milliseconds?).getD c.bootstrap.fetchTimeout }
  logging :=
    { c.logging with
      level := ((env "PLAYER_LOG_LEVEL").bind LogLevel.ofName?).getD c.logging.level }

end ContentPlayer
