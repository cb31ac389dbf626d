import ContentPlayer.Config.Basic
import ContentPlayer.Shape.Read
import ContentPlayer.Toml.Read

namespace ContentPlayer

open ContentPlayer.Shape (Reader Medium Form Slot)

/-- The fields of a configuration as far as they have been read. -/
structure BootstrapFields where
  assetRoot : Option String := none
  builtin : Option String := none
  catalog : Option String := none
  catalogIndex : Option String := none
  shell : Option String := none
  fetchTimeout : Option Nat := none

structure LoggingFields where
  level : Option LogLevel := none
  toConsole : Option Bool := none

structure PlayerFields where
  bootstrap : Option BootstrapConfig := none
  logging : Option LoggingConfig := none

/-- Fields left out have their defaults. -/
def BootstrapFields.config (s : BootstrapFields) : BootstrapConfig :=
  let base : BootstrapConfig := {}
  { assetRoot := s.assetRoot.getD base.assetRoot
    builtin := s.builtin.getD base.builtin
    catalog := s.catalog.getD base.catalog
    catalogIndex := s.catalogIndex.getD base.catalogIndex
    shell := s.shell.getD base.shell
    fetchTimeout := (s.fetchTimeout.map Nat.toUInt64).getD base.fetchTimeout }

def LoggingFields.config (s : LoggingFields) : LoggingConfig :=
  { level := s.level.getD .info, toConsole := s.toConsole.getD true }

def PlayerFields.config (s : PlayerFields) : PlayerConfig :=
  { bootstrap := s.bootstrap.getD {}, logging := s.logging.getD {} }

def bootstrapForm : Form BootstrapFields BootstrapConfig where
  name := "struct BootstrapConfig"
  slots := [
    ⟨"asset_root", (·.assetRoot.isSome),
      fun _ d s => do return { s with assetRoot := some (← Shape.readText "path string" d) }⟩,
    ⟨"builtin", (·.builtin.isSome),
      fun _ d s => do return { s with builtin := some (← Shape.readText "a string" d) }⟩,
    ⟨"catalog", (·.catalog.isSome),
      fun _ d s => do return { s with catalog := some (← Shape.readText "a string" d) }⟩,
    ⟨"catalog_index", (·.catalogIndex.isSome),
      fun _ d s => do return { s with catalogIndex := some (← Shape.readText "a string" d) }⟩,
    ⟨"shell", (·.shell.isSome),
      fun _ d s => do return { s with shell := some (← Shape.readText "a string" d) }⟩,
    ⟨"fetch_timeout_ms", (·.fetchTimeout.isSome),
      fun _ d s => do
        return { s with fetchTimeout := some (← Shape.readNatural UInt64.size "u64" d) }⟩]
  start := {}
  finish := fun s => .ok s.config

def readLevel (m : Medium) : Reader LogLevel :=
  Shape.readChoice m (LogLevel.all.map LogLevel.name) fun name content _ => do
    Shape.readUnit m content
    match LogLevel.all.find? (·.name = name) with
    | some level => .ok level
    | none => .error (.unknownVariant name (LogLevel.all.map LogLevel.name))

def loggingForm (m : Medium) : Form LoggingFields LoggingConfig where
  name := "struct LoggingConfig"
  slots := [
    ⟨"level", (·.level.isSome),
      fun room d s => do return { s with level := some (← readLevel m room d) }⟩,
    ⟨"log_to_console", (·.toConsole.isSome),
      fun _ d s => do return { s with toConsole := some (← Shape.readFlag d) }⟩]
  start := {}
  finish := fun s => .ok s.config

def playerForm (m : Medium) : Form PlayerFields PlayerConfig where
  name := "struct PlayerConfig"
  slots := [
    ⟨"bootstrap", (·.bootstrap.isSome),
      fun room d s => do return { s with bootstrap := some (← bootstrapForm.read m room d) }⟩,
    ⟨"logging", (·.logging.isSome),
      fun room d s => do return { s with logging := some (← (loggingForm m).read m room d) }⟩]
  start := {}
  finish := fun s => .ok s.config

def PlayerConfig.read (m : Medium) : Reader PlayerConfig := (playerForm m).read m

def PlayerConfig.ofJson (text : String) : Except ConfigError PlayerConfig :=
  (Shape.ofText (PlayerConfig.read .text) text).mapError fun e => .parse e.message

def PlayerConfig.ofToml (text : String) : Except ConfigError PlayerConfig :=
  match Toml.ofText text with
  | none => .error (.parse "TOML syntax error")
  | some d => (Shape.ofDraft (PlayerConfig.read .table) d).mapError fun e => .parse e.message

end ContentPlayer
