import ContentPlayer.Config.Read
import ContentPlayer.Config.Write
import ContentPlayer.Files.Error

namespace ContentPlayer.PlayerConfig

/-- A configuration from what was read of a file. -/
def ofFile (parse : String → Except ConfigError PlayerConfig) (read : Except FileError Bytes) :
    Except ConfigError PlayerConfig := do
  let text ← (fileText read).mapError fun e => .file e.message
  parse text

def tomlFile : String := "player.toml"

def jsonFile : String := "player.json"

/-- The configuration of the first file that reads as one, else the default. -/
def load {m : Type → Type} [Monad m] (read : String → m (Except FileError Bytes)) :
    m PlayerConfig := do
  match ofFile ofToml (← read tomlFile) with
  | .ok config => return config
  | .error _ =>
    match ofFile ofJson (← read jsonFile) with
    | .ok config => return config
    | .error _ => return {}

end ContentPlayer.PlayerConfig
