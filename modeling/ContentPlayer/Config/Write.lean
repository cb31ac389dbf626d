import ContentPlayer.Config.Basic
import ContentPlayer.Toml.Write

namespace ContentPlayer

/-- The configuration as a file: one table for each part, its fields in order. -/
def PlayerConfig.toToml (c : PlayerConfig) : String :=
  let text (s : String) := Toml.writeString s.toList
  String.ofList <|
    Toml.writeHeader "bootstrap" ++
    Toml.writePair "asset_root" (text c.bootstrap.assetRoot) ++
    Toml.writePair "builtin" (text c.bootstrap.builtin) ++
    Toml.writePair "catalog" (text c.bootstrap.catalog) ++
    Toml.writePair "catalog_index" (text c.bootstrap.catalogIndex) ++
    Toml.writePair "shell" (text c.bootstrap.shell) ++
    Toml.writePair "fetch_timeout_ms" (Nat.toDigits 10 c.bootstrap.fetchTimeout.toNat) ++
    ['\n'] ++
    Toml.writeHeader "logging" ++
    Toml.writePair "level" (text c.logging.level.name) ++
    Toml.writePair "log_to_console" (if c.logging.toConsole then "true".toList else "false".toList)

end ContentPlayer
