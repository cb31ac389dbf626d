import ContentPlayer.CommandLine.Run

open ContentPlayer

def readFile (path : String) : IO (Except FileError Bytes) := do
  try
    return .ok (← IO.FS.readBinFile path).toList
  catch
    | .noFileOrDirectory .. => return .error .notFound
    | e => return .error (.other (toString e))

def variableNames : List String :=
  ["PLAYER_ASSET_ROOT", "PLAYER_FETCH_TIMEOUT_MS", "PLAYER_LOG_LEVEL", "RUST_LOG"]

def main (args : List String) : IO UInt32 := do
  let settings ← variableNames.mapM fun name => return (name, ← IO.getEnv name)
  let env : Environment := fun name => (settings.lookup name).join
  let ending ← CommandLine.run readFile env args
  for line in ending.lines do
    IO.println line.text
  return if ending.success then 0 else 1
