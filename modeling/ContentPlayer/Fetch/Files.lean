import ContentPlayer.Fetch.Basic
import ContentPlayer.Files.Path
import ContentPlayer.Shape.Read

namespace ContentPlayer

/-- How a file that cannot be read is spoken of. -/
def FileError.status : FileError → String
  | .notFound => "404"
  | e => e.message

def documentOfBytes (bytes : Bytes) : Except Shape.Fault Json :=
  match Text.decode bytes with
  | .error _ => .error .notJson
  | .ok text => Shape.ofText Shape.readAny text

/-- The answer to a request from what was read of its file. An empty file is no answer. -/
def LoadRequest.answer (r : LoadRequest) (read : Except FileError Bytes) :
    Except FetchError Resource :=
  match read with
  | .error e => .error ⟨r.name, e.status⟩
  | .ok [] => .error ⟨r.name, "empty response"⟩
  | .ok bytes =>
    match r.kind with
    | .binary => .ok (.binary bytes)
    | .structured =>
      match documentOfBytes bytes with
      | .ok v => .ok (.structured v)
      | .error e => .error ⟨r.name, s!"invalid JSON: {e.message}"⟩

def LoadRequest.path (r : LoadRequest) (root : String) : String := Path.join root r.name

end ContentPlayer
