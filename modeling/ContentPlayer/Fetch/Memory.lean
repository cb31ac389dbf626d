import ContentPlayer.Fetch.Basic

namespace ContentPlayer

/-- Resources kept by name, and the names they were asked for. -/
structure ResourceTable where
  resources : List (String × Resource) := []
  asked : List String := []

namespace ResourceTable

/-- Keeps a resource; one of the same name is no longer found. -/
def put (t : ResourceTable) (name : String) (r : Resource) : ResourceTable :=
  { t with resources := (name, r) :: t.resources }

/-- What there is under a name. No bytes at all are no answer. -/
def find (t : ResourceTable) (name : String) : Except FetchError Resource :=
  match t.resources.lookup name with
  | none => .error ⟨name, "404"⟩
  | some (.binary []) => .error ⟨name, "empty response"⟩
  | some r => .ok r

/-- Answers a request and remembers its name. -/
def ask (t : ResourceTable) (name : String) : ResourceTable × Except FetchError Resource :=
  ({ t with asked := t.asked ++ [name] }, t.find name)

end ResourceTable

end ContentPlayer
