import ContentPlayer.Json.Basic
import ContentPlayer.Text.Utf8

namespace ContentPlayer

inductive ResourceKind where
  | binary
  | structured
  deriving DecidableEq, Repr

def ResourceKind.name : ResourceKind → String
  | .binary => "Binary"
  | .structured => "Structured"

structure LoadRequest where
  name : String
  kind : ResourceKind
  deriving DecidableEq, Repr

structure FetchError where
  name : String
  status : String
  deriving DecidableEq, Repr

def FetchError.message (e : FetchError) : String := s!"Unable to load {e.name}: {e.status}"

inductive Resource where
  | binary (bytes : Bytes)
  | structured (v : Json)

namespace Resource

/-- The bytes of a resource that was asked for as bytes. -/
def bytes (r : Resource) (name : String) : Except FetchError Bytes :=
  match r with
  | .binary bytes => .ok bytes
  | .structured _ => .error ⟨name, "expected binary response"⟩

/-- The value of a resource that was asked for as a document. -/
def json (r : Resource) (name : String) : Except FetchError Json :=
  match r with
  | .structured v => .ok v
  | .binary _ => .error ⟨name, "expected structured response"⟩

end Resource

/-- Where resources come from. A request is known by its ticket; polling it gives the answer once
that is there. `ω` is the state of everything outside. -/
structure Fetcher (ω : Type) where
  request : ω → LoadRequest → ω × Nat
  poll : ω → Nat → ω × Option (Except FetchError Resource)

end ContentPlayer
