namespace ContentPlayer

/-- A display object's number in its tree, in order of creation. -/
abbrev NodeId := Nat

inductive EventKind where
  | added
  | addedToStage
  | resize
  deriving DecidableEq, Repr

def EventKind.all : List EventKind := [.added, .addedToStage, .resize]

def EventKind.name : EventKind → String
  | .added => "added"
  | .addedToStage => "addedToStage"
  | .resize => "resize"

structure DisplayEvent where
  target : NodeId
  kind : EventKind
  deriving DecidableEq, Repr

/-- A display object as log lines name it. -/
def describeNode (id : NodeId) : String :=
  "Entity \x7b index: " ++ toString id ++ ", generation: 1 \x7d"

end ContentPlayer
