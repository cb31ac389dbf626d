namespace ContentPlayer

/-- A display object as decoded, from which any number of copies can be made. -/
structure Template where
  name : String
  frames : UInt32 := 1
  /-- The source of the constructor that belongs to the object. -/
  constructor : Option String := none
  children : List Template := []
  deriving Inhabited, BEq, Repr

namespace Template

mutual
def nodeCount : Template → Nat
  | ⟨_, _, _, children⟩ => 1 + countAll children

def countAll : List Template → Nat
  | [] => 0
  | t :: ts => t.nodeCount + countAll ts
end

/-- A template built by hand has at least one frame. -/
def withFrames (t : Template) (frames : UInt32) : Template := { t with frames := max frames 1 }

def withConstructor (t : Template) (source : String) : Template :=
  { t with constructor := some source }

def withChild (t child : Template) : Template := { t with children := t.children ++ [child] }

end Template

end ContentPlayer
