import ContentPlayer.Display.Tree

namespace ContentPlayer

structure Viewport where
  width : UInt32
  height : UInt32
  deriving DecidableEq, Repr

def Viewport.describe (v : Viewport) : String :=
  "Viewport \x7b width: " ++ toString v.width ++ ", height: " ++ toString v.height ++ " \x7d"

structure Surface where
  viewport : Viewport
  /-- It knows the stage that drives it. -/
  linked : Bool := false
  deriving DecidableEq, Repr

/-- A display tree with a root that everything on stage is inside of. -/
structure Stage where
  tree : DisplayTree
  root : NodeId
  surface : Surface
  /-- The surface's size when it was last looked at. -/
  viewport : Viewport
  frame : Nat
  deriving DecidableEq, Repr

structure FrameTick where
  frame : Nat
  /-- The objects for which it was a starting frame. -/
  started : List NodeId
  /-- How many other objects it took on. -/
  advanced : Nat
  /-- The events since the frame before. -/
  events : List DisplayEvent
  deriving DecidableEq, Repr

namespace Stage

/-- A stage with nothing on it. -/
def ofSurface (surface : Surface) : Stage :=
  let (tree, root) := ({} : DisplayTree).spawn "stage" 1
  ⟨tree, root, surface, surface.viewport, 0⟩

/-- A stage that its surface knows. -/
def attach (surface : Surface) : Stage := ofSurface { surface with linked := true }

def modifyTree (s : Stage) (f : DisplayTree → DisplayTree) : Stage := { s with tree := f s.tree }

def setViewport (s : Stage) (v : Viewport) : Stage :=
  { s with surface := { s.surface with viewport := v } }

/-- Advances some objects: the tree afterwards, those that started, and how many others. -/
def advanceAll : List NodeId → DisplayTree → DisplayTree × List NodeId × Nat
  | [], t => (t, [], 0)
  | id :: ids, t =>
    match t.timeline id with
    | none => advanceAll ids t
    | some timeline =>
      let (next, phase) := timeline.advance
      let (t, started, advanced) := advanceAll ids (t.setTimeline id fun _ => next)
      match phase with
      | .start => (t, id :: started, advanced)
      | .advanced _ => (t, started, advanced + 1)

/-- Takes the events and advances everything on stage, but not the root. -/
def enterFrame (s : Stage) : Stage × FrameTick :=
  let (tree, events) := s.tree.drainEvents
  let onStage := (tree.preOrder s.root).filter (· != s.root)
  let (tree, started, advanced) := advanceAll onStage tree
  ({ s with tree, frame := s.frame + 1 }, ⟨s.frame + 1, started, advanced, events⟩)

/-- Looks at the surface's size, and tells the root when it has changed. -/
def resize (s : Stage) : Stage × Bool :=
  if s.surface.viewport = s.viewport then (s, false)
  else
    ({ s with viewport := s.surface.viewport, tree := s.tree.dispatch s.root .resize }, true)

def describe (s : Stage) : String :=
  "Stage \x7b root: " ++ describeNode s.root ++ ", viewport: " ++ s.viewport.describe ++
    ", frame: " ++ toString s.frame ++ ", .. \x7d"

end Stage

end ContentPlayer
