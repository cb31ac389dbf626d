import ContentPlayer.Display.Event
import ContentPlayer.Display.Template
import ContentPlayer.Display.Timeline
import ContentPlayer.LoaderInfo

namespace ContentPlayer

structure Node where
  name : String
  timeline : Timeline
  parent : Option NodeId := none
  children : List NodeId := []
  /-- The constructor that has not run yet. -/
  pending : Option String := none
  loader : Option LoaderInfo := none
  deriving DecidableEq, Repr

/-- Display objects by number, and the events no frame has taken yet, the oldest first. -/
structure DisplayTree where
  nodes : List Node := []
  events : List DisplayEvent := []
  deriving DecidableEq, Repr

namespace DisplayTree

def node? (t : DisplayTree) (id : NodeId) : Option Node := t.nodes[id]?

def contains (t : DisplayTree) (id : NodeId) : Bool := (t.node? id).isSome

def size (t : DisplayTree) : Nat := t.nodes.length

def children (t : DisplayTree) (id : NodeId) : List NodeId :=
  ((t.node? id).map Node.children).getD []

def parent (t : DisplayTree) (id : NodeId) : Option NodeId := (t.node? id).bind Node.parent

def timeline (t : DisplayTree) (id : NodeId) : Option Timeline := (t.node? id).map Node.timeline

/-- Changes one object, if there is one of that number. -/
def modify (t : DisplayTree) (id : NodeId) (f : Node → Node) : DisplayTree :=
  { t with nodes := t.nodes.modify id f }

def setTimeline (t : DisplayTree) (id : NodeId) (f : Timeline → Timeline) : DisplayTree :=
  t.modify id fun n => { n with timeline := f n.timeline }

theorem size_modify (t : DisplayTree) (id : NodeId) (f : Node → Node) :
    (t.modify id f).size = t.size := by
  simp [modify, size]

theorem node?_modify (t : DisplayTree) (id k : NodeId) (f : Node → Node) :
    (t.modify id f).node? k = if k = id then (t.node? k).map f else t.node? k := by
  simp only [node?, modify, List.getElem?_modify]
  grind

/-- A new object outside of any other. -/
def spawn (t : DisplayTree) (name : String) (frames : UInt32) : DisplayTree × NodeId :=
  ({ t with nodes := t.nodes ++ [{ name, timeline := .ofTotal frames }] }, t.size)

theorem size_spawn (t : DisplayTree) (name : String) (frames : UInt32) :
    (t.spawn name frames).1.size = t.size + 1 := by
  simp [spawn, size]

def detach (t : DisplayTree) (child : NodeId) : DisplayTree :=
  match t.parent child with
  | none => t
  | some p =>
    (t.modify p fun n => { n with children := n.children.filter (· != child) }).modify child
      fun n => { n with parent := none }

/-- Puts an object behind the other children of a parent, after taking it out of its old one. Only
an object and itself, or numbers of no object, are refused. -/
def addChild (t : DisplayTree) (parent child : NodeId) : DisplayTree × Bool :=
  if parent = child || !t.contains parent || !t.contains child then (t, false)
  else
    (((t.detach child).modify parent fun n => { n with children := n.children ++ [child] }).modify
      child fun n => { n with parent := some parent }, true)

def setPending (t : DisplayTree) (id : NodeId) (source : Option String) : DisplayTree :=
  t.modify id fun n => { n with pending := source }

mutual
/-- A copy of a template: its objects are numbered in order of the template, parents first. -/
def instantiate (t : DisplayTree) : Template → DisplayTree × NodeId
  | ⟨name, frames, constructor, children⟩ =>
    let (t, id) := t.spawn name frames
    (instantiateAll (t.setPending id constructor) id children, id)

def instantiateAll (t : DisplayTree) (parent : NodeId) : List Template → DisplayTree
  | [] => t
  | c :: cs =>
    let (t, child) := t.instantiate c
    instantiateAll (t.addChild parent child).1 parent cs
end

def stamp (t : DisplayTree) (id : NodeId) (info : LoaderInfo) : DisplayTree :=
  t.modify id fun n => { n with loader := some info }

/-- Walks through the objects on a stack; the children of each are put on top of the others. None
when more objects come by than the bound says. -/
def walk (t : DisplayTree) : Nat → List NodeId → Option (List NodeId)
  | _, [] => some []
  | 0, _ :: _ => none
  | bound + 1, id :: stack =>
    match t.node? id with
    | none => t.walk bound stack
    | some n => (t.walk bound (n.children ++ stack)).map (id :: ·)

/-- An object and what is inside it, parents first. Where no object is inside itself, every object
comes by once, so that the bound is never met. -/
def preOrder (t : DisplayTree) (root : NodeId) : List NodeId :=
  (t.walk (t.size + 1) [root]).getD []

/-- What is inside an object, and then itself, no deeper than the bound. -/
def climb (t : DisplayTree) : Nat → NodeId → Option (List NodeId)
  | 0, _ => none
  | bound + 1, id =>
    match t.node? id with
    | none => some []
    | some n => (n.children.mapM (t.climb bound)).map (·.flatten ++ [id])

/-- An object and what is inside it, children first. -/
def postOrder (t : DisplayTree) (root : NodeId) : List NodeId :=
  (t.climb (t.size + 1) root).getD []

/-- Puts all playheads of a subtree at the beginning. -/
def resetSubtree (t : DisplayTree) (root : NodeId) : DisplayTree :=
  (t.preOrder root).foldl (fun t id => t.setTimeline id Timeline.reset) t

def dispatch (t : DisplayTree) (target : NodeId) (kind : EventKind) : DisplayTree :=
  { t with events := t.events ++ [⟨target, kind⟩] }

/-- Tells an object, or with it all that is inside, that it is on the stage now. -/
def dispatchAddedToStage (t : DisplayTree) (target : NodeId) (broadcast : Bool) : DisplayTree :=
  (if broadcast then t.preOrder target else [target]).foldl (·.dispatch · .addedToStage) t

def drainEvents (t : DisplayTree) : DisplayTree × List DisplayEvent :=
  ({ t with events := [] }, t.events)

end DisplayTree

end ContentPlayer
