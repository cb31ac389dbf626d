import ContentPlayer.Display.Constructors
import ContentPlayer.Session.World

namespace ContentPlayer

/-- Whether the root scene has been put on the stage. -/
inductive GraftState where
  | idle
  | grafting
  | grafted (content : NodeId)
  deriving DecidableEq, Repr

def GraftState.content? : GraftState → Option NodeId
  | .grafted content => some content
  | _ => none

inductive GraftResult where
  | grafted (content : NodeId) (report : ConstructorReport)
  | duplicate
  deriving DecidableEq, Repr

inductive DispatchError where
  | domainNotReady (name : String)
  deriving DecidableEq, Repr

def DispatchError.message : DispatchError → String
  | .domainNotReady name => s!"Execution domain not ready, dropped asset {name}"

/-- A fresh copy of the root scene as the last child of the root: at its starting frame, and stamped
with what brought it. -/
def Stage.mount (s : Stage) (template : Template) (loader : Option LoaderInfo) : Stage × NodeId :=
  let (tree, content) := s.tree.instantiate template
  let tree := match loader with
    | some info => tree.stamp content info
    | none => tree
  let tree := (tree.resetSubtree content).setTimeline content fun t => { t with first := true }
  ({ s with tree := (tree.addChild s.root content).1 }, content)

/-- Tells the content that it was added, and with all that is inside it that it is on stage. -/
def DisplayTree.announce (t : DisplayTree) (content : NodeId) : DisplayTree :=
  (t.dispatch content .added).dispatchAddedToStage content true

variable {ω : Type}

/-- Puts a copy of a template on the stage, runs its constructors and announces it. -/
def Stage.graft (run : ω → ConstructorCall → ω × Except ScriptError Unit) (w : ω) (s : Stage)
    (template : Template) (loader : Option LoaderInfo) : ω × Stage × NodeId × ConstructorReport :=
  let (s, content) := s.mount template loader
  let (w, tree, report) := DisplayTree.runConstructors run w s.tree content
  (w, { s with tree := tree.announce content }, content, report)

/-- Grafts the root scene on the session's stage. This happens once only. -/
def GraftState.graft (w : ω) (world : World ω) (state : GraftState) (template : Template) :
    ω × World ω × GraftState × Except DispatchError GraftResult :=
  if state ≠ .idle then (w, world, state, .ok .duplicate)
  else match world.sessionStage?, world.sessionDomain? with
    | some (stageId, stage), some (_, domain) =>
      let (w, stage, content, report) :=
        stage.graft (fun w => domain.construct w) w template world.session.loader
      let world :=
        { world.setStage stageId stage with
          session := { world.session with constructorsAllowed := true } }
      (w, world, .grafted content, .ok (.grafted content report))
    | _, _ => (w, world, state, .error (.domainNotReady template.name))

end ContentPlayer
