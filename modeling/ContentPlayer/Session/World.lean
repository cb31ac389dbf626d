import ContentPlayer.Display.Stage
import ContentPlayer.Domain.Basic

namespace ContentPlayer

/-- A domain's number among the domains of a world. -/
abbrev DomainId := Nat

/-- The name space that content's definitions belong to. -/
structure ApplicationDomain where
  id : Nat
  domain : DomainId
  deriving DecidableEq, Repr

structure LoaderContext where
  checkPolicyFile : Bool
  application : ApplicationDomain
  deriving DecidableEq, Repr

/-- What one run of content can see; everything but the permission to run constructors is filled in
at once when the domain is published. -/
structure Session where
  loader : Option LoaderInfo := none
  application : Option ApplicationDomain := none
  context : Option LoaderContext := none
  constructorsAllowed : Bool := false
  domain : Option DomainId := none
  stage : Option StageId := none
  deriving DecidableEq, Repr

/-- A domain is there for content to run in. -/
def Session.isReady (s : Session) : Bool := s.domain.isSome

/-- A session with the domains and stages it may name. -/
structure World (ω : Type) where
  session : Session := {}
  domains : List (Domain ω) := []
  stages : List Stage := []
  /-- The number of the next application domain. -/
  nextApplication : Nat := 1

namespace World

variable {ω : Type}

def domain? (world : World ω) (id : DomainId) : Option (Domain ω) := world.domains[id]?

def stage? (world : World ω) (id : StageId) : Option Stage := world.stages[id]?

def setDomain (world : World ω) (id : DomainId) (d : Domain ω) : World ω :=
  { world with domains := world.domains.set id d }

def setStage (world : World ω) (id : StageId) (s : Stage) : World ω :=
  { world with stages := world.stages.set id s }

def addDomain (world : World ω) (d : Domain ω) : World ω × DomainId :=
  ({ world with domains := world.domains ++ [d] }, world.domains.length)

def addStage (world : World ω) (s : Stage) : World ω × StageId :=
  ({ world with stages := world.stages ++ [s] }, world.stages.length)

def sessionDomain? (world : World ω) : Option (DomainId × Domain ω) := do
  let id ← world.session.domain
  return (id, ← world.domain? id)

def sessionStage? (world : World ω) : Option (StageId × Stage) := do
  let id ← world.session.stage
  return (id, ← world.stage? id)

def enterFrame (world : World ω) : World ω × Option FrameTick :=
  match world.sessionStage? with
  | none => (world, none)
  | some (id, s) =>
    let (s, tick) := s.enterFrame
    (world.setStage id s, some tick)

/-- The stage looks at its surface's size, if there is one. -/
def resize (world : World ω) : World ω × Bool :=
  match world.sessionStage? with
  | none => (world, false)
  | some (id, s) =>
    let (s, changed) := s.resize
    (world.setStage id s, changed)

end World

end ContentPlayer
