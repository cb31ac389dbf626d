import ContentPlayer.Bootstrap.Bootstrapper
import ContentPlayer.Session.Dispatch

namespace ContentPlayer

/-- A player of one piece of content: one bootstrap, one domain, at most one root scene. -/
structure Player (ω : Type) where
  bootstrapper : Bootstrapper ω
  world : World ω := {}
  graft : GraftState := .idle
  factory : Option Factory := none

namespace Player

variable {ω : Type}

def ofParts (host : Host ω) (config : BootstrapConfig) (executor : Executor ω) : Player ω :=
  { bootstrapper := ⟨host, config, some executor⟩ }

/-- Keeps the factory of a bootstrap that succeeded. -/
def keep (p : Player ω) : Progress ω Factory → Player ω
  | .ended (.ok factory) => { p with factory }
  | _ => p

def start (w : ω) (p : Player ω) (info : HostInfo) (flags : LibraryFlags) :
    ω × Player ω × Progress ω Factory :=
  let (w, world, bootstrapper, progress) := p.bootstrapper.start w p.world info flags
  (w, { p with world, bootstrapper }.keep progress, progress)

def resume (w : ω) (p : Player ω) (a : Attempt ω) : ω × Player ω × Progress ω Factory :=
  let (w, world, progress) := p.bootstrapper.resume w p.world a
  (w, { p with world }.keep progress, progress)

def dispatch (w : ω) (p : Player ω) (asset : Asset) (candidate : Bool) :
    ω × Player ω × Except DispatchError DispatchOutcome :=
  let (w, world, graft, result) := p.graft.dispatch w p.world asset candidate
  (w, { p with world, graft }, result)

/-- A frame of the host; nothing without a stage. -/
def enterFrame (p : Player ω) : Player ω × Option FrameTick :=
  let (world, tick) := p.world.enterFrame
  ({ p with world }, tick)

/-- A change of the host's size; nothing without a stage. -/
def resize (p : Player ω) : Player ω × Bool :=
  let (world, changed) := p.world.resize
  ({ p with world }, changed)

def content (p : Player ω) : Option NodeId := p.graft.content?

end Player

end ContentPlayer
