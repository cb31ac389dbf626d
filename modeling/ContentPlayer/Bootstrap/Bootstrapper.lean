import ContentPlayer.Bootstrap.Attempt
import ContentPlayer.Text.Quoted

namespace ContentPlayer

/-- What bootstraps a session. The executor is there until the first attempt has taken it. -/
structure Bootstrapper (ω : Type) where
  host : Host ω
  config : BootstrapConfig
  executor : Option (Executor ω)

def HostInfo.describe (i : HostInfo) : String :=
  "EnvironmentInfo \x7b url: " ++ Text.quoted i.url ++ ", content_version: " ++
    toString i.version ++ ", viewport: " ++ i.surface.viewport.describe ++ " \x7d"

variable {ω : Type}

/-- Fills in the session: the domain, a stage on the host's surface, and what names them. -/
def World.publish (world : World ω) (d : Domain ω) (info : HostInfo) : World ω × Factory :=
  let (world, stage) := world.addStage (.attach info.surface)
  let (world, domain) := world.addDomain { d with stage := some stage }
  let application : ApplicationDomain := ⟨world.nextApplication, domain⟩
  ({ world with
      nextApplication := world.nextApplication + 1
      session :=
        { world.session with
          context := some ⟨false, application⟩
          application := some application
          loader := some ⟨info.url, info.version⟩
          domain := some domain
          stage := some stage } }, ⟨domain⟩)

namespace Bootstrapper

/-- Publishes the domain of an attempt that has ended with one. -/
def conclude (world : World ω) (info : HostInfo) :
    Progress ω (Domain ω) → World ω × Progress ω Factory
  | .waiting a => (world, .waiting a)
  | .ended (.error e) => (world, .ended (.error e))
  | .ended (.ok none) => (world, .ended (.ok none))
  | .ended (.ok (some d)) =>
    let (world, factory) := world.publish d info
    (world, .ended (.ok (some factory)))

def resume (w : ω) (world : World ω) (b : Bootstrapper ω) (a : Attempt ω) :
    ω × World ω × Progress ω Factory :=
  let (w, progress) := a.poll b.host w
  let (world, progress) := conclude world a.info progress
  (w, world, progress)

/-- Begins the one attempt, and takes it as far as it goes now. -/
def start (w : ω) (world : World ω) (b : Bootstrapper ω) (info : HostInfo) (flags : LibraryFlags) :
    ω × World ω × Bootstrapper ω × Progress ω Factory :=
  if !flags.contains .builtin then (w, world, b, .ended (.error .builtinMissing))
  else if world.session.isReady then (w, world, b, .ended (.error .sessionReady))
  else match b.executor with
    | none => (w, world, b, .ended (.error .alreadyStarted))
    | some x =>
      let b := { b with executor := none }
      let (w, world, progress) := b.resume w world ⟨info, flags, b.config, .baseline x .unasked⟩
      (w, world, b, progress)

end Bootstrapper

end ContentPlayer
