import ContentPlayer.Session.Graft

namespace ContentPlayer

inductive DispatchOutcome where
  /-- It is registered; a second root scene is nothing more. -/
  | registered (registry : RegistryKind) (duplicateRoot : Bool)
  | rootGrafted (content : NodeId) (report : ConstructorReport)
  | ignored
  | unhandled (typeName : String)
  deriving DecidableEq, Repr

/-- Where a payload goes: into a registry, or nowhere. -/
def Registries.accept (r : Registries) (name : String) (payload : Payload)
    (loader : Option LoaderInfo) : Registries × DispatchOutcome :=
  match payload with
  | .audio a => (r.addAudio name a loader, .registered .audio false)
  | .font a => (r.addFont name a loader, .registered .fonts false)
  | .graphic _ => (r, .ignored)
  | .unknown typeName => (r, .unhandled typeName)
  | .text a => ((r.define name (.text a) loader).1, .registered .definitions false)
  | .image a => ((r.define name (.image a) loader).1, .registered .definitions false)
  | .sprite t => ((r.define name (.sprite t) loader).1, .registered .definitions false)
  | .scene t => ((r.define name (.scene t) loader).1, .registered .definitions false)
  | .generic data => ((r.define name (.generic data) loader).1, .registered .definitions false)

/-- The template of an asset that is to become the content. -/
def Asset.rootTemplate? (a : Asset) (candidate : Bool) : Option Template :=
  match a.payload with
  | .scene t => if candidate && a.isRootScene then some t else none
  | _ => none

variable {ω : Type}

/-- Registers an asset in the session's domain; the first root scene is put on the stage as well. -/
def GraftState.dispatch (w : ω) (world : World ω) (state : GraftState) (asset : Asset)
    (candidate : Bool) : ω × World ω × GraftState × Except DispatchError DispatchOutcome :=
  match world.sessionDomain? with
  | none => (w, world, state, .error (.domainNotReady asset.name))
  | some (id, domain) =>
    let (registries, outcome) :=
      domain.registries.accept asset.name asset.payload world.session.loader
    let world := world.setDomain id { domain with registries }
    match asset.rootTemplate? candidate with
    | none => (w, world, state, .ok outcome)
    | some template =>
      match state.graft w world template with
      | (w, world, state, .error e) => (w, world, state, .error e)
      | (w, world, state, .ok .duplicate) =>
        (w, world, state, .ok (.registered .definitions true))
      | (w, world, state, .ok (.grafted content report)) =>
        (w, world, state, .ok (.rootGrafted content report))

end ContentPlayer
