import ContentPlayer.Session.World

namespace ContentPlayer

inductive FactoryError where
  | unknownDefinition (name : String)
  | notInstantiable (name : String)
  | noStage
  | module (cause : ModuleError)
  deriving DecidableEq, Repr

def FactoryError.message : FactoryError → String
  | .unknownDefinition name => s!"Unknown definition: {name}"
  | .notInstantiable name => s!"Definition {name} is not a display object"
  | .noStage => "Stage not attached to the execution domain"
  | .module cause => s!"Module error while resolving definition: {cause.message}"

/-- What makes display objects from the definitions of a domain. -/
structure Factory where
  domain : DomainId
  deriving DecidableEq, Repr

namespace Factory

variable {ω : Type}

def templateOf (d : Domain ω) (name : String) : Except FactoryError Template :=
  match d.registries.definitions.get? name with
  | none => .error (.unknownDefinition name)
  | some entry =>
    match entry.value.template? with
    | none => .error (.notInstantiable name)
    | some template => .ok template

def stageOf (world : World ω) (d : Domain ω) : Except FactoryError (StageId × Stage) :=
  match d.stage.bind fun id => (world.stage? id).map (id, ·) with
  | none => .error .noStage
  | some s => .ok s

/-- A display object of a definition, outside of any other. The definition is resolved first. -/
def createInstance (w : ω) (world : World ω) (f : Factory) (name : String) :
    ω × World ω × Except FactoryError NodeId :=
  match world.domain? f.domain with
  | none => (w, world, .error (.unknownDefinition name))
  | some d =>
    match d.resolve w name with
    | (w, d, .error e) => (w, world.setDomain f.domain d, .error (.module e))
    | (w, d, .ok _) =>
      let world := world.setDomain f.domain d
      match templateOf d name with
      | .error e => (w, world, .error e)
      | .ok template =>
        match stageOf world d with
        | .error e => (w, world, .error e)
        | .ok (id, stage) =>
          let (tree, node) := stage.tree.instantiate template
          (w, world.setStage id { stage with tree }, .ok node)

/-- An empty display object, outside of any other. -/
def createSprite (world : World ω) (f : Factory) (name : String) :
    World ω × Except FactoryError NodeId :=
  match world.domain? f.domain with
  | none => (world, .error .noStage)
  | some d =>
    match stageOf world d with
    | .error e => (world, .error e)
    | .ok (id, stage) =>
      let (tree, node) := stage.tree.spawn name 1
      (world.setStage id { stage with tree }, .ok node)

end Factory

end ContentPlayer
