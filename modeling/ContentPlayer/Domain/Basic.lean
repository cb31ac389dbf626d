import ContentPlayer.Domain.Catalog
import ContentPlayer.Domain.Module
import ContentPlayer.Domain.Registry

namespace ContentPlayer

/-- A stage's number among the stages of a world. -/
abbrev StageId := Nat

/-- Where content runs: its modules in the order in which they were loaded, how many of them have
been executed, the registered definitions, and the catalog from which more can be brought. -/
structure Domain (ω : Type) where
  executor : Executor ω
  version : UInt8
  modules : List Module := []
  executed : Nat := 0
  registries : Registries := {}
  catalog : Option Catalog := none
  /-- The catalog entries that have been executed. -/
  resolved : List Nat := []
  stage : Option StageId := none

inductive Resolution where
  | registered
  | alreadyLoaded (entry : String)
  | executed (entry : String)
  | notFound
  deriving DecidableEq, Repr

namespace Domain

variable {ω : Type}

def loadModule (w : ω) (d : Domain ω) (code : Bytes) (origin : String) :
    ω × Domain ω × Except ModuleError Nat :=
  match d.executor.load w d.modules.length code origin with
  | (w, .ok m) => (w, { d with modules := d.modules ++ [m] }, .ok d.modules.length)
  | (w, .error e) => (w, d, .error e)

/-- Executes a module; only the first that has not been executed may be. -/
def executeModule (w : ω) (d : Domain ω) (id : Nat) : ω × Domain ω × Except ModuleError Unit :=
  match d.modules[id]? with
  | none => (w, d, .error (.unknown id))
  | some m =>
    if id ≠ d.executed then (w, d, .error (.outOfOrder m.origin d.executed id))
    else match d.executor.execute w m with
      | (w, .ok ()) => (w, { d with executed := d.executed + 1 }, .ok ())
      | (w, .error e) => (w, d, .error e)

/-- Takes the last module away if all before it have been executed. -/
def withdrawLast (d : Domain ω) : Domain ω :=
  if d.modules.length = d.executed + 1 then { d with modules := d.modules.dropLast } else d

/-- Loads and executes a module. One that fails is withdrawn, so that others can follow. -/
def loadAndExecute (w : ω) (d : Domain ω) (code : Bytes) (origin : String) :
    ω × Domain ω × Except ModuleError Nat :=
  match d.loadModule w code origin with
  | (w, d, .error e) => (w, d, .error e)
  | (w, d, .ok id) =>
    match d.executeModule w id with
    | (w, d, .ok ()) => (w, d, .ok id)
    | (w, d, .error e) => (w, d.withdrawLast, .error e)

/-- Registers a catalog in place of any other; nothing is executed yet. -/
def registerCatalog (d : Domain ω) (catalog : Catalog) : Domain ω :=
  { d with catalog := some catalog, resolved := [] }

/-- The catalog entry that brings a definition: its number, name and code. -/
def catalogEntry? (d : Domain ω) (name : String) : Option (Nat × String × Bytes) := do
  let catalog ← d.catalog
  let index ← catalog.indexOf name
  return (index, (← catalog.entry? index).name, ← catalog.code? index)

/-- Makes a definition available, by executing the catalog entry that brings it if need be. -/
def resolve (w : ω) (d : Domain ω) (name : String) : ω × Domain ω × Except ModuleError Resolution :=
  if d.registries.definitions.contains name then (w, d, .ok .registered)
  else match d.catalogEntry? name with
    | none => (w, d, .ok .notFound)
    | some (index, entry, code) =>
      if d.resolved.contains index then (w, d, .ok (.alreadyLoaded entry))
      else match d.loadAndExecute w code entry with
        | (w, d, .ok _) => (w, { d with resolved := index :: d.resolved }, .ok (.executed entry))
        | (w, d, .error e) => (w, d, .error e)

def construct (w : ω) (d : Domain ω) (call : ConstructorCall) : ω × Except ScriptError Unit :=
  d.executor.construct w call

/-- Registers a definition; one that had the name before is given back. -/
def define (d : Domain ω) (name : String) (definition : Definition) (loader : Option LoaderInfo) :
    Domain ω × Option (Registered Definition) :=
  let (registries, old) := d.registries.define name definition loader
  ({ d with registries }, old)

def describe (d : Domain ω) : String :=
  let catalog := match d.catalog with
    | some c => s!"Some({c.size})"
    | none => "None"
  "ExecutionDomain \x7b modules: " ++ toString d.modules.length ++ ", executed: " ++
    toString d.executed ++ ", catalog: " ++ catalog ++ ", content_version: " ++
    toString d.version ++ ", .. \x7d"

end Domain

end ContentPlayer
