import ContentPlayer.Domain.Catalog
import ContentPlayer.Domain.Module
import ContentPlayer.Fetch.Basic

namespace ContentPlayer

inductive BootstrapStage where
  | baseline
  | catalog
  | shell
  | finalize
  deriving DecidableEq, Repr

namespace BootstrapStage

def all : List BootstrapStage := [.baseline, .catalog, .shell, .finalize]

def name : BootstrapStage → String
  | .baseline => "baseline"
  | .catalog => "catalog"
  | .shell => "shell"
  | .finalize => "finalize"

end BootstrapStage

inductive StageFailure where
  | fetch (e : FetchError)
  | module (e : ModuleError)
  | catalog (e : CatalogError)
  deriving DecidableEq, Repr

def StageFailure.message : StageFailure → String
  | .fetch e => e.message
  | .module e => e.message
  | .catalog e => e.message

inductive BootstrapError where
  | failed (stage : BootstrapStage) (cause : StageFailure)
  | invariantViolation (reason : String)
  | cancelled (stage : BootstrapStage)
  deriving DecidableEq, Repr

namespace BootstrapError

def message : BootstrapError → String
  | .failed stage cause => s!"Bootstrap failed at stage {stage.name}: {cause.message}"
  | .invariantViolation reason => s!"Invariant violation: {reason}"
  | .cancelled stage => s!"Bootstrap cancelled during stage {stage.name}"

/-- The stage in which it happened; a violation belongs to none. -/
def stage? : BootstrapError → Option BootstrapStage
  | .failed stage _ => some stage
  | .invariantViolation _ => none
  | .cancelled stage => some stage

/-- No domain can be made without the builtin library. -/
def builtinMissing : BootstrapError := .invariantViolation "the builtin library is mandatory"

/-- A session has one domain. -/
def sessionReady : BootstrapError := .invariantViolation "session already has an execution domain"

/-- One attempt is all there is. -/
def alreadyStarted : BootstrapError := .invariantViolation "bootstrap already started"

end BootstrapError

end ContentPlayer
