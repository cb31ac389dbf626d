import ContentPlayer.Script.Error
import ContentPlayer.Text.Utf8

namespace ContentPlayer

/-- A module that has been loaded: its number, where it comes from, and its code. -/
structure Module where
  id : Nat
  origin : String
  code : Bytes
  deriving DecidableEq, Repr

inductive ModuleError where
  | decode (origin reason : String)
  | execution (origin reason : String)
  /-- A module other than the next one was to be executed. -/
  | outOfOrder (origin : String) (next asked : Nat)
  | unknown (id : Nat)
  deriving DecidableEq, Repr

def ModuleError.message : ModuleError → String
  | .decode origin reason => s!"Failed to decode module {origin}: {reason}"
  | .execution origin reason => s!"Module {origin} failed to execute: {reason}"
  | .outOfOrder origin next asked =>
    s!"Module {origin} failed to execute: modules execute in load order: " ++
      s!"expected module {next}, got {asked}"
  | .unknown id => s!"Unknown module id: {id}"

/-- What loads and runs modules and constructors. `ω` is the state of everything outside. -/
structure Executor (ω : Type) where
  /-- Loads the module of a number from its code and origin. -/
  load : ω → Nat → Bytes → String → ω × Except ModuleError Module
  execute : ω → Module → ω × Except ModuleError Unit
  construct : ω → ConstructorCall → ω × Except ScriptError Unit

namespace Executor

variable {ω σ : Type}

/-- An executor on a part of the state. -/
def within (part : ω → σ) (put : σ → ω → ω) (x : Executor σ) : Executor ω where
  load w id code origin := let (s, r) := x.load (part w) id code origin; (put s w, r)
  execute w m := let (s, r) := x.execute (part w) m; (put s w, r)
  construct w call := let (s, r) := x.construct (part w) call; (put s w, r)

/-- An executor after each of whose calls something else happens. -/
def followedBy (after : ω → ω) (x : Executor ω) : Executor ω where
  load w id code origin := let (w, r) := x.load w id code origin; (after w, r)
  execute w m := let (w, r) := x.execute w m; (after w, r)
  construct w call := let (w, r) := x.construct w call; (after w, r)

end Executor

end ContentPlayer
