import ContentPlayer.Display.Tree
import ContentPlayer.Script.Error

namespace ContentPlayer

structure ConstructorFailure where
  target : String
  error : ScriptError
  deriving DecidableEq, Repr

/-- How many constructors ran, and which of them failed, in order. -/
structure ConstructorReport where
  executed : Nat := 0
  failures : List ConstructorFailure := []
  deriving DecidableEq, Repr

def ConstructorReport.isClean (r : ConstructorReport) : Bool := r.failures.isEmpty

def ConstructorReport.record (r : ConstructorReport) (target : String) :
    Except ScriptError Unit → ConstructorReport
  | .ok () => { r with executed := r.executed + 1 }
  | .error e => ⟨r.executed + 1, r.failures ++ [⟨target, e⟩]⟩

namespace DisplayTree

variable {ω : Type} (run : ω → ConstructorCall → ω × Except ScriptError Unit)

/-- Runs the pending constructors of some objects one after the other, whatever each gives. -/
def runPending :
    List NodeId → ω × DisplayTree × ConstructorReport → ω × DisplayTree × ConstructorReport
  | [], s => s
  | id :: ids, (w, t, report) =>
    match t.node? id with
    | some ⟨name, _, _, _, some source, _⟩ =>
      let (w, result) := run w ⟨name, source⟩
      runPending ids (w, t.setPending id none, report.record name result)
    | _ => runPending ids (w, t, report)

/-- Runs the pending constructors of a subtree, children first. -/
def runConstructors (w : ω) (t : DisplayTree) (root : NodeId) :
    ω × DisplayTree × ConstructorReport :=
  runPending run (t.postOrder root) (w, t, {})

end DisplayTree

end ContentPlayer
