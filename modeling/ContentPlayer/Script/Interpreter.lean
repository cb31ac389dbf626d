import ContentPlayer.Domain.Module
import ContentPlayer.Script.Process
import ContentPlayer.Text.Split

namespace ContentPlayer.Script

/-- Why an evaluation has failed, in the words of an engine. -/
structure Failure where
  message : String
  deriving DecidableEq, Repr

def Failure.error (f : Failure) : ScriptError := .runtime f.message

/-- An engine for scripts, in which the functions that print are installed. `σ` is all that its
evaluations share, and all that they depend on. -/
structure Interpreter (σ : Type) where
  initial : σ
  evaluate : String → σ → Outcome σ Failure Unit
  /-- Gives a global of some name a text. -/
  setGlobal : String → String → σ → Outcome σ Failure Unit

/-- An engine at work: what its scripts share, and the lines that they have printed. -/
structure Sandbox (σ : Type) where
  scope : σ
  printed : List String := []

/-- The lines of a message, of which there is one at least. -/
def linesOf (message : String) : List String :=
  (Text.splitAt '\n' message.toList).map String.ofList

variable {σ : Type}

/-- What has happened in a sandbox, where the lines of each message are printed. -/
def Sandbox.take {α : Type} (e : Sandbox σ) (o : Outcome σ Failure α) :
    Sandbox σ × Except Failure α :=
  (⟨o.scope, e.printed ++ o.messages.flatMap linesOf⟩, o.result)

/-- The source that a module's code spells. -/
def sourceText (origin : String) (code : Bytes) : Except ModuleError String :=
  (Text.decode code).mapError fun e => .decode origin e.message

namespace Interpreter

variable (i : Interpreter σ)

def sandbox : Sandbox σ := ⟨i.initial, []⟩

def eval (e : Sandbox σ) (source : String) : Sandbox σ × Except Failure Unit :=
  e.take (i.evaluate source e.scope)

/-- Evaluates a constructor, which finds its object's name in a global. -/
def construct (e : Sandbox σ) (call : ConstructorCall) : Sandbox σ × Except Failure Unit :=
  match e.take (i.setGlobal "currentTarget" call.target e.scope) with
  | (e, .ok ()) => i.eval e call.source
  | (e, .error f) => (e, .error f)

/-- Loading checks that the code is text; executing evaluates it. -/
def executor : Executor (Sandbox σ) where
  load e id code origin :=
    (e, (sourceText origin code).map fun _ => ⟨id, origin, code⟩)
  execute e m :=
    match sourceText m.origin m.code with
    | .error reason => (e, .error reason)
    | .ok source =>
      let (e, result) := i.eval e source
      (e, result.mapError fun f => .execution m.origin f.error.message)
  construct e call :=
    let (e, result) := i.construct e call
    (e, result.mapError Failure.error)

end Interpreter

end ContentPlayer.Script
