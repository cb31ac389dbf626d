import ContentPlayer.Fetch.Files
import ContentPlayer.Log.Line
import ContentPlayer.Player
import ContentPlayer.Script.Interpreter
import ContentPlayer.Text.Quoted

namespace ContentPlayer

/-- The world outside of a player that is run from the command line: the script engine, the lines
that executing has brought since they were last taken, and the requests with their answers. -/
structure Console (σ : Type) where
  engine : Script.Sandbox σ
  lines : List LogLine := []
  requests : List LoadRequest := []
  answers : List (Except FetchError Resource) := []

namespace Console

variable {σ : Type}

/-- Nothing has happened yet. -/
def start (i : Script.Interpreter σ) : Console σ := { engine := i.sandbox }

def say (c : Console σ) (level : LogLevel) (target message : String) : Console σ :=
  { c with lines := c.lines ++ [⟨level, target, message⟩] }

/-- Lets the engine work; what it prints is logged. -/
def onEngine (c : Console σ) (f : Script.Sandbox σ → Script.Sandbox σ × α) : Console σ × α :=
  let (engine, a) := f c.engine
  let printed := engine.printed.drop c.engine.printed.length
  ({ c with engine, lines := c.lines ++ printed.map (⟨.info, "trace", ·⟩) }, a)

section Executor

variable (i : Script.Interpreter σ)

def load (c : Console σ) (id : Nat) (code : Bytes) (origin : String) :
    Console σ × Except ModuleError Module :=
  match c.onEngine fun e => i.executor.load e id code origin with
  | (c, .ok m) => (c.say .debug "domain" s!"Loaded module {origin} as ModuleId({id})", .ok m)
  | (c, .error e) => (c, .error e)

def execute (c : Console σ) (m : Module) : Console σ × Except ModuleError Unit :=
  let c := c.say .debug "script" s!"Executing module {m.origin}"
  match c.onEngine fun e => i.executor.execute e m with
  | (c, .ok ()) => (c.say .debug "domain" s!"Executed module {m.origin}", .ok ())
  | (c, .error e) =>
    (c.say .warn "domain" s!"Dropped module {m.origin} after failed execution", .error e)

def construct (c : Console σ) (call : ConstructorCall) : Console σ × Except ScriptError Unit :=
  match c.onEngine fun e => i.executor.construct e call with
  | (c, .ok ()) => (c, .ok ())
  | (c, .error e) =>
    (c.say .warn "display" s!"Constructor of {call.target} failed: {e.message}", .error e)

def executor : Executor (Console σ) := ⟨load i, execute i, construct i⟩

end Executor

def request (c : Console σ) (r : LoadRequest) : Console σ × Nat :=
  ({ c with requests := c.requests ++ [r] }, c.requests.length)

def poll (c : Console σ) (ticket : Nat) : Console σ × Option (Except FetchError Resource) :=
  (c, c.answers[ticket]?)

/-- Nothing cancels the work, and no time passes. -/
def host : Host (Console σ) := ⟨⟨request, poll⟩, fun _ => false, fun _ => 0⟩

/-- The requests that are not answered yet. -/
def unanswered (c : Console σ) : List LoadRequest := c.requests.drop c.answers.length

def takeLines (c : Console σ) : Console σ × List LogLine := ({ c with lines := [] }, c.lines)

end Console

end ContentPlayer
