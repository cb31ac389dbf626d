import ContentPlayer.Bootstrap.Attempt
import ContentPlayer.Cancel
import ContentPlayer.Domain.Recording
import ContentPlayer.Fetch.Memory
import ContentPlayer.Script.Executor

namespace ContentPlayer

/-- How a resource answers: never, or after some milliseconds, perhaps with an error. -/
structure Delivery where
  pending : Bool := false
  delay : Nat := 0
  error : Option String := none
  deriving DecidableEq, Repr

/-- A request under way; without a time it is never answered. -/
structure Awaited where
  name : String
  due : Option Nat
  deriving DecidableEq, Repr

/-- A world outside in which nothing is left to chance: a clock that stands still while anything can
happen, resources that arrive as planned, and a log of all that is asked of it. -/
structure Simulation where
  now : Nat := 0
  log : List String := []
  engine : Script.Engine := {}
  cancel : CancelGroup := {}
  /-- The log line at which the work is cancelled. -/
  cancelOn : Option String := none
  table : ResourceTable := {}
  deliveries : List (String × Delivery) := []
  awaited : List Awaited := []

namespace Simulation

def note (line : String) (s : Simulation) : Simulation := { s with log := s.log ++ [line] }

/-- Cancels if the newest line is the one for that. -/
def watch (s : Simulation) : Simulation :=
  match s.cancelOn, s.log.getLast? with
  | some line, some newest => if line = newest then { s with cancel := s.cancel.cancel } else s
  | _, _ => s

/-- The token that the player was given is the first one. -/
def isCancelled (s : Simulation) : Bool := s.cancel.isCancelled 0

def delivery (s : Simulation) (name : String) : Delivery := (s.deliveries.lookup name).getD {}

def request (s : Simulation) (r : LoadRequest) : Simulation × Nat :=
  let d := s.delivery r.name
  let due := if d.pending then none else some (s.now + d.delay)
  let s := (s.note s!"fetch {r.name}").watch
  ({ s with awaited := s.awaited ++ [⟨r.name, due⟩] }, s.awaited.length)

/-- What a resource answers when its time has come. -/
def deliver (s : Simulation) (name : String) : Simulation × Except FetchError Resource :=
  match (s.delivery name).error with
  | some status => (s, .error ⟨name, status⟩)
  | none =>
    let (table, answer) := s.table.ask name
    ({ s with table }, answer)

def poll (s : Simulation) (ticket : Nat) : Simulation × Option (Except FetchError Resource) :=
  match s.awaited[ticket]? with
  | some ⟨name, some due⟩ =>
    if due ≤ s.now then
      let (s, answer) := s.deliver name
      ((s.note s!"arrived {name}").watch, some answer)
    else (s, none)
  | _ => (s, none)

def host : Host Simulation where
  fetcher := ⟨request, poll⟩
  cancelled := isCancelled
  now := Simulation.now

def recordingExecutor : Executor Simulation := (Executor.recording note).followedBy watch

def scriptExecutor : Executor Simulation :=
  (Script.executor.within Simulation.engine fun engine s => { s with engine }).followedBy watch

end Simulation

end ContentPlayer
