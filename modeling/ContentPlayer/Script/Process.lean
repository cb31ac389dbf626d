namespace ContentPlayer.Script

/-- What something comes to: the scope that it leaves, the messages that it prints until then, and
what it gives back, or why it ends without that. -/
structure Outcome (σ ε α : Type) where
  scope : σ
  messages : List String
  result : Except ε α

/-- A call of a function that is installed for scripts: of the one that joins its arguments, or of
the one that prints. -/
inductive Call (ν : Type) where
  | trace (args : List ν)
  | print (args : List ν)

/-- Work of an engine, as far as the installed functions see it: it has ended, or it calls one of
them and goes on with the scope that the call leaves, and with what it gives back or throws. -/
inductive Process (σ ν ε α : Type) where
  | ended (scope : σ) (result : Except ε α)
  | call (c : Call ν) (scope : σ) (next : σ → Except ν ν → Process σ ν ε α)

namespace Process

variable {σ ν ε δ α β : Type}

/-- Goes on when the work has ended, also if it has failed. -/
def andThen (next : σ → Except ε α → Process σ ν δ β) : Process σ ν ε α → Process σ ν δ β
  | ended s r => next s r
  | call c s resume => call c s fun s r => (resume s r).andThen next

/-- Does the work, with an answer to each call. -/
def run (answer : Call ν → σ → Outcome σ ν ν) : Process σ ν ε α → Outcome σ ε α
  | ended s r => ⟨s, [], r⟩
  | call c s next =>
    let answered := answer c s
    let rest := (next answered.scope answered.result).run answer
    { rest with messages := answered.messages ++ rest.messages }

/-- The calls that are made in the course of the work, each with the scope in which it is made. -/
def calls (answer : Call ν → σ → Outcome σ ν ν) : Process σ ν ε α → List (Call ν × σ)
  | ended _ _ => []
  | call c s next =>
    let answered := answer c s
    (c, s) :: (next answered.scope answered.result).calls answer

/-- Work prints what its calls print. -/
theorem messages_run (answer : Call ν → σ → Outcome σ ν ν) (p : Process σ ν ε α) :
    (p.run answer).messages = (p.calls answer).flatMap fun (c, s) => (answer c s).messages := by
  induction p with
  | ended s r => rfl
  | call c s next ih => simp only [run, calls, ih, List.flatMap_cons]

end Process

/-- Work that begins in some scope, and may throw a value. -/
def Action (σ ν α : Type) : Type := σ → Process σ ν ν α

namespace Action

variable {σ ν α β : Type}

/-- Gives something back, or throws. -/
def ofResult (r : Except ν α) : Action σ ν α := fun s => .ended s r

def throw (v : ν) : Action σ ν α := ofResult (.error v)

def scope : Action σ ν σ := fun s => .ended s (.ok s)

def setScope (s : σ) : Action σ ν Unit := fun _ => .ended s (.ok ())

def call (c : Call ν) : Action σ ν ν := fun s => .call c s .ended

def bind (first : Action σ ν α) (next : α → Action σ ν β) : Action σ ν β := fun s =>
  (first s).andThen fun s result =>
    match result with
    | .ok a => next a s
    | .error v => .ended s (.error v)

instance : Monad (Action σ ν) where
  pure a := ofResult (.ok a)
  bind := bind

variable {s s' : σ} {first : Action σ ν α} {next : α → Action σ ν β}

theorem bind_of_ended {a : α} (h : first s = .ended s' (.ok a)) :
    (first >>= next) s = next a s' := by
  simp only [Bind.bind, bind, h, Process.andThen]

theorem bind_of_call {first : Action σ ν ν} {next : ν → Action σ ν β} {c : Call ν}
    (h : first s = .call c s' .ended) :
    (first >>= next) s = .call c s' fun s r => (ofResult r >>= next) s := by
  simp only [Bind.bind, bind, h, Process.andThen, ofResult]

end Action

end ContentPlayer.Script
