import ContentPlayer.Player

namespace ContentPlayer

/-- What can happen while a player lives: what its host asks of it, what its content's factory is
asked for, and what goes on outside. -/
inductive Step (ω : Type) where
  | start (info : HostInfo) (flags : LibraryFlags)
  | resume
  /-- The bootstrap that waits is given up by its caller. -/
  | abandon
  | dispatch (asset : Asset) (candidate : Bool)
  | enterFrame
  | resize
  | createInstance (name : String)
  | createSprite (name : String)
  | viewport (v : Viewport)
  | elapse (f : ω → ω)

/-- A player, the outside, and the bootstrap that waits. -/
structure Life (ω : Type) where
  outside : ω
  player : Player ω
  attempt : Option (Attempt ω) := none

/-- What a dispatch gives back. -/
abbrev Reply := Option (Except DispatchError DispatchOutcome)

/-- One step, with the life before and after it, and the reply to a dispatch. -/
structure Turn (ω : Type) where
  before : Life ω
  step : Step ω
  after : Life ω
  reply : Reply

variable {ω : Type}

def Progress.attempt? {α : Type} : Progress ω α → Option (Attempt ω)
  | .waiting a => some a
  | .ended _ => none

theorem Progress.attempt?_eq_some {α : Type} {p : Progress ω α} {a : Attempt ω} :
    p.attempt? = some a ↔ p = .waiting a := by
  cases p <;> simp [attempt?]

namespace Life

def setWorld (l : Life ω) (world : World ω) : Life ω :=
  { l with player := { l.player with world } }

def ofParts (w : ω) (host : Host ω) (config : BootstrapConfig) (executor : Executor ω) : Life ω :=
  { outside := w, player := .ofParts host config executor }

/-- Takes a step. Only what is there can be resumed, and only a factory makes objects. -/
def act (l : Life ω) : Step ω → Life ω × Reply
  | .start info flags =>
    let (w, player, progress) := l.player.start l.outside info flags
    (⟨w, player, progress.attempt?.or l.attempt⟩, none)
  | .resume =>
    match l.attempt with
    | none => (l, none)
    | some a =>
      let (w, player, progress) := l.player.resume l.outside a
      (⟨w, player, progress.attempt?⟩, none)
  | .abandon => ({ l with attempt := none }, none)
  | .dispatch asset candidate =>
    let (w, player, reply) := l.player.dispatch l.outside asset candidate
    ({ l with outside := w, player }, some reply)
  | .enterFrame => ({ l with player := l.player.enterFrame.1 }, none)
  | .resize => ({ l with player := l.player.resize.1 }, none)
  | .createInstance name =>
    match l.player.factory with
    | none => (l, none)
    | some f =>
      let (w, world, _) := f.createInstance l.outside l.player.world name
      ({ l.setWorld world with outside := w }, none)
  | .createSprite name =>
    match l.player.factory with
    | none => (l, none)
    | some f => (l.setWorld (f.createSprite l.player.world name).1, none)
  | .viewport v =>
    match l.player.world.sessionStage? with
    | none => (l, none)
    | some (id, s) => (l.setWorld (l.player.world.setStage id (s.setViewport v)), none)
  | .elapse f => ({ l with outside := f l.outside }, none)

def turn (l : Life ω) (s : Step ω) : Turn ω := ⟨l, s, (l.act s).1, (l.act s).2⟩

theorem turn_before (l : Life ω) (s : Step ω) : (l.turn s).before = l := rfl

/-- The turns of a life that takes some steps. -/
def turns (l : Life ω) : List (Step ω) → List (Turn ω)
  | [] => []
  | s :: rest => l.turn s :: (l.turn s).after.turns rest

def run (l : Life ω) : List (Step ω) → Life ω
  | [] => l
  | s :: rest => (l.turn s).after.run rest

theorem turns_append (l : Life ω) (front rest : List (Step ω)) :
    l.turns (front ++ rest) = l.turns front ++ (l.run front).turns rest := by
  induction front generalizing l with
  | nil => rfl
  | cons s front ih =>
    have hrest := ih (l.turn s).after
    simp [turns, run, hrest]

/-- The turns before and after one are those of the steps before and after its own. -/
theorem turns_eq_append_cons {l : Life ω} {steps : List (Step ω)} {front rest : List (Turn ω)}
    {t : Turn ω} (h : l.turns steps = front ++ t :: rest) :
    ∃ before s after, steps = before ++ s :: after ∧ l.turns before = front ∧
      (l.run before).turn s = t ∧ t.after.turns after = rest := by
  induction front generalizing l steps with
  | nil =>
    cases steps with
    | nil => cases h
    | cons s after =>
      obtain ⟨rfl, hrest⟩ := List.cons.inj h
      exact ⟨[], s, after, rfl, rfl, rfl, hrest⟩
  | cons u front ih =>
    cases steps with
    | nil => cases h
    | cons s steps =>
      obtain ⟨rfl, htail⟩ := List.cons.inj h
      obtain ⟨before, s', after, rfl, hfront, hturn, hrest⟩ := ih htail
      exact ⟨s :: before, s', after, rfl, congrArg _ hfront, hturn, hrest⟩

theorem run_append (l : Life ω) (front rest : List (Step ω)) :
    l.run (front ++ rest) = (l.run front).run rest := by
  induction front generalizing l with
  | nil => rfl
  | cons s front ih => exact ih (l.turn s).after

end Life

end ContentPlayer
