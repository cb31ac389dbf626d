import ContentPlayer.Player
import ContentPlayer.Simulation.Basic

namespace ContentPlayer.Simulation

/-- The next time at which something can happen: something is due, a deadline passes, or the work is
cancelled. -/
def nextInstant (s : Simulation) (a : Attempt Simulation) (cancelAt : Option Nat) : Option Nat :=
  let times := s.awaited.filterMap Awaited.due ++ a.deadlines ++ cancelAt.toList
  (times.filter (s.now < ·)).min?

/-- Cancels if it is time to. -/
def cancelWhenDue (s : Simulation) (cancelAt : Option Nat) : Simulation :=
  if cancelAt.any fun t => t ≤ s.now then { s with cancel := s.cancel.cancel } else s

/-- Goes on with a bootstrap from instant to instant until it ends; nothing when it never does. Each
instant is that of a request, of its deadline, or that of cancelling. -/
def finish (cancelAt : Option Nat) : Nat → Simulation → Player Simulation →
    Progress Simulation Factory →
    Simulation × Player Simulation × Option (Except BootstrapError (Option Factory))
  | _, s, p, .ended result => (s, p, some result)
  | 0, s, p, .waiting _ => (s, p, none)
  | fuel + 1, s, p, .waiting a =>
    if s.isCancelled then
      let (s, p, progress) := p.resume s a
      finish cancelAt fuel s p progress
    else match s.nextInstant a cancelAt with
      | none => (s, p, none)
      | some t =>
        let s : Simulation := { s with now := t }
        let (s, p, progress) := p.resume (s.cancelWhenDue cancelAt) a
        finish cancelAt fuel s p progress

/-- Four requests, each with a deadline, and cancelling are all that an attempt can wait for. -/
def mostInstants : Nat := 16

/-- Bootstraps a player, and gives how long that took; nothing when it never ends. -/
def bootstrap (s : Simulation) (p : Player Simulation) (info : HostInfo) (flags : LibraryFlags)
    (cancelAfter : Option Nat) :
    Simulation × Player Simulation × Option (Nat × Except BootstrapError (Option Factory)) :=
  let started := s.now
  let cancelAt := cancelAfter.map (started + ·)
  let (s, p, progress) := p.start (s.cancelWhenDue cancelAt) info flags
  let (s, p, result) := finish cancelAt mostInstants s p progress
  (s, p, result.map (s.now - started, ·))

end ContentPlayer.Simulation
