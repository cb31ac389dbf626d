import ContentPlayer.Bootstrap.Bootstrapper

namespace ContentPlayer

/-- What others do to the outside and to the world while a call waits. -/
abbrev Interlude (ω : Type) := ω × World ω → ω × World ω

/-- A part of a call in which nobody else acts: the world as the call found it, and how the call
left everything. -/
structure Stretch (ω : Type) where
  found : World ω
  outside : ω
  world : World ω
  progress : Progress ω Factory

variable {ω : Type}

/-- What a call has given back; nothing while it waits. -/
def Progress.result? {α : Type} : Progress ω α → Option (Except BootstrapError (Option α))
  | .waiting _ => none
  | .ended r => some r

namespace Bootstrapper

/-- A call from its beginning to the first moment in which others can act. -/
def firstStretch (b : Bootstrapper ω) (w : ω) (world : World ω) (info : HostInfo)
    (flags : LibraryFlags) : Stretch ω :=
  let (w, after, _, progress) := b.start w world info flags
  ⟨world, w, after, progress⟩

/-- The stretch that follows an interlude. A call that has ended stays as it is. -/
def nextStretch (b : Bootstrapper ω) (s : Stretch ω) (others : Interlude ω) : Stretch ω :=
  match s.progress with
  | .ended _ => s
  | .waiting a =>
    let (w, world) := others (s.outside, s.world)
    let (w, after, progress) := b.resume w world a
    ⟨world, w, after, progress⟩

/-- The latest stretch of a call that has been interrupted by some interludes. -/
def call (b : Bootstrapper ω) (w : ω) (world : World ω) (info : HostInfo) (flags : LibraryFlags)
    (interludes : List (Interlude ω)) : Stretch ω :=
  interludes.foldl b.nextStretch (b.firstStretch w world info flags)

end Bootstrapper

/-- A host that is a clock. Each request is answered after so many ticks; a ticket tells the tick of
the answer, twice, and the kind of the resource. -/
def Host.ticking (latency : Nat) (cancelAt : Option Nat) : Host Nat where
  fetcher :=
    { request := fun now r => (now, 2 * (now + latency) + if r.kind = .binary then 0 else 1)
      poll := fun now ticket =>
        (now,
          if now < ticket / 2 then none
          else some (.ok (if ticket % 2 = 0 then .binary [1] else .structured (.array [])))) }
  cancelled now := cancelAt.any fun t => t ≤ now
  now := id

/-- An executor that does nothing and is content with everything. -/
def Executor.willing : Executor ω where
  load w id code origin := (w, .ok ⟨id, origin, code⟩)
  execute w _ := (w, .ok ())
  construct w _ := (w, .ok ())

end ContentPlayer
