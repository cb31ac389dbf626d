namespace ContentPlayer

structure Timeline where
  current : UInt32
  total : UInt32
  playing : Bool
  /-- The next frame is a starting frame, in which the playhead stays. -/
  first : Bool
  deriving DecidableEq, Repr

inductive FramePhase where
  | start
  | advanced (frame : UInt32)
  deriving DecidableEq, Repr

namespace Timeline

/-- At the beginning and playing; there is at least one frame. -/
def ofTotal (total : UInt32) : Timeline := ⟨0, max total 1, true, false⟩

def reset (t : Timeline) : Timeline := { t with current := 0, playing := true, first := false }

/-- The frame after the current one, the first after the last. -/
def next (t : Timeline) : UInt32 :=
  if t.playing && t.total > 1 then (t.current + 1) % t.total else t.current

def advance (t : Timeline) : Timeline × FramePhase :=
  if t.first then ({ t with first := false }, .start)
  else ({ t with current := t.next }, .advanced t.next)

end Timeline

end ContentPlayer
