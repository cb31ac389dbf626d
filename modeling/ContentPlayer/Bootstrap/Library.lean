namespace ContentPlayer

/-- Which system libraries are to be loaded, one bit each. -/
structure LibraryFlags where
  bits : UInt8
  deriving DecidableEq, Repr

namespace LibraryFlags

def none : LibraryFlags := ⟨0⟩

/-- The library that every domain needs. -/
def builtin : LibraryFlags := ⟨1⟩

/-- The library of the platform. -/
def playerglobal : LibraryFlags := ⟨2⟩

def union (a b : LibraryFlags) : LibraryFlags := ⟨a.bits ||| b.bits⟩

instance : OrOp LibraryFlags := ⟨union⟩

/-- All libraries of the second are in the first. -/
def contains (a b : LibraryFlags) : Bool := a.bits &&& b.bits = b.bits

def ofName? : String → Option LibraryFlags
  | "BUILTIN" => some builtin
  | "PLAYERGLOBAL" => some playerglobal
  | _ => Option.none

/-- The libraries of some names; other names stand for none. -/
def ofNames (names : List String) : LibraryFlags :=
  names.foldl (fun flags name => flags ||| (ofName? name).getD none) none

end LibraryFlags

end ContentPlayer
