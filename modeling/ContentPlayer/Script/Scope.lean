import ContentPlayer.Script.Program
import ContentPlayer.Script.Value

namespace ContentPlayer.Script

/-- A global name; a fixed one is not hidden by later declarations, a constant is not assigned. -/
structure Global where
  value : Value
  fixed : Bool := false
  constant : Bool := false

/-- What scripts share: the globals, the names bound by statements, without a value before their
statement was reached, and the values in the arrays. -/
structure Scope where
  globals : List (String × Global)
  bindings : List (String × Option Value) := []
  arrays : List (List Value) := []

/-- The first entry of the name gets the value; without one it is added. -/
def putEntry (name : String) (a : α) : List (String × α) → List (String × α)
  | [] => [(name, a)]
  | (k, b) :: rest => if k = name then (k, a) :: rest else (k, b) :: putEntry name a rest

def declaredNames (p : Program) : List String :=
  p.filterMap fun
    | .declare name _ => some name
    | _ => none

def boundNames (p : Program) : List String :=
  p.filterMap fun
    | .bind name _ => some name
    | _ => none

def hasRepeats : List String → Bool
  | [] => false
  | name :: rest => rest.contains name || hasRepeats rest

namespace Scope

def initial : Scope where
  globals := [
    ("undefined", ⟨.undefined, true, true⟩),
    ("NaN", ⟨.number notANumber, true, true⟩),
    ("Infinity", ⟨.number infinity, true, true⟩),
    ("String", ⟨.function .toText, false, false⟩),
    ("Error", ⟨.function .makeError, false, false⟩),
    ("__trace", ⟨.function .print, false, false⟩),
    ("trace", ⟨.function .trace, false, false⟩)]

def value? (s : Scope) (name : String) : Option Value :=
  match s.bindings.lookup name with
  | some v => v
  | none => (s.globals.lookup name).map Global.value

/-- None for names that are unknown, not reached yet, or constant. -/
def assign (s : Scope) (name : String) (v : Value) : Option Scope :=
  match s.bindings.lookup name with
  | some (some _) => some { s with bindings := putEntry name (some v) s.bindings }
  | some none => none
  | none =>
    match s.globals.lookup name with
    | some g =>
      if g.constant then none
      else some { s with globals := putEntry name { g with value := v } s.globals }
    | none => none

def bind (s : Scope) (name : String) (v : Value) : Scope :=
  { s with bindings := putEntry name (some v) s.bindings }

def setGlobal (s : Scope) (name : String) (v : Value) : Scope :=
  { s with globals :=
    match s.globals.lookup name with
    | some g => putEntry name { g with value := v } s.globals
    | none => s.globals ++ [(name, ⟨v, false, false⟩)] }

/-- A name is bound once, and neither a variable nor a fixed global is bound as well. -/
def admits (s : Scope) (p : Program) : Bool :=
  let declared := declaredNames p
  let bound := boundNames p
  !hasRepeats bound &&
    bound.all (fun name =>
      !declared.contains name && (s.bindings.lookup name).isNone &&
        !((s.globals.lookup name).map Global.fixed).getD false) &&
    declared.all fun name => (s.bindings.lookup name).isNone

def declareGlobal (s : Scope) (name : String) : Scope :=
  if (s.globals.lookup name).isSome then s
  else { s with globals := s.globals ++ [(name, ⟨.undefined, true, false⟩)] }

/-- Makes the names of a script known before it runs; none when it must not declare them. -/
def declare (s : Scope) (p : Program) : Option Scope :=
  if s.admits p then
    let s := (declaredNames p).foldl declareGlobal s
    some { s with bindings := s.bindings ++ (boundNames p).map (·, none) }
  else none

end Scope

end ContentPlayer.Script
