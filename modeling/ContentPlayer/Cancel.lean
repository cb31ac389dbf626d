namespace ContentPlayer

inductive CancelToken where
  /-- It sees what the handle does. -/
  | linked
  /-- It is never cancelled. -/
  | never
  | dropped
  deriving DecidableEq, Repr

/-- A handle with which work is cancelled, and the tokens that were made, with their numbers. -/
structure CancelGroup where
  handle : Bool := true
  /-- The handle has been used while there was a token. -/
  raised : Bool := false
  tokens : List CancelToken := [.linked]
  deriving DecidableEq, Repr

namespace CancelGroup

def isCancelled (g : CancelGroup) (token : Nat) : Bool :=
  match g.tokens[token]? with
  | some .linked => g.raised
  | _ => false

/-- Cancels; nothing is kept when there is no token to see it. -/
def cancel (g : CancelGroup) : CancelGroup :=
  if g.handle && g.tokens.contains .linked then { g with raised := true } else g

def addToken (g : CancelGroup) (t : CancelToken) : CancelGroup × Nat :=
  ({ g with tokens := g.tokens ++ [t] }, g.tokens.length)

/-- A further token of the handle, while that is there. -/
def newToken (g : CancelGroup) : Option (CancelGroup × Nat) :=
  if g.handle then some (g.addToken .linked) else none

/-- A token that sees what another one does. -/
def clone (g : CancelGroup) (token : Nat) : Option (CancelGroup × Nat) :=
  match g.tokens[token]? with
  | none => none
  | some .dropped => none
  | some t => some (g.addToken t)

def dropHandle (g : CancelGroup) : CancelGroup := { g with handle := false }

def dropToken (g : CancelGroup) (token : Nat) : CancelGroup :=
  { g with tokens := g.tokens.set token .dropped }

end CancelGroup

end ContentPlayer
