import ContentPlayer.Script.Token

namespace ContentPlayer.Script

inductive Expr where
  | number (x : Float)
  | text (s : Units)
  | bool (b : Bool)
  | null
  | name (s : String)
  | negate (e : Expr)
  | add (a b : Expr)
  | assign (name : String) (e : Expr)
  | call (callee : Expr) (args : List Expr)
  | create (callee : Expr) (args : List Expr)
  deriving Inhabited

inductive Statement where
  /-- A variable, known from the beginning of the script. -/
  | declare (name : String) (value : Option Expr)
  /-- A variable that cannot be used before its statement. -/
  | bind (name : String) (value : Option Expr)
  | throw (e : Expr)
  | eval (e : Expr)

abbrev Program := List Statement

/-- Words that are no names. -/
def reserved : List String :=
  ["break", "case", "catch", "class", "const", "continue", "debugger", "default", "delete", "do",
    "else", "enum", "export", "extends", "false", "finally", "for", "function", "if", "implements",
    "import", "in", "instanceof", "interface", "let", "new", "null", "package", "private",
    "protected", "public", "return", "static", "super", "switch", "this", "throw", "true", "try",
    "typeof", "var", "void", "while", "with", "yield"]

/-- Names that may be declared and assigned. -/
def isVariable (s : String) : Bool := !reserved.contains s && s != "eval" && s != "arguments"

def startsWith (c : Char) : List Placed → Bool
  | ⟨.mark d, _⟩ :: _ => d == c
  | _ => false

mutual
def takeExpr : Nat → List Placed → Option (Expr × List Placed)
  | 0, _ => none
  | fuel + 1, ts =>
    match ts with
    | ⟨.name s, _⟩ :: ⟨.mark '=', _⟩ :: rest => do
      if !isVariable s then none
      let (e, rest) ← takeExpr fuel rest
      return (.assign s e, rest)
    | _ => do
      let (e, rest) ← takeUnary fuel ts
      takeSum fuel e rest

def takeSum : Nat → Expr → List Placed → Option (Expr × List Placed)
  | 0, _, _ => none
  | fuel + 1, sum, ts =>
    match ts with
    | ⟨.mark '+', _⟩ :: rest => do
      let (e, rest) ← takeUnary fuel rest
      takeSum fuel (.add sum e) rest
    | _ => some (sum, ts)

def takeUnary : Nat → List Placed → Option (Expr × List Placed)
  | 0, _ => none
  | fuel + 1, ts =>
    match ts with
    | ⟨.mark '-', _⟩ :: rest => do
      let (e, rest) ← takeUnary fuel rest
      return (.negate e, rest)
    | ⟨.name "new", _⟩ :: ⟨.name s, _⟩ :: rest =>
      if reserved.contains s then none
      else if startsWith '(' rest then do
        let (args, rest) ← takeArguments fuel rest.tail
        takeCalls fuel (.create (.name s) args) rest
      else takeCalls fuel (.create (.name s) []) rest
    | _ => do
      let (e, rest) ← takePrimary fuel ts
      takeCalls fuel e rest

def takeCalls : Nat → Expr → List Placed → Option (Expr × List Placed)
  | 0, _, _ => none
  | fuel + 1, callee, ts =>
    if startsWith '(' ts then do
      let (args, rest) ← takeArguments fuel ts.tail
      takeCalls fuel (.call callee args) rest
    else some (callee, ts)

/-- Arguments behind the opening parenthesis; a comma may stand before the closing one. -/
def takeArguments : Nat → List Placed → Option (List Expr × List Placed)
  | 0, _ => none
  | fuel + 1, ts =>
    if startsWith ')' ts then some ([], ts.tail)
    else do
      let (e, rest) ← takeExpr fuel ts
      if startsWith ',' rest then do
        let (args, rest) ← takeArguments fuel rest.tail
        return (e :: args, rest)
      else if startsWith ')' rest then some ([e], rest.tail)
      else none

def takePrimary : Nat → List Placed → Option (Expr × List Placed)
  | 0, _ => none
  | fuel + 1, ts =>
    match ts with
    | ⟨.number x, _⟩ :: rest => some (.number x, rest)
    | ⟨.text s, _⟩ :: rest => some (.text s, rest)
    | ⟨.mark '(', _⟩ :: rest => do
      let (e, rest) ← takeExpr fuel rest
      if startsWith ')' rest then some (e, rest.tail) else none
    | ⟨.name s, _⟩ :: rest =>
      if s = "true" then some (.bool true, rest)
      else if s = "false" then some (.bool false, rest)
      else if s = "null" then some (.null, rest)
      else if reserved.contains s then none
      else some (.name s, rest)
    | _ => none
end

def takeDeclaration (fuel : Nat) (make : String → Option Expr → Statement) :
    List Placed → Option (Statement × List Placed)
  | ⟨.name s, _⟩ :: rest =>
    if !isVariable s then none
    else if startsWith '=' rest then do
      let (e, rest) ← takeExpr fuel rest.tail
      return (make s (some e), rest)
    else some (make s none, rest)
  | _ => none

def takeStatement (fuel : Nat) (ts : List Placed) : Option (Statement × List Placed) :=
  match ts with
  | ⟨.name "var", _⟩ :: rest => takeDeclaration fuel .declare rest
  | ⟨.name "let", _⟩ :: rest => takeDeclaration fuel .bind rest
  | ⟨.name "throw", _⟩ :: rest => do
    if (rest.head?.map Placed.onNewLine).getD true then none
    let (e, rest) ← takeExpr fuel rest
    return (.throw e, rest)
  | _ => (takeExpr fuel ts).map fun (e, rest) => (.eval e, rest)

/-- Statements with semicolons between them; a line end does where the statement cannot go on. -/
def takeStatements : Nat → List Placed → Option Program
  | _, [] => some []
  | 0, _ :: _ => none
  | fuel + 1, t :: rest =>
    if startsWith ';' [t] then takeStatements fuel rest
    else do
      let (s, rest) ← takeStatement (8 * rest.length + 16) (t :: rest)
      match rest with
      | [] => return [s]
      | next :: _ =>
        if startsWith ';' rest then return s :: (← takeStatements fuel rest.tail)
        else if next.onNewLine then return s :: (← takeStatements fuel rest)
        else none

/-- The program that a source text spells, none when it is no program. -/
def Program.ofText (source : String) : Option Program := do
  let ts ← tokens source
  takeStatements ts.length ts

end ContentPlayer.Script
