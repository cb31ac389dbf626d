import ContentPlayer.Script.Realm
import ContentPlayer.Script.Scope
import ContentPlayer.Text.Utf8

namespace ContentPlayer.Script

/-! An engine for a small part of the language: variables, texts and numbers, sums and calls. It
makes the player run. What holds of scripts is not stated for it, but for every engine, or for every
one that keeps to the language. -/

/-- A computation of a script. What it did before it throws is kept. -/
abbrev Run := Action Scope Value

/-- An error that is thrown, of whatever kind. -/
def fail {α : Type} : Run α := Action.throw (.error [])

def readName (name : String) : Run Value := do
  match (← Action.scope).value? name with
  | some v => return v
  | none => fail

def assignName (name : String) (v : Value) : Run Unit := do
  match (← Action.scope).assign name v with
  | some s => Action.setScope s
  | none => fail

def bindName (name : String) (v : Value) : Run Unit := do
  Action.setScope ((← Action.scope).bind name v)

/-- The message that a text is; with halves of surrogate pairs it is none. -/
def messageOf? : Value → Option String
  | .text s => (charsOf? s).map String.ofList
  | _ => none

def errorValue : List Value → Value
  | [] => .error []
  | .undefined :: _ => .error []
  | v :: _ => .error v.toText

def firstText (args : List Value) : Units := (args.head?.map Value.toText).getD []

def newArray : Run Value := do
  let s ← Action.scope
  Action.setScope { s with arrays := s.arrays ++ [[]] }
  return .array s.arrays.length

/-- No script can change what is looked up on arrays. -/
def readMember (object : Value) (name : String) : Run Value :=
  match object, name with
  | .array _, "push" => return .function .push
  | .array _, "join" => return .function .join
  | _, _ => return .undefined

def pushAll (object : Value) (args : List Value) : Run Value := do
  let s ← Action.scope
  match object with
  | .array id =>
    let items := (s.arrays[id]?).getD [] ++ args
    Action.setScope { s with arrays := s.arrays.set id items }
    return .number (Float.ofNat items.length)
  | _ => fail

def joinAll (object : Value) (args : List Value) : Run Value := do
  let s ← Action.scope
  match object with
  | .array id => return .text (Value.joined (firstText args) ((s.arrays[id]?).getD []))
  | _ => fail

def callValue (callee object : Value) (args : List Value) : Run Value :=
  match callee with
  | .function .trace => Action.call (.trace args)
  | .function .print => Action.call (.print args)
  | .function .toText => return .text (firstText args)
  | .function .makeError => return errorValue args
  | .function .push => pushAll object args
  | .function .join => joinAll object args
  | _ => fail

/-- Functions of the engine's own make objects of their kind, and the joining function is run. -/
def createValue (callee : Value) (args : List Value) : Run Value :=
  match callee with
  | .function .toText => return .boxed (firstText args)
  | .function .makeError => return errorValue args
  | .function .trace => do
    let _ ← Action.call (.trace args)
    return .emptyObject
  | _ => fail

mutual
def evalExpr : Expr → Run Value
  | .number x => return .number x
  | .text s => return .text s
  | .bool b => return .bool b
  | .null => return .null
  | .name s => readName s
  | .negate e => do return .number (-(← evalExpr e).toNumber)
  | .add a b => do
    let x ← evalExpr a
    return x.plus (← evalExpr b)
  | .assign name e => do
    let v ← evalExpr e
    assignName name v
    return v
  | .call callee args => do
    let f ← evalExpr callee
    let vs ← evalAll args
    callValue f .undefined vs
  | .create callee args => do
    let f ← evalExpr callee
    let vs ← evalAll args
    createValue f vs

def evalAll : List Expr → Run (List Value)
  | [] => return []
  | e :: es => do
    let v ← evalExpr e
    return v :: (← evalAll es)
end

def runStatement : Statement → Run Unit
  | .declare _ none => return ()
  | .declare name (some e) => do assignName name (← evalExpr e)
  | .bind name none => bindName name .undefined
  | .bind name (some e) => do bindName name (← evalExpr e)
  | .throw e => do Action.throw (← evalExpr e)
  | .eval e => do
    let _ ← evalExpr e

def runStatements : Program → Run Unit
  | [] => return ()
  | s :: rest => do
    runStatement s
    runStatements rest

/-- Runs a whole script; one that is no program or must not declare its names does nothing. -/
def runText (source : String) : Run Unit := do
  match Program.ofText source with
  | none => fail
  | some p =>
    match (← Action.scope).declare p with
    | none => fail
    | some s =>
      Action.setScope s
      runStatements p

/-- Its text holds the character zero behind so many bytes. -/
def Failure.zeroCharacter (position : Nat) : Failure :=
  ⟨"String contained internal null bytes: nul byte found in provided data at position: " ++
    toString position⟩

/-- It is no program, or threw. -/
def Failure.exception : Failure := ⟨"Exception generated by QuickJS"⟩

def evaluate (source : String) (s : Scope) : Process Scope Value Failure Unit :=
  if source.toList.contains '\x00' then
    let before := source.toList.takeWhile (· != '\x00')
    .ended s (.error (.zeroCharacter (Text.encode (String.ofList before)).length))
  else
    (runText source s).andThen fun s result => .ended s (result.mapError fun _ => .exception)

/-- Calls inside each other never end in this part of the language, so that one is enough. -/
def realm : Realm Scope Value where
  initial := .initial
  undefined := .undefined
  text := .text
  message? := messageOf?
  refusal := .error []
  depth := 1
  overflow := .error []
  newArray := newArray
  global := readName
  member := readMember
  call := callValue
  evaluate := evaluate
  setGlobal name text s := .ended (s.setGlobal name (.text (unitsOf text))) (.ok ())

abbrev Engine := Sandbox Scope

instance : EmptyCollection Engine := ⟨realm.interpreter.sandbox⟩

def Engine.eval (e : Engine) (source : String) : Engine × Except Failure Unit :=
  realm.interpreter.eval e source

end ContentPlayer.Script
