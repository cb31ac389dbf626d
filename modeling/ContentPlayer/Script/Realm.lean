import ContentPlayer.Script.Interpreter
import ContentPlayer.Script.Units

namespace ContentPlayer.Script

/-- An engine seen from the installed functions. `ν` are the values of its language. What looks
something up or calls something is an action, since other scripts may have a say in it. -/
structure Realm (σ ν : Type) where
  initial : σ
  undefined : ν
  text : Units → ν
  /-- The message that a value is for the function that prints, and what it throws for others. -/
  message? : ν → Option String
  refusal : ν
  /-- How deep calls of the joining function can be inside each other, and what is thrown by one
  that is too deep. -/
  depth : Nat
  overflow : ν
  newArray : Action σ ν ν
  global : String → Action σ ν ν
  member : ν → String → Action σ ν ν
  /-- Calls a function, on some object, with arguments. -/
  call : (callee object : ν) → List ν → Action σ ν ν
  evaluate : String → σ → Process σ ν Failure Unit
  setGlobal : String → String → σ → Process σ ν Failure Unit

namespace Realm

variable {σ ν : Type} (R : Realm σ ν)

/-- What the global function for that makes a text of a value. -/
def textOf (v : ν) : Action σ ν ν := do
  let toText ← R.global "String"
  R.call toText R.undefined [v]

/-- Puts the texts of values behind those in an array. -/
def pushTexts (array : ν) : List ν → Action σ ν Unit
  | [] => return ()
  | v :: vs => do
    let push ← R.member array "push"
    let text ← R.textOf v
    let _ ← R.call push array [text]
    pushTexts array vs

/-- The function that joins its arguments by spaces, and has the message printed. It looks up what
it needs whenever it is called. -/
def joinAndPrint (args : List ν) : Action σ ν ν := do
  let parts ← R.newArray
  R.pushTexts parts args
  let print ← R.global "__trace"
  let join ← R.member parts "join"
  let message ← R.call join parts [R.text (unitsOf " ")]
  let _ ← R.call print R.undefined [message]
  return R.undefined

/-- The function that prints looks at its first argument only. -/
def print (args : List ν) (s : σ) : Outcome σ ν ν :=
  match args.head?.bind R.message? with
  | some message => ⟨s, [message], .ok R.undefined⟩
  | none => ⟨s, [], .error R.refusal⟩

/-- What calls of the installed functions come to, with so many of them inside each other. -/
def answer : Nat → Call ν → σ → Outcome σ ν ν
  | _, .print args, s => R.print args s
  | 0, .trace _, s => ⟨s, [], .error R.overflow⟩
  | depth + 1, .trace args, s => (R.joinAndPrint args s).run (answer depth)

def interpreter : Interpreter σ where
  initial := R.initial
  evaluate source s := (R.evaluate source s).run (R.answer R.depth)
  setGlobal name text s := (R.setGlobal name text s).run (R.answer R.depth)

end Realm

end ContentPlayer.Script
