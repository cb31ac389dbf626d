import ContentPlayer.Proofs.Script.Playing
import ContentPlayer.Script.Realm

namespace ContentPlayer.Script

variable {σ ν : Type}

/-- The lines of a message: one more than it has line ends, none with a line end in it, and with
line ends between them the message. Without a message there are none. -/
def IsSplit (message : Option String) (lines : List String) : Prop :=
  match message with
  | some m => lines.length = m.toList.count '\n' + 1 ∧ (∀ line ∈ lines, '\n' ∉ line.toList) ∧
      "\n".intercalate lines = m
  | none => lines = []

theorem isSplit_linesOf (m : String) : IsSplit (some m) (linesOf m) := by
  refine ⟨by simp [linesOf, Text.length_splitAt], fun line hline => ?_, ?_⟩
  · obtain ⟨part, hpart, rfl⟩ := List.mem_map.mp hline
    simpa using Text.not_mem_of_mem_splitAt hpart
  · have hparts : ((Text.splitAt '\n' m.toList).map String.ofList).map String.toList =
        Text.splitAt '\n' m.toList := by simp
    apply String.toList_injective
    rw [linesOf, String.toList_intercalate, hparts]
    exact Text.intercalate_splitAt '\n' m.toList

/-- What can be asked of an engine. -/
inductive Task where
  | eval (source : String)
  | load (id : Nat) (code : Bytes) (origin : String)
  | execute (m : Module)
  | construct (call : ConstructorCall)

def Task.pieces : Task → List Piece
  | eval source => [.module source]
  | load _ _ _ => []
  | execute m => piecesOf m.code
  | construct call => [.constructor call]

namespace Interpreter

variable (i : Interpreter σ) (e : Sandbox σ)

def perform : Task → Sandbox σ
  | .eval source => (i.eval e source).1
  | .load id code origin => (i.executor.load e id code origin).1
  | .execute m => (i.executor.execute e m).1
  | .construct call => (i.executor.construct e call).1

theorem perform_eq (t : Task) : i.perform e t = i.playing e t.pieces := by
  cases t with
  | eval source => exact i.fst_eval e source
  | load id code origin => exact (i.playing_nil e).symm
  | execute m => exact i.fst_execute e m
  | construct call => exact i.fst_construct e call

theorem foldl_perform (ts : List Task) :
    ts.foldl i.perform e = i.playing e (ts.flatMap Task.pieces) := by
  induction ts generalizing e with
  | nil => exact (i.playing_nil e).symm
  | cons t ts ih => rw [List.foldl_cons, List.flatMap_cons, playing_append, ih, perform_eq]

/-- What is printed stays printed. -/
theorem printed_foldl_take (ts : List Task) (k : Nat) :
    ((ts.take k).foldl i.perform e).printed <+: (ts.foldl i.perform e).printed := by
  have hall : ts.foldl i.perform e = (ts.drop k).foldl i.perform ((ts.take k).foldl i.perform e) :=
    by rw [← List.foldl_append, List.take_append_drop]
  rw [hall, foldl_perform i _ (ts.drop k)]
  exact List.prefix_append _ _

end Interpreter

namespace Realm

variable (R : Realm σ ν)

/-- What the engine is taken to do in a scope in which nothing was touched that the joining function
looks up: the global functions are found under their names and do what they are there for, and so
are the functions of an array. `items` are the values in an array. -/
structure Standard (untouched : σ → Prop) (items : σ → ν → Option (List ν)) : Prop where
  initial : untouched R.initial
  depth_pos : 0 < R.depth
  message_text : ∀ u, R.message? (R.text u) = (charsOf? u).map String.ofList
  newArray : ∀ s, untouched s → ∃ s' array, R.newArray s = .ended s' (.ok array) ∧ untouched s' ∧
    items s' array = some []
  /-- Texts are made texts of as they are. -/
  toText : ∀ s, untouched s → ∃ f, R.global "String" s = .ended s (.ok f) ∧
    ∀ u, R.call f R.undefined [R.text u] s = .ended s (.ok (R.text u))
  print : ∀ s, untouched s → ∃ f, R.global "__trace" s = .ended s (.ok f) ∧
    ∀ args, R.call f R.undefined args s = .call (.print args) s .ended
  push : ∀ s array vs, untouched s → items s array = some vs →
    ∃ f, R.member array "push" s = .ended s (.ok f) ∧
      ∀ v, ∃ s' n, R.call f array [v] s = .ended s' (.ok n) ∧ untouched s' ∧
        items s' array = some (vs ++ [v])
  join : ∀ s array us, untouched s → items s array = some (us.map R.text) →
    ∃ f, R.member array "join" s = .ended s (.ok f) ∧
      ∀ u, R.call f array [R.text u] s = .ended s (.ok (R.text (u.intercalate us)))

variable (untouched : σ → Prop)

/-- A value of which the global function for that makes a text, and does nothing else. -/
def Spells (v : ν) (u : Units) : Prop :=
  ∀ s, untouched s → R.textOf v s = .ended s (.ok (R.text u))

/-- What a call has to print. The joining function has the texts of its arguments printed, with
spaces between them, where it finds what it looks up. Halves of surrogate pairs make no message. -/
def Says : Call ν × σ → Option String → Prop
  | (.trace args, s), message => untouched s ∧ ∃ us, List.Forall₂ (R.Spells untouched) args us ∧
      message = (charsOf? ((unitsOf " ").intercalate us)).map String.ofList
  | (.print args, _), message => message = args.head?.bind R.message?

/-- A call sends the lines of what it has to print, whatever that is. -/
def Sends (made : Call ν × σ) (lines : List String) : Prop :=
  ∀ message, R.Says untouched made message → IsSplit message lines

/-- The lines that calls have the engine print. -/
def sent (depth : Nat) (made : Call ν × σ) : List String :=
  (R.answer depth made.1 made.2).messages.flatMap linesOf

/-- The calls of a script. -/
def pieceCalls (s : σ) : Piece → List (Call ν × σ)
  | .module source => (R.evaluate source s).calls (R.answer R.depth)
  | .constructor call =>
    let telling := R.setGlobal "currentTarget" call.target s
    let told := telling.run (R.answer R.depth)
    telling.calls (R.answer R.depth) ++
      match told.result with
      | .ok () => (R.evaluate call.source told.scope).calls (R.answer R.depth)
      | .error _ => []

/-- The calls of scripts run one after the other, in their order. -/
def calls : List Piece → σ → List (Call ν × σ)
  | [], _ => []
  | p :: ps, s => R.pieceCalls s p ++ calls ps (R.interpreter.alone s p).scope

end Realm

end ContentPlayer.Script
