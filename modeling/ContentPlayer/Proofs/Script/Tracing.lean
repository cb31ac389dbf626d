import ContentPlayer.Proofs.Script.Calls
import ContentPlayer.Proofs.Script.Units
import ContentPlayer.Script.Engine

namespace ContentPlayer.Script

variable {σ ν : Type}

/-- Texts with spaces between them are joined in their units. -/
theorem intercalate_unitsOf (texts : List String) :
    (unitsOf " ").intercalate (texts.map unitsOf) = unitsOf (" ".intercalate texts) := by
  induction texts with
  | nil => rfl
  | cons t texts ih =>
    cases texts with
    | nil => simp
    | cons u texts =>
      rw [List.map_cons, List.map_cons, List.intercalate_cons_cons, String.intercalate_cons_cons,
        ← List.map_cons, ih, unitsOf_append, unitsOf_append]

namespace Realm

variable {R : Realm σ ν} {untouched : σ → Prop} {items : σ → ν → Option (List ν)}

namespace Standard

variable (hR : R.Standard untouched items)

include hR

theorem spells_text (u : Units) : R.Spells untouched (R.text u) u := by
  intro s hs
  obtain ⟨f, hfound, hcall⟩ := hR.toText s hs
  exact (Action.bind_of_ended hfound).trans (hcall u)

theorem says_texts (texts : List String) {s : σ} (hs : untouched s) :
    R.Says untouched (.trace (texts.map fun t => R.text (unitsOf t)), s)
      (some (" ".intercalate texts)) := by
  refine ⟨hs, texts.map unitsOf, ?_, ?_⟩
  · rw [List.forall₂_map_left_iff, List.forall₂_map_right_iff]
    exact List.forall₂_same.mpr fun t _ => hR.spells_text (unitsOf t)
  · rw [intercalate_unitsOf, charsOf?_unitsOf, Option.map_some, String.ofList_toList]

/-- By induction on the arguments: each has its text put behind those before. -/
theorem pushTexts {args : List ν} {us : List Units}
    (hargs : List.Forall₂ (R.Spells untouched) args us) {s : σ} {array : ν} {before : List Units}
    (hs : untouched s) (hitems : items s array = some (before.map R.text)) :
    ∃ s', R.pushTexts array args s = .ended s' (.ok ()) ∧ untouched s' ∧
      items s' array = some ((before ++ us).map R.text) := by
  induction hargs generalizing s before with
  | nil => exact ⟨s, rfl, hs, by rwa [List.append_nil]⟩
  | @cons v u args us hv hargs ih =>
    obtain ⟨push, hfound, hpush⟩ := hR.push s array _ hs hitems
    obtain ⟨s₁, n, hcall, hs₁, hitems₁⟩ := hpush (R.text u)
    have hitems₁ : items s₁ array = some ((before ++ [u]).map R.text) := by
      rw [hitems₁, List.map_append, List.map_singleton]
    obtain ⟨s', hrest, hs', hitems'⟩ := ih hs₁ hitems₁
    refine ⟨s', ?_, hs', by rw [hitems', List.append_assoc, List.singleton_append]⟩
    rw [Realm.pushTexts, Action.bind_of_ended hfound, Action.bind_of_ended (hv s hs),
      Action.bind_of_ended hcall, hrest]

/-- Where the joining function finds what it looks up, it has the joined text printed, and does
nothing behind that. -/
theorem joinAndPrint {args : List ν} {us : List Units}
    (hargs : List.Forall₂ (R.Spells untouched) args us) {s : σ} (hs : untouched s) :
    ∃ s' next, R.joinAndPrint args s =
        .call (.print [R.text ((unitsOf " ").intercalate us)]) s' next ∧
      ∀ s r, ∃ result, next s r = .ended s result := by
  obtain ⟨s₁, array, hnew, hs₁, hitems₁⟩ := hR.newArray s hs
  have hnone : items s₁ array = some (([] : List Units).map R.text) := hitems₁
  obtain ⟨s₂, hpush, hs₂, hitems₂⟩ := hR.pushTexts hargs hs₁ hnone
  obtain ⟨print, hprint, hprints⟩ := hR.print s₂ hs₂
  obtain ⟨join, hjoin, hjoins⟩ := hR.join s₂ array us hs₂ hitems₂
  refine ⟨s₂, fun s r => (Action.ofResult r >>= fun _ => pure R.undefined) s, ?_, fun s r => ?_⟩
  · rw [Realm.joinAndPrint, Action.bind_of_ended hnew, Action.bind_of_ended hpush,
      Action.bind_of_ended hprint, Action.bind_of_ended hjoin, Action.bind_of_ended (hjoins _),
      Action.bind_of_call (hprints _)]
  · cases r with
    | ok v => exact ⟨_, rfl⟩
    | error v => exact ⟨_, rfl⟩

/-- Calls of either function send the lines of what they have to print. -/
theorem sends_sent (depth : Nat) (made : Call ν × σ) :
    R.Sends untouched made (R.sent (depth + 1) made) := by
  have hprint (args : List ν) (s : σ) (depth : Nat) :
      IsSplit (args.head?.bind R.message?) (R.sent depth (.print args, s)) := by
    have hanswer : R.answer depth (.print args) s = R.print args s := by cases depth <;> rfl
    rw [sent, hanswer, Realm.print]
    cases args.head?.bind R.message? with
    | none => rfl
    | some m => simpa using isSplit_linesOf m
  obtain ⟨c, s⟩ := made
  cases c with
  | print args =>
    rintro message rfl
    exact hprint args s (depth + 1)
  | trace args =>
    rintro message ⟨hs, us, hargs, rfl⟩
    obtain ⟨s', next, hjoin, hended⟩ := hR.joinAndPrint hargs hs
    have hmessages : (R.answer (depth + 1) (.trace args) s).messages =
        (R.answer depth (.print [R.text ((unitsOf " ").intercalate us)]) s').messages := by
      have hanswer : R.answer (depth + 1) (.trace args) s =
          (R.joinAndPrint args s).run (R.answer depth) := rfl
      rw [hanswer, hjoin, Process.run]
      obtain ⟨result, hresult⟩ := hended
        (R.answer depth (.print [R.text ((unitsOf " ").intercalate us)]) s').scope
        (R.answer depth (.print [R.text ((unitsOf " ").intercalate us)]) s').result
      simp only [hresult, Process.run, List.append_nil]
    have hsent := hprint [R.text ((unitsOf " ").intercalate us)] s' depth
    rw [List.head?_cons, Option.bind_some, hR.message_text] at hsent
    rwa [sent, hmessages]

end Standard

theorem flatMap_messages_run {ε α : Type} (p : Process σ ν ε α) (depth : Nat) :
    (p.run (R.answer depth)).messages.flatMap linesOf =
      (p.calls (R.answer depth)).flatMap (R.sent depth) := by
  rw [Process.messages_run, List.flatMap_assoc]
  rfl

/-- A script sends what its calls send, also when it throws. -/
theorem printed_alone (R : Realm σ ν) (s : σ) (p : Piece) :
    (R.interpreter.alone s p).printed = (R.pieceCalls s p).flatMap (R.sent R.depth) := by
  cases p with
  | module source => exact flatMap_messages_run _ _
  | constructor call =>
    have htelling := flatMap_messages_run (R := R) (R.setGlobal "currentTarget" call.target s)
      R.depth
    rw [Interpreter.alone, pieceCalls, List.flatMap_append, ← htelling]
    have hsame : R.interpreter.setGlobal "currentTarget" call.target s =
        (R.setGlobal "currentTarget" call.target s).run (R.answer R.depth) := rfl
    rw [hsame]
    cases ((R.setGlobal "currentTarget" call.target s).run (R.answer R.depth)).result with
    | error f => exact (List.append_nil _).symm
    | ok _ => exact congrArg _ (flatMap_messages_run _ _)

theorem printed_play (R : Realm σ ν) (ps : List Piece) (s : σ) :
    (R.interpreter.play ps s).printed = (R.calls ps s).flatMap (R.sent R.depth) := by
  induction ps generalizing s with
  | nil => rfl
  | cons p ps ih => rw [calls, List.flatMap_append, ← R.printed_alone, ← ih]; rfl

end Realm

/-- The functions that the joining function looks up are the installed ones. -/
def Scope.Untouched (s : Scope) : Prop :=
  s.value? "String" = some (.function .toText) ∧ s.value? "__trace" = some (.function .print)

def Scope.items? (s : Scope) : Value → Option (List Value)
  | .array id => s.arrays[id]?
  | _ => none

theorem readName_of_value? {s : Scope} {name : String} {v : Value} (hv : s.value? name = some v) :
    readName name s = .ended s (.ok v) := by
  have hscope : (Action.scope : Run Scope) s = .ended s (.ok s) := rfl
  rw [readName, Action.bind_of_ended hscope, hv]
  rfl

/-- The small engine keeps to the language. -/
theorem standard_realm : realm.Standard Scope.Untouched Scope.items? where
  initial := ⟨rfl, rfl⟩
  depth_pos := Nat.one_pos
  message_text _ := rfl
  newArray s hs := ⟨_, _, rfl, hs, List.getElem?_concat_length⟩
  toText s hs := ⟨_, readName_of_value? hs.1, fun _ => rfl⟩
  print s hs := ⟨_, readName_of_value? hs.2, fun _ => rfl⟩
  push := by
    rintro s array vs hs hitems
    cases array with
    | array id =>
      have hlt : id < s.arrays.length := (List.getElem?_eq_some_iff.mp hitems).1
      refine ⟨.function .push, rfl, fun v => ⟨{ s with arrays := s.arrays.set id (vs ++ [v]) },
        .number (Float.ofNat (vs ++ [v]).length), ?_, hs, List.getElem?_set_self hlt⟩⟩
      have hitems : s.arrays[id]? = some vs := hitems
      have hpush : realm.call (.function .push) (.array id) [v] s = .ended
          { s with arrays := s.arrays.set id ((s.arrays[id]?).getD [] ++ [v]) }
          (.ok (.number (Float.ofNat ((s.arrays[id]?).getD [] ++ [v]).length))) := rfl
      rw [hpush, hitems, Option.getD_some]
    | _ => cases hitems
  join := by
    rintro s array us hs hitems
    cases array with
    | array id =>
      have hitems : s.arrays[id]? = some (us.map .text) := hitems
      refine ⟨.function .join, rfl, fun u => ?_⟩
      have hjoin : realm.call (.function .join) (.array id) [.text u] s = .ended s
          (.ok (.text (Value.joined u ((s.arrays[id]?).getD [])))) := rfl
      have htexts : (us.map Value.text).map Value.joinedText = us := by
        rw [List.map_map]
        exact List.map_id us
      refine hjoin.trans ?_
      rw [hitems, Option.getD_some, Value.joined, htexts]
      rfl
    | _ => cases hitems

/-- The texts of the arguments that the joining function is called with. -/
def Call.joins? : Call Value → Option (List Units)
  | .trace args => some (args.map Value.toText)
  | .print _ => none

end ContentPlayer.Script
