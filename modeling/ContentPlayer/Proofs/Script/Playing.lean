import ContentPlayer.Proofs.Bootstrap.Watch
import ContentPlayer.Proofs.Domain.Loading
import ContentPlayer.Script.Interpreter

namespace ContentPlayer

namespace Script

/-- A script that is run: the source of a module, or a constructor with its object's name. -/
inductive Piece where
  | module (source : String)
  | constructor (call : ConstructorCall)
  deriving DecidableEq, Repr

/-- The scripts that there are in the code of a module. -/
def piecesOf (code : Bytes) : List Piece :=
  match Text.decode code with
  | .ok source => [.module source]
  | .error _ => []

variable {σ : Type}

namespace Sandbox

/-- The sandbox with some lines before all that it has printed. -/
def behind (before : List String) (e : Sandbox σ) : Sandbox σ :=
  { e with printed := before ++ e.printed }

theorem behind_append (before more : List String) (e : Sandbox σ) :
    e.behind (before ++ more) = (e.behind more).behind before := by
  simp [behind]

theorem behind_nil (e : Sandbox σ) : e.behind [] = e := rfl

/-- What something comes to, where nothing was printed before. -/
def of {α : Type} (o : Outcome σ Failure α) : Sandbox σ := ⟨o.scope, o.messages.flatMap linesOf⟩

end Sandbox

namespace Interpreter

variable (i : Interpreter σ)

/-- What a script makes of a scope, and what it prints, whether it throws or not. The scope of a
constructor is first told its object's name. -/
def alone (s : σ) : Piece → Sandbox σ
  | .module source => .of (i.evaluate source s)
  | .constructor call =>
    let told := i.setGlobal "currentTarget" call.target s
    match told.result with
    | .ok () => (Sandbox.of (i.evaluate call.source told.scope)).behind (Sandbox.of told).printed
    | .error _ => .of told

/-- What scripts make of a scope one after the other, and what they print. Each starts from what the
one before it has left. -/
def play : List Piece → σ → Sandbox σ
  | [], s => ⟨s, []⟩
  | p :: ps, s => (play ps (i.alone s p).scope).behind (i.alone s p).printed

/-- A sandbox after some more scripts. -/
def playing (e : Sandbox σ) (ps : List Piece) : Sandbox σ := (i.play ps e.scope).behind e.printed

variable (e : Sandbox σ)

theorem playing_nil : i.playing e [] = e := by
  simp [playing, play, Sandbox.behind]

theorem playing_append (ps qs : List Piece) :
    i.playing e (ps ++ qs) = i.playing (i.playing e ps) qs := by
  have hplay (s : σ) : i.play (ps ++ qs) s =
      (i.play qs (i.play ps s).scope).behind (i.play ps s).printed := by
    induction ps generalizing s with
    | nil => rfl
    | cons p ps ih =>
      rw [List.cons_append, play, ih, ← Sandbox.behind_append]
      rfl
  rw [playing, hplay, ← Sandbox.behind_append]
  rfl

theorem playing_singleton (p : Piece) :
    i.playing e [p] = (i.alone e.scope p).behind e.printed := by
  simp [playing, play, Sandbox.behind]

theorem playing_sandbox (ps : List Piece) : i.playing i.sandbox ps = i.play ps i.initial :=
  Sandbox.behind_nil _

theorem fst_eval (source : String) : (i.eval e source).1 = i.playing e [.module source] :=
  (i.playing_singleton e (.module source)).symm

theorem fst_construct (call : ConstructorCall) :
    (i.construct e call).1 = i.playing e [.constructor call] := by
  rw [playing_singleton, alone, construct, Sandbox.take]
  cases (i.setGlobal "currentTarget" call.target e.scope).result with
  | error f => rfl
  | ok u =>
    cases u
    dsimp only
    rw [← Sandbox.behind_append]
    rfl

theorem foldl_construct (calls : List ConstructorCall) :
    calls.foldl (fun e call => (i.construct e call).1) e =
      i.playing e (calls.map .constructor) := by
  induction calls generalizing e with
  | nil => exact (i.playing_nil e).symm
  | cons call calls ih =>
    rw [List.foldl_cons, ih, fst_construct, ← playing_append]
    rfl

theorem fst_execute (m : Module) : (i.executor.execute e m).1 = i.playing e (piecesOf m.code) := by
  cases hdecode : Text.decode m.code with
  | error fault => simp [executor, sourceText, piecesOf, hdecode, Except.mapError, i.playing_nil]
  | ok source => simp [executor, sourceText, piecesOf, hdecode, Except.mapError, i.fst_eval]

end Interpreter

end Script

open Script (Interpreter Piece Sandbox piecesOf)

variable {ω σ : Type} {i : Interpreter σ} {core : ω → Sandbox σ}

/-- An executor that has an engine do everything. -/
structure Executor.Engages (x : Executor ω) (i : Interpreter σ) (core : ω → Sandbox σ) : Prop
    extends x.Over core i.executor where
  construct : ∀ w call, core (x.construct w call).1 = (i.construct (core w) call).1

namespace Executor.Engages

variable {x : Executor ω} (hx : x.Engages i core)

include hx

theorem core_load (w : ω) (id : Nat) (code : Bytes) (origin : String) :
    core (x.load w id code origin).1 = core w :=
  (congrArg Prod.fst (hx.load w id code origin)).symm

theorem core_execute (w : ω) (m : Module) :
    core (x.execute w m).1 = i.playing (core w) (piecesOf m.code) := by
  rw [← i.fst_execute, hx.execute]

/-- What is loaded is executed as it is, and what is not loaded is no text. -/
theorem load_cases (w : ω) (id : Nat) (code : Bytes) (origin : String) :
    (∃ m, (x.load w id code origin).2 = .ok m ∧ m.code = code) ∨
      (∃ e, (x.load w id code origin).2 = .error e) ∧ piecesOf code = [] := by
  have hload : (x.load w id code origin).2 =
      (Script.sourceText origin code).map fun _ => ⟨id, origin, code⟩ :=
    (congrArg Prod.snd (hx.load w id code origin)).symm
  rw [hload, Script.sourceText, piecesOf]
  cases Text.decode code with
  | error fault => exact .inr ⟨⟨_, rfl⟩, rfl⟩
  | ok source => exact .inl ⟨_, rfl, rfl⟩

end Executor.Engages

namespace Domain

variable {d : Domain ω}

/-- The code of the catalog entry that resolving a definition loads. -/
def entryCode? (d : Domain ω) (name : String) : Option Bytes :=
  if d.registries.definitions.contains name then none
  else (d.catalogEntry? name).bind fun (i, _, code) =>
    if d.resolved.contains i then none else some code

/-- The scripts that resolving a definition runs. -/
def pieces (d : Domain ω) (name : String) : List Piece := ((d.entryCode? name).map piecesOf).getD []

theorem core_loadModule (hx : d.executor.Engages i core) (w : ω) (code : Bytes) (origin : String) :
    core (d.loadModule w code origin).1 = core w := by
  have hload := hx.core_load w d.modules.length code origin
  unfold loadModule
  split
  next heq =>
    rw [heq] at hload
    exact hload
  next heq =>
    rw [heq] at hload
    exact hload

/-- A domain of an engine, in which no module waits. -/
structure Engages (d : Domain ω) (i : Interpreter σ) (core : ω → Sandbox σ) : Prop where
  executor : d.executor.Engages i core
  executed_eq : d.executed = d.modules.length

/-- What is loaded runs at once, if it is text. -/
theorem Engages.loadAndExecute (hd : d.Engages i core) (w : ω) (code : Bytes) (origin : String) :
    (d.loadAndExecute w code origin).2.1.Engages i core ∧
      core (d.loadAndExecute w code origin).1 = i.playing (core w) (piecesOf code) := by
  rw [loadAndExecute_of_executed w d code origin hd.executed_eq]
  have hcore := hd.executor.core_load w d.modules.length code origin
  have hcases := hd.executor.load_cases w d.modules.length code origin
  cases hload : d.executor.load w d.modules.length code origin with
  | mk w₁ result =>
    rw [hload] at hcore hcases
    cases result with
    | error e =>
      rcases hcases with ⟨m, hm, -⟩ | ⟨-, hnone⟩
      · cases hm
      · rw [hnone, i.playing_nil]
        exact ⟨hd, hcore⟩
    | ok m =>
      rcases hcases with ⟨m', hm, hcode⟩ | ⟨⟨e, he⟩, -⟩
      · obtain rfl : m = m' := Except.ok.inj hm
        have hran := hd.executor.core_execute w₁ m
        rw [hcode, hcore] at hran
        dsimp only
        cases hexecute : d.executor.execute w₁ m with
        | mk w₂ result =>
          rw [hexecute] at hran
          cases result with
          | error e => exact ⟨hd, hran⟩
          | ok _ =>
            refine ⟨⟨hd.executor, ?_⟩, hran⟩
            simp [hd.executed_eq]
      · cases he

/-- Resolving a definition runs the entry that it loads, and nothing else. -/
theorem Engages.resolve (hd : d.Engages i core) (w : ω) (name : String) :
    (d.resolve w name).2.1.Engages i core ∧
      core (d.resolve w name).1 = i.playing (core w) (d.pieces name) := by
  have hnothing (hnone : d.entryCode? name = none) {r : Except ModuleError Resolution}
      (hresolve : d.resolve w name = (w, d, r)) :
      (d.resolve w name).2.1.Engages i core ∧
        core (d.resolve w name).1 = i.playing (core w) (d.pieces name) := by
    rw [hresolve, pieces, hnone]
    exact ⟨hd, (i.playing_nil (core w)).symm⟩
  cases hname : d.registries.definitions.contains name with
  | true => exact hnothing (by simp [entryCode?, hname]) (resolve_of_registered w hname)
  | false =>
    cases hentry : d.catalogEntry? name with
    | none =>
      exact hnothing (by simp [entryCode?, hname, hentry]) (resolve_of_no_entry w hname hentry)
    | some found =>
      obtain ⟨i, entry, code⟩ := found
      by_cases hresolved : i ∈ d.resolved
      · exact hnothing (by simp [entryCode?, hname, hentry, hresolved])
          (resolve_of_resolved w hname hentry hresolved)
      · have hpieces : d.pieces name = piecesOf code := by
          simp [pieces, entryCode?, hname, hentry, hresolved]
        obtain ⟨hafter, hran⟩ := hd.loadAndExecute w code entry
        rw [resolve_of_unresolved w hname hentry hresolved, hpieces]
        cases hload : d.loadAndExecute w code entry with
        | mk w₁ rest =>
          obtain ⟨d₁, result⟩ := rest
          rw [hload] at hafter hran
          cases result with
          | error e => exact ⟨hafter, hran⟩
          | ok id => exact ⟨⟨hafter.executor, hafter.executed_eq⟩, hran⟩

end Domain

end ContentPlayer
