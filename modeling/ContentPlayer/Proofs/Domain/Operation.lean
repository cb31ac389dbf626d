import ContentPlayer.Domain.Basic

namespace ContentPlayer

variable {ω : Type}

namespace Executor

/-- A call of an executor, with what it gave back. -/
inductive Call where
  | load (id : Nat) (code : Bytes) (origin : String) (result : Except ModuleError Module)
  | execute (m : Module) (result : Except ModuleError Unit)
  | construct (call : ConstructorCall) (result : Except ScriptError Unit)

namespace Call

@[simp]
def loads? : Call → Option (Nat × Bytes × String)
  | .load id code origin _ => some (id, code, origin)
  | _ => none

/-- The module that was to be executed. -/
@[simp]
def executes? : Call → Option Module
  | .execute m _ => some m
  | _ => none

/-- The module that has been executed, if it did not fail. -/
@[simp]
def executed? : Call → Option Module
  | .execute m (.ok ()) => some m
  | _ => none

end Call

/-- The same executor; it notes its calls, the latest last. -/
def traced (x : Executor ω) : Executor (ω × List Call) where
  load s id code origin :=
    let (w, r) := x.load s.1 id code origin
    ((w, s.2 ++ [.load id code origin r]), r)
  execute s m :=
    let (w, r) := x.execute s.1 m
    ((w, s.2 ++ [.execute m r]), r)
  construct s call :=
    let (w, r) := x.construct s.1 call
    ((w, s.2 ++ [.construct call r]), r)

theorem traced_load (x : Executor ω) (w : ω) (log : List Call) (id : Nat) (code : Bytes)
    (origin : String) :
    x.traced.load (w, log) id code origin =
      (((x.load w id code origin).1, log ++ [.load id code origin (x.load w id code origin).2]),
        (x.load w id code origin).2) := rfl

theorem traced_execute (x : Executor ω) (w : ω) (log : List Call) (m : Module) :
    x.traced.execute (w, log) m =
      (((x.execute w m).1, log ++ [.execute m (x.execute w m).2]), (x.execute w m).2) := rfl

/-- What it loads is a module of the number, the origin and the code that it was given. -/
def Faithful (x : Executor ω) : Prop :=
  ∀ w id code origin m, (x.load w id code origin).2 = .ok m → m = ⟨id, origin, code⟩

/-- Its executions succeed and fail as it is planned, and then succeed. -/
def planned : Executor (List Bool) where
  load plan id code origin := (plan, .ok ⟨id, origin, code⟩)
  execute plan m :=
    (plan.tail, if plan.headD true then .ok () else .error (.execution m.origin "planned"))
  construct plan _ := (plan, .ok ())

theorem planned_faithful : planned.Faithful := by
  rintro plan id code origin m ⟨⟩
  rfl

end Executor

namespace Domain

/-- What a domain can be asked for. -/
inductive Operation where
  | load (code : Bytes) (origin : String)
  | execute (id : Nat)
  | loadAndExecute (code : Bytes) (origin : String)
  | registerCatalog (catalog : Catalog)
  | resolve (name : String)
  /-- The registries are open to every change. -/
  | register (change : Registries → Registries)
  | construct (call : ConstructorCall)
  | attach (stage : StageId)

inductive Answer where
  | none
  | loaded (r : Except ModuleError Nat)
  | executed (r : Except ModuleError Unit)
  | resolved (r : Except ModuleError Resolution)
  | constructed (r : Except ScriptError Unit)

structure Setting (ω : Type) where
  outside : ω
  domain : Domain ω

/-- An operation with what was before and after it, its answer, and the executor's part in it. -/
structure Action (ω : Type) where
  before : Setting ω
  op : Operation
  after : Setting ω
  answer : Answer
  calls : List Executor.Call

namespace Setting

def fresh (w : ω) (x : Executor ω) (version : UInt8) : Setting ω :=
  ⟨w, { executor := x, version }⟩

def perform (s : Setting ω) : Operation → Setting ω × Answer
  | .load code origin =>
    let (w, d, r) := s.domain.loadModule s.outside code origin
    (⟨w, d⟩, .loaded r)
  | .execute id =>
    let (w, d, r) := s.domain.executeModule s.outside id
    (⟨w, d⟩, .executed r)
  | .loadAndExecute code origin =>
    let (w, d, r) := s.domain.loadAndExecute s.outside code origin
    (⟨w, d⟩, .loaded r)
  | .registerCatalog catalog => ({ s with domain := s.domain.registerCatalog catalog }, .none)
  | .resolve name =>
    let (w, d, r) := s.domain.resolve s.outside name
    (⟨w, d⟩, .resolved r)
  | .register change =>
    ({ s with domain := { s.domain with registries := change s.domain.registries } }, .none)
  | .construct call =>
    let (w, r) := s.domain.construct s.outside call
    ({ s with outside := w }, .constructed r)
  | .attach stage => ({ s with domain := { s.domain with stage := some stage } }, .none)

/-- The same domain, with an executor that notes its calls. -/
def traced (s : Setting ω) : Setting (ω × List Executor.Call) :=
  ⟨(s.outside, []), { s.domain with executor := s.domain.executor.traced }⟩

/-- The calls that an operation makes of the executor. -/
def calls (s : Setting ω) (op : Operation) : List Executor.Call :=
  (s.traced.perform op).1.outside.2

def act (s : Setting ω) (op : Operation) : Action ω :=
  ⟨s, op, (s.perform op).1, (s.perform op).2, s.calls op⟩

def run (s : Setting ω) : List Operation → Setting ω
  | [] => s
  | op :: rest => (s.act op).after.run rest

def acts (s : Setting ω) : List Operation → List (Action ω)
  | [] => []
  | op :: rest => s.act op :: (s.act op).after.acts rest

/-- What holds at first, and is kept by every action, holds after every run, of the actions that led
there and of what they led to. -/
theorem run_induction {P : List (Action ω) → Setting ω → Prop} {s : Setting ω} (hstart : P [] s)
    (hact : ∀ earlier s op, P earlier s → P (earlier ++ [s.act op]) (s.act op).after)
    (ops : List Operation) : P (s.acts ops) (s.run ops) := by
  suffices h : ∀ earlier s, P earlier s → P (earlier ++ s.acts ops) (s.run ops) from h [] s hstart
  induction ops with
  | nil =>
    intro earlier s hs
    simpa [acts, run] using hs
  | cons op rest ih =>
    intro earlier s hs
    have hrest := ih (earlier ++ [s.act op]) (s.act op).after (hact earlier s op hs)
    simpa [acts, run] using hrest

end Setting

end Domain

end ContentPlayer
