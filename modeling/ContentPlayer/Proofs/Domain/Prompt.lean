import ContentPlayer.Proofs.Domain.Order
import ContentPlayer.Proofs.Domain.Resolution

namespace ContentPlayer

variable {ω : Type}

namespace Executor

/-- What can go wrong in a call of an executor. -/
inductive Fault where
  | module (e : ModuleError)
  | script (e : ScriptError)
  deriving DecidableEq, Repr

/-- The fault that a call has ended with. -/
def Call.fault? : Call → Option Fault
  | .load _ _ _ (.error e) => some (.module e)
  | .execute _ (.error e) => some (.module e)
  | .construct _ (.error e) => some (.script e)
  | _ => none

/-- What the executor says to a module that it is to load and to execute at once. -/
def loadThenExecute (x : Executor ω) (w : ω) (id : Nat) (code : Bytes) (origin : String) :
    Except ModuleError Unit :=
  match x.load w id code origin with
  | (_, .error e) => .error e
  | (w, .ok m) => (x.execute w m).2

end Executor

namespace Domain

/-- An operation that lets no module wait: what it loads it executes at once. -/
def Operation.Prompt : Operation → Prop
  | .load _ _ => False
  | .execute _ => False
  | _ => True

def Answer.fault? : Answer → Option Executor.Fault
  | .loaded (.error e) => some (.module e)
  | .executed (.error e) => some (.module e)
  | .resolved (.error e) => some (.module e)
  | .constructed (.error e) => some (.script e)
  | _ => Option.none

namespace Action

/-- A module was loaded and executed at once, by the operation or in resolving a definition. -/
def succeeds (t : Action ω) : Bool :=
  match t.op, t.answer with
  | .loadAndExecute _ _, .loaded (.ok _) => true
  | .resolve _, .resolved (.ok (.executed _)) => true
  | _, _ => false

/-- The fault of the executor's last call. -/
def lastFault? (t : Action ω) : Option Executor.Fault :=
  t.calls.getLast?.bind Executor.Call.fault?

/-- What a prompt operation comes to where every module has been executed: it fails as the executor
does and leaves the domain alone, or executes one more module, or leaves the modules alone. -/
inductive Settles (t : Action ω) : Prop where
  | failed (f : Executor.Fault) (hanswer : t.answer.fault? = some f) (hlast : t.lastFault? = some f)
      (hdomain : t.after.domain = t.before.domain) (hsucceeds : t.succeeds = false)
  | executed (hanswer : t.answer.fault? = none) (hlast : t.lastFault? = none)
      (hexecuted : t.after.domain.executed = t.before.domain.executed + 1)
      (hlength : t.after.domain.modules.length = t.before.domain.modules.length + 1)
      (hsucceeds : t.succeeds = true)
  | still (hanswer : t.answer.fault? = none) (hlast : t.lastFault? = none)
      (hexecuted : t.after.domain.executed = t.before.domain.executed)
      (hlength : t.after.domain.modules.length = t.before.domain.modules.length)
      (hsucceeds : t.succeeds = false)

section Settles

variable {t : Action ω} (h : t.Settles)

include h

theorem Settles.fault_eq : t.answer.fault? = t.lastFault? := by
  cases h with
  | failed f hanswer hlast => rw [hanswer, hlast]
  | executed hanswer hlast => rw [hanswer, hlast]
  | still hanswer hlast => rw [hanswer, hlast]

theorem Settles.domain_eq (hfault : t.answer.fault? ≠ none) :
    t.after.domain = t.before.domain := by
  cases h with
  | failed _ _ _ hdomain => exact hdomain
  | executed hanswer => exact absurd hanswer hfault
  | still hanswer => exact absurd hanswer hfault

end Settles

end Action

/-- Every module has been executed, and each by one of the earlier actions. -/
structure NoneWaits (earlier : List (Action ω)) (d : Domain ω) : Prop where
  executed_eq : d.executed = d.modules.length
  count_eq : d.executed = earlier.countP Action.succeeds

theorem Action.Settles.noneWaits {earlier : List (Action ω)} {t : Action ω} (h : t.Settles)
    (hbefore : NoneWaits earlier t.before.domain) : NoneWaits (earlier ++ [t]) t.after.domain := by
  obtain ⟨hexecuted, hcount⟩ := hbefore
  have hlast : (earlier ++ [t]).countP Action.succeeds =
      earlier.countP Action.succeeds + if t.succeeds then 1 else 0 := by
    rw [List.countP_append, List.countP_singleton]
  cases h with
  | failed f _ _ hdomain hsucceeds =>
    rw [hdomain]
    exact ⟨hexecuted, by simpa [hlast, hsucceeds] using hcount⟩
  | executed _ _ hafter hlength hsucceeds =>
    constructor
    · rw [hafter, hlength, hexecuted]
    · rw [hafter, hlast, hsucceeds, hcount, if_pos rfl]
  | still _ _ hafter hlength hsucceeds =>
    constructor
    · rw [hafter, hlength, hexecuted]
    · simpa [hafter, hlast, hsucceeds] using hcount

namespace Setting

variable {s s' : Setting ω} {op : Operation} {calls : List Executor.Call} {r : Answer}

/-- Where no module waits, the executor's error is the only one, and the module is withdrawn. -/
theorem LoadsAndExecutes.error_of_executed {code : Bytes} {origin : String} {e : ModuleError}
    (h : s.LoadsAndExecutes code origin calls s' (.error e))
    (hs : s.domain.executed = s.domain.modules.length) :
    calls.getLast?.bind Executor.Call.fault? = some (.module e) ∧ s'.domain = s.domain := by
  cases h with
  | refused => exact ⟨rfl, rfl⟩
  | withdrawn => exact ⟨rfl, rfl⟩
  | leftOver _ hnext => exact absurd hs hnext

theorem LoadsAndExecutes.executed_of_ok {code : Bytes} {origin : String} {id : Nat}
    (h : s.LoadsAndExecutes code origin calls s' (.ok id)) :
    calls.getLast?.bind Executor.Call.fault? = none ∧
      s'.domain.executed = s.domain.executed + 1 ∧
      s'.domain.modules.length = s.domain.modules.length + 1 := by
  cases h with
  | executed => exact ⟨rfl, rfl, by simp [advanced, adding]⟩

/-- A prompt operation keeps to the executor. -/
theorem Step.settles (h : s.Step op calls s' r) (hop : op.Prompt)
    (hs : s.domain.executed = s.domain.modules.length) :
    (⟨s, op, s', r, calls⟩ : Action ω).Settles := by
  cases h with
  | load => exact hop.elim
  | execute => exact hop.elim
  | @loadAndExecute code origin calls s' r h =>
    cases r with
    | error e =>
      obtain ⟨hlast, hdomain⟩ := h.error_of_executed hs
      exact .failed (.module e) rfl hlast hdomain rfl
    | ok id =>
      obtain ⟨hlast, hexecuted, hlength⟩ := h.executed_of_ok
      exact .executed rfl hlast hexecuted hlength rfl
  | resolve h =>
    cases h with
    | @failed _ _ _ _ _ e _ _ _ hload =>
      obtain ⟨hlast, hdomain⟩ := hload.error_of_executed hs
      exact .failed (.module e) rfl hlast hdomain rfl
    | executed _ _ _ hload =>
      obtain ⟨hlast, hexecuted, hlength⟩ := hload.executed_of_ok
      exact .executed rfl hlast hexecuted hlength rfl
    | _ => exact .still rfl rfl rfl rfl rfl
  | @construct call w r =>
    cases r with
    | error e => exact .failed (.script e) rfl rfl rfl rfl
    | ok u => exact .still rfl rfl rfl rfl rfl
  | _ => exact .still rfl rfl rfl rfl rfl

theorem run_noneWaits (w : ω) (x : Executor ω) (version : UInt8) {ops : List Operation}
    (hops : ∀ op ∈ ops, op.Prompt) :
    let s := (fresh w x version).run ops
    s.domain.executor = x ∧ NoneWaits ((fresh w x version).acts ops) s.domain := by
  suffices h : ∀ (s : Setting ω) (earlier : List (Action ω)), s.domain.executor = x →
      NoneWaits earlier s.domain →
      (s.run ops).domain.executor = x ∧ NoneWaits (earlier ++ s.acts ops) (s.run ops).domain by
    exact h (fresh w x version) [] rfl ⟨rfl, rfl⟩
  induction ops with
  | nil =>
    intro s earlier hx hs
    rw [acts, List.append_nil]
    exact ⟨hx, hs⟩
  | cons op rest ih =>
    intro s earlier hx hs
    obtain ⟨hop, hrest⟩ := List.forall_mem_cons.mp hops
    have hstep := s.step op
    have hafter := (hstep.settles hop hs.executed_eq).noneWaits hs
    have hrun := ih hrest (s.act op).after (earlier ++ [s.act op]) (hstep.executor_eq.trans hx)
      hafter
    simpa [acts, run] using hrun

end Setting

/-- Where every module has been executed, the executor alone decides. -/
theorem answer_loadAndExecute (w : ω) {d : Domain ω} (hd : d.executed = d.modules.length)
    (code : Bytes) (origin : String) :
    (d.loadAndExecute w code origin).2.2 =
      (d.executor.loadThenExecute w d.modules.length code origin).map fun _ =>
        d.modules.length := by
  rw [loadAndExecute_of_executed w d code origin hd, Executor.loadThenExecute]
  cases d.executor.load w d.modules.length code origin with
  | mk w₁ loaded =>
    cases loaded with
    | error e => rfl
    | ok m =>
      dsimp only
      cases d.executor.execute w₁ m with
      | mk w₂ executed => cases executed <;> rfl

namespace Setting

/-- What could not be resolved is asked of the executor again, under the same number, and the answer
is the executor's of that time. -/
theorem Resolves.again {s s' : Setting ω} {name : String} {calls : List Executor.Call}
    {e : ModuleError} (h : s.Resolves name calls s' (.error e))
    (hs : s.domain.executed = s.domain.modules.length) :
    ∃ entry code,
      calls.filterMap Executor.Call.loads? = [(s.domain.modules.length, code, entry)] ∧
        ∀ w, (s.domain.resolve w name).2.2 =
          (s.domain.executor.loadThenExecute w s.domain.modules.length code entry).map fun _ =>
            .executed entry := by
  cases h with
  | @failed i entry code _ _ _ hname hentry hresolved hload =>
    refine ⟨entry, code, hload.loads_eq, ?_⟩
    intro w
    have hanswer := answer_loadAndExecute w hs code entry
    rw [resolve_of_unresolved w hname hentry hresolved]
    generalize s.domain.loadAndExecute w code entry = loaded at hanswer ⊢
    generalize s.domain.executor.loadThenExecute w s.domain.modules.length code entry = said
      at hanswer ⊢
    obtain ⟨w', d', r⟩ := loaded
    dsimp only at hanswer
    subst hanswer
    cases said <;> rfl

/-- Where modules are executed as soon as they are loaded, none ever waits. There are as many as
were loaded with success; every fault is one with which the executor has ended its last call, and
leaves the domain as it was; and a definition that could not be resolved is tried again as if it had
never been. -/
theorem no_module_waits (w : ω) (x : Executor ω) (version : UInt8) {front : List Operation}
    {op : Operation} (hfront : ∀ op ∈ front, op.Prompt) (hop : op.Prompt) :
    let s := (fresh w x version).run front
    let t := s.act op
    (s.domain.executed = s.domain.modules.length ∧
      s.domain.executed = ((fresh w x version).acts front).countP Action.succeeds) ∧
    t.answer.fault? = t.lastFault? ∧
    (t.answer.fault? ≠ none → t.after.domain = s.domain) ∧
    ∀ name e, op = .resolve name → t.answer = .resolved (.error e) →
      ∃ entry code,
        t.calls.filterMap Executor.Call.loads? = [(s.domain.modules.length, code, entry)] ∧
          ∀ later, ((⟨later, t.after.domain⟩ : Setting ω).act (.resolve name)).answer =
            .resolved ((x.loadThenExecute later s.domain.modules.length code entry).map fun _ =>
              .executed entry) := by
  intro s t
  obtain ⟨hx, hnone⟩ := run_noneWaits w x version hfront
  have hsettles : t.Settles := (s.step op).settles hop hnone.executed_eq
  refine ⟨⟨hnone.executed_eq, hnone.count_eq⟩, hsettles.fault_eq, hsettles.domain_eq, ?_⟩
  rintro name e rfl ha
  have hdomain : t.after.domain = s.domain := hsettles.domain_eq (by simp [ha, Answer.fault?])
  have he : (s.domain.resolve s.outside name).2.2 = .error e := Answer.resolved.inj ha
  have hresolves := s.resolves name
  rw [he] at hresolves
  obtain ⟨entry, code, hloads, hagain⟩ := hresolves.again hnone.executed_eq
  refine ⟨entry, code, hloads, ?_⟩
  intro later
  rw [hdomain, ← hx]
  exact congrArg Answer.resolved (hagain later)

/-- The entry that brings a definition fails once, behind a module that has been executed. -/
theorem no_module_waits_planned :
    let c : Catalog := ⟨[98], [⟨"b", 0, 1, ["thing"]⟩], by decide⟩
    let front : List Operation := [.loadAndExecute [97] "a", .registerCatalog c]
    let s := (fresh [true, false] .planned 10).run front
    let t := s.act (.resolve "thing")
    (∀ op ∈ front, op.Prompt) ∧ s.domain.executed = s.domain.modules.length ∧
      t.answer = .resolved (.error (.execution "b" "planned")) ∧ t.after.domain = s.domain ∧
      ((⟨[true], t.after.domain⟩ : Setting (List Bool)).act (.resolve "thing")).answer =
        .resolved (.ok (.executed "b")) := by
  intro c front s t
  have hfront : ∀ op ∈ front, op.Prompt := by simp [front, Operation.Prompt]
  have hop : (Operation.resolve "thing").Prompt := trivial
  obtain ⟨⟨hexecuted, _⟩, _, hsame, hagain⟩ := no_module_waits [true, false] .planned 10 hfront hop
  have ha : t.answer = .resolved (.error (.execution "b" "planned")) := rfl
  obtain ⟨entry, code, hloads, hlater⟩ := hagain "thing" _ rfl ha
  have hcalls : t.calls.filterMap Executor.Call.loads? = [(1, [98], "b")] := rfl
  obtain ⟨-, rfl, rfl⟩ : _ ∧ code = [98] ∧ entry = "b" := by simpa using hloads.symm.trans hcalls
  exact ⟨hfront, hexecuted, ha, hsame (by simp [t, s, ha, Answer.fault?]), hlater [true]⟩

end Setting

end Domain

end ContentPlayer
