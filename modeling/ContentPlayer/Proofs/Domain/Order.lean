import ContentPlayer.Proofs.Domain.Step
import Mathlib.Data.List.Nodup

namespace ContentPlayer.Domain

variable {ω : Type} {d : Domain ω} {done : List Module} {m : Module}

/-- The modules that have been executed are the first ones, in their order, and each module has the
number of its place. -/
structure InOrder (d : Domain ω) (done : List Module) : Prop where
  executed_le : d.executed ≤ d.modules.length
  id_eq : ∀ (i : Nat) (m : Module), d.modules[i]? = some m → m.id = i
  done_eq : done = d.modules.take d.executed

theorem InOrder.nodup (hd : d.InOrder done) : done.Nodup := by
  have hmodules : d.modules.Nodup := by
    rw [List.nodup_iff_getElem?_ne_getElem?]
    intro i j hij hj heq
    have hget : d.modules[j]? = some d.modules[j] := List.getElem?_eq_getElem hj
    have hi := hd.id_eq i _ (heq.trans hget)
    have hj' := hd.id_eq j _ hget
    omega
  rw [hd.done_eq]
  exact hmodules.sublist (List.take_sublist _ _)

theorem InOrder.congr {d' : Domain ω} (hd : d.InOrder done) (hmodules : d'.modules = d.modules)
    (hexecuted : d'.executed = d.executed) : d'.InOrder done := by
  constructor
  · rw [hmodules, hexecuted]
    exact hd.executed_le
  · rw [hmodules]
    exact hd.id_eq
  · rw [hmodules, hexecuted]
    exact hd.done_eq

theorem InOrder.adding (hd : d.InOrder done) (hm : m.id = d.modules.length) :
    (d.adding m).InOrder done where
  executed_le := by
    have hle := hd.executed_le
    simp only [Domain.adding, List.length_append, List.length_singleton]
    omega
  id_eq := by
    intro i m' hget
    simp only [Domain.adding, List.getElem?_append] at hget
    split at hget
    · exact hd.id_eq i m' hget
    · obtain ⟨hi, rfl⟩ := List.getElem?_eq_some_iff.mp hget
      simp only [List.length_singleton] at hi
      simp only [List.getElem_singleton, hm]
      omega
  done_eq := by
    rw [hd.done_eq]
    exact (List.take_append_of_le_length hd.executed_le).symm

theorem InOrder.advanced (hd : d.InOrder done) (hm : d.modules[d.executed]? = some m) :
    d.advanced.InOrder (done ++ [m]) where
  executed_le := (List.getElem?_eq_some_iff.mp hm).1
  id_eq := hd.id_eq
  done_eq := by
    have htake : d.modules.take (d.executed + 1) = d.modules.take d.executed ++ [m] := by
      rw [List.take_add_one, hm, Option.toList_some]
    rw [Domain.advanced, htake, hd.done_eq]

theorem getElem?_adding (d : Domain ω) (m : Module) :
    (d.adding m).modules[d.modules.length]? = some m := by
  simp [adding]

/-- Of these calls at most one is to execute a module, and it is the domain's next one. -/
def ExecutesOnlyNext (d : Domain ω) (calls : List Executor.Call) : Prop :=
  calls.filterMap Executor.Call.executes? = [] ∨
    ∃ m, calls.filterMap Executor.Call.executes? = [m] ∧ d.modules[d.executed]? = some m

namespace Setting

variable {s s' : Setting ω} {op : Operation} {calls : List Executor.Call} {r : Answer}

/-- A domain keeps its executor. -/
theorem Step.executor_eq (h : s.Step op calls s' r) :
    s'.domain.executor = s.domain.executor := by
  cases h with
  | load h => cases h <;> rfl
  | execute h => cases h <;> rfl
  | loadAndExecute h => exact h.loadedFrom.executor_eq
  | resolve h =>
    cases h with
    | failed _ _ _ hload => exact hload.loadedFrom.executor_eq
    | executed _ _ _ hload => exact hload.loadedFrom.executor_eq
    | _ => rfl
  | _ => rfl

theorem id_of_load (hx : s.domain.executor.Faithful) {code : Bytes} {origin : String} {w : ω}
    (hload : s.domain.executor.load s.outside s.domain.modules.length code origin = (w, .ok m)) :
    m.id = s.domain.modules.length := by
  rw [hx s.outside s.domain.modules.length code origin m (by rw [hload])]

theorem LoadsAndExecutes.inOrder {code : Bytes} {origin : String} {r : Except ModuleError Nat}
    (h : s.LoadsAndExecutes code origin calls s' r) (hx : s.domain.executor.Faithful)
    (hs : s.domain.InOrder done) :
    s'.domain.InOrder (done ++ calls.filterMap Executor.Call.executed?) := by
  cases h with
  | refused => simpa [List.filterMap_cons] using hs
  | withdrawn => simpa [List.filterMap_cons] using hs
  | leftOver hload =>
    have hadded := hs.adding (id_of_load hx hload)
    simpa [List.filterMap_cons] using hadded
  | @executed _ _ m hload hnext =>
    have hadded := hs.adding (id_of_load hx hload)
    have hget : (s.domain.adding m).modules[(s.domain.adding m).executed]? = some m := by
      rw [← getElem?_adding s.domain m, ← hnext]
      rfl
    simpa [List.filterMap_cons] using hadded.advanced hget

/-- Every operation keeps the order: what it executes is behind what has been executed before. -/
theorem Step.inOrder (h : s.Step op calls s' r) (hx : s.domain.executor.Faithful)
    (hs : s.domain.InOrder done) :
    s'.domain.InOrder (done ++ calls.filterMap Executor.Call.executed?) := by
  cases h with
  | load h =>
    cases h with
    | refused => simpa [List.filterMap_cons] using hs
    | loaded hload =>
      have hadded := hs.adding (id_of_load hx hload)
      simpa [List.filterMap_cons] using hadded
  | execute h =>
    cases h with
    | unknown => simpa using hs
    | outOfOrder => simpa using hs
    | failed => simpa [List.filterMap_cons] using hs
    | executed hid => simpa [List.filterMap_cons] using hs.advanced hid
  | loadAndExecute h => exact h.inOrder hx hs
  | resolve h =>
    cases h with
    | failed _ _ _ hload => exact hload.inOrder hx hs
    | executed _ _ _ hload => exact (hload.inOrder hx hs).congr rfl rfl
    | _ => simpa using hs
  | registerCatalog =>
    rw [List.filterMap_nil, List.append_nil]
    exact hs.congr rfl rfl
  | register =>
    rw [List.filterMap_nil, List.append_nil]
    exact hs.congr rfl rfl
  | construct => simpa [List.filterMap_cons] using hs
  | attach =>
    rw [List.filterMap_nil, List.append_nil]
    exact hs.congr rfl rfl

/-- The domain in which an operation has a module executed: what it loads before is in it. -/
def executing (s : Setting ω) : Operation → Domain ω
  | .loadAndExecute code origin => (s.domain.loadModule s.outside code origin).2.1
  | .resolve name =>
    match s.domain.catalogEntry? name with
    | some (_, entry, code) => (s.domain.loadModule s.outside code entry).2.1
    | none => s.domain
  | _ => s.domain

theorem LoadsAndExecutes.onlyNext {code : Bytes} {origin : String} {r : Except ModuleError Nat}
    (h : s.LoadsAndExecutes code origin calls s' r) :
    (s.domain.loadModule s.outside code origin).2.1.ExecutesOnlyNext calls := by
  have hnext (w : ω) (m : Module) (hload : s.domain.executor.load s.outside
      s.domain.modules.length code origin = (w, .ok m))
      (hexecuted : s.domain.executed = s.domain.modules.length) :
      (s.domain.loadModule s.outside code origin).2.1.modules[
        (s.domain.loadModule s.outside code origin).2.1.executed]? = some m := by
    rw [loadModule, hload, ← getElem?_adding s.domain m, ← hexecuted]
    rfl
  cases h with
  | refused => exact .inl rfl
  | withdrawn hload hexecuted => exact .inr ⟨_, rfl, hnext _ _ hload hexecuted⟩
  | leftOver => exact .inl rfl
  | executed hload hexecuted => exact .inr ⟨_, rfl, hnext _ _ hload hexecuted⟩

theorem Step.onlyNext (h : s.Step op calls s' r) : (s.executing op).ExecutesOnlyNext calls := by
  cases h with
  | load h => cases h <;> exact .inl rfl
  | execute h =>
    cases h with
    | unknown => exact .inl rfl
    | outOfOrder => exact .inl rfl
    | failed hid => exact .inr ⟨_, rfl, hid⟩
    | executed hid => exact .inr ⟨_, rfl, hid⟩
  | loadAndExecute h => exact h.onlyNext
  | resolve h =>
    cases h with
    | failed _ hentry _ hload =>
      rw [executing, hentry]
      exact hload.onlyNext
    | executed _ hentry _ hload =>
      rw [executing, hentry]
      exact hload.onlyNext
    | _ => exact .inl rfl
  | _ => exact .inl rfl

/-- An execution that is refused changes nothing in the domain, and one of a module that is not
there does not come to the executor. -/
theorem Executes.refuses {id : Nat} {r : Except ModuleError Unit} (h : s.Executes id calls s' r) :
    (∀ e, r = .error e → s'.domain = s.domain) ∧
      (s.domain.modules.length ≤ id → r = .error (.unknown id) ∧ calls = [] ∧ s' = s) := by
  have habsent (m : Module) (hget : s.domain.modules[id]? = some m)
      (hlength : s.domain.modules.length ≤ id) : False := by
    obtain ⟨hlt, _⟩ := List.getElem?_eq_some_iff.mp hget
    omega
  cases h with
  | unknown => exact ⟨fun _ _ => rfl, fun _ => ⟨rfl, rfl, rfl⟩⟩
  | outOfOrder hid => exact ⟨fun _ _ => rfl, fun hlength => (habsent _ hid hlength).elim⟩
  | failed hid => exact ⟨fun _ _ => rfl, fun hlength => (habsent _ hid hlength).elim⟩
  | executed hid =>
    refine ⟨?_, fun hlength => (habsent _ hid hlength).elim⟩
    intro e he
    cases he

theorem fresh_inOrder (w : ω) (x : Executor ω) (version : UInt8) :
    (fresh w x version).domain.InOrder [] where
  executed_le := Nat.le_refl 0
  id_eq := by simp [fresh]
  done_eq := rfl

theorem run_inOrder (w : ω) {x : Executor ω} (hx : x.Faithful) (version : UInt8)
    (ops : List Operation) :
    ((fresh w x version).run ops).domain.InOrder
      ((((fresh w x version).acts ops).flatMap Action.calls).filterMap
        Executor.Call.executed?) := by
  have hrun := run_induction (s := fresh w x version)
    (P := fun earlier s => s.domain.executor.Faithful ∧
      s.domain.InOrder ((earlier.flatMap Action.calls).filterMap Executor.Call.executed?))
    ⟨hx, fresh_inOrder w x version⟩ ?_ ops
  · exact hrun.2
  · intro earlier s op hs
    have hstep := s.step op
    refine ⟨?_, ?_⟩
    · rw [act, hstep.executor_eq]
      exact hs.1
    · rw [List.flatMap_append, List.filterMap_append, List.flatMap_singleton]
      exact hstep.inOrder hs.1 hs.2

/-- Modules are executed strictly in the order in which they were loaded, each at most once, and
only the next one is ever given to the executor. Whatever is done to a domain, and whatever its
executor answers, this holds of what has been done and of what is done next. -/
theorem executes_in_order (w : ω) {x : Executor ω} (hx : x.Faithful) (version : UInt8)
    (front : List Operation) (op : Operation) :
    let s := (fresh w x version).run front
    let t := s.act op
    let done := (((fresh w x version).acts front).flatMap Action.calls).filterMap
      Executor.Call.executed?
    (s.domain.InOrder done ∧ done.Nodup) ∧ (s.executing op).ExecutesOnlyNext t.calls ∧
      ∀ id, op = .execute id →
        (∀ e, t.answer = .executed (.error e) → t.after.domain = s.domain) ∧
          (s.domain.modules.length ≤ id →
            t.answer = .executed (.error (.unknown id)) ∧ t.calls = [] ∧ t.after = s) := by
  intro s t done
  have hdone := run_inOrder w hx version front
  refine ⟨⟨hdone, hdone.nodup⟩, (s.step op).onlyNext, ?_⟩
  rintro id rfl
  obtain ⟨hfails, hunknown⟩ := (s.executes id).refuses
  refine ⟨?_, ?_⟩
  · intro e he
    exact hfails e (Answer.executed.inj he)
  · intro hlength
    obtain ⟨hanswer, hcalls, hafter⟩ := hunknown hlength
    exact ⟨congrArg Answer.executed hanswer, hcalls, hafter⟩

/-- A module is left over, and is executed after the one before it; the first try fails. -/
theorem executes_in_order_planned :
    let s := (fresh [true, false] .planned 10).run
      [.load [97] "a", .loadAndExecute [98] "b", .execute 0, .execute 1]
    Executor.planned.Faithful ∧ s.domain.InOrder [⟨0, "a", [97]⟩] ∧
      (s.executing (.execute 1)).ExecutesOnlyNext [.execute ⟨1, "b", [98]⟩ (.ok ())] := by
  intro s
  obtain ⟨⟨hdone, _⟩, hnext, _⟩ := executes_in_order [true, false] Executor.planned_faithful 10
    [.load [97] "a", .loadAndExecute [98] "b", .execute 0, .execute 1] (.execute 1)
  exact ⟨Executor.planned_faithful, hdone, hnext⟩

end Setting

end ContentPlayer.Domain
