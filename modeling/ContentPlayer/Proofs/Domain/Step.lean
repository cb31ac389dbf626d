import ContentPlayer.Proofs.Domain.Loading
import ContentPlayer.Proofs.Domain.Operation

namespace ContentPlayer.Domain

variable {ω : Type}

/-- The domain with a module behind the others. -/
def adding (d : Domain ω) (m : Module) : Domain ω := { d with modules := d.modules ++ [m] }

/-- The domain after its next module has been executed. -/
def advanced (d : Domain ω) : Domain ω := { d with executed := d.executed + 1 }

/-- A domain that comes of another by loading and executing: it has the other's parts but for the
modules and the count of those that have been executed. -/
structure LoadedFrom (d before : Domain ω) : Prop where
  executor_eq : d.executor = before.executor
  registries_eq : d.registries = before.registries
  catalog_eq : d.catalog = before.catalog
  resolved_eq : d.resolved = before.resolved
  stage_eq : d.stage = before.stage

namespace Setting

/-- What loading a module can come to. -/
inductive Loads (s : Setting ω) (code : Bytes) (origin : String) :
    List Executor.Call → Setting ω → Except ModuleError Nat → Prop where
  | refused {w : ω} {e : ModuleError}
      (hload : s.domain.executor.load s.outside s.domain.modules.length code origin =
        (w, .error e)) :
      Loads s code origin [.load s.domain.modules.length code origin (.error e)]
        ⟨w, s.domain⟩ (.error e)
  | loaded {w : ω} {m : Module}
      (hload : s.domain.executor.load s.outside s.domain.modules.length code origin =
        (w, .ok m)) :
      Loads s code origin [.load s.domain.modules.length code origin (.ok m)]
        ⟨w, s.domain.adding m⟩ (.ok s.domain.modules.length)

/-- What executing a module can come to. -/
inductive Executes (s : Setting ω) :
    Nat → List Executor.Call → Setting ω → Except ModuleError Unit → Prop where
  | unknown {id : Nat} (hid : s.domain.modules[id]? = none) :
      Executes s id [] s (.error (.unknown id))
  | outOfOrder {id : Nat} {m : Module} (hid : s.domain.modules[id]? = some m)
      (hnext : id ≠ s.domain.executed) :
      Executes s id [] s (.error (.outOfOrder m.origin s.domain.executed id))
  | failed {w : ω} {m : Module} {e : ModuleError}
      (hid : s.domain.modules[s.domain.executed]? = some m)
      (hexecute : s.domain.executor.execute s.outside m = (w, .error e)) :
      Executes s s.domain.executed [.execute m (.error e)] ⟨w, s.domain⟩ (.error e)
  | executed {w : ω} {m : Module} (hid : s.domain.modules[s.domain.executed]? = some m)
      (hexecute : s.domain.executor.execute s.outside m = (w, .ok ())) :
      Executes s s.domain.executed [.execute m (.ok ())] ⟨w, s.domain.advanced⟩ (.ok ())

/-- What loading and executing a module can come to. One that is loaded behind a module that has not
been executed can neither be executed nor be withdrawn. -/
inductive LoadsAndExecutes (s : Setting ω) (code : Bytes) (origin : String) :
    List Executor.Call → Setting ω → Except ModuleError Nat → Prop where
  | refused {w : ω} {e : ModuleError}
      (hload : s.domain.executor.load s.outside s.domain.modules.length code origin =
        (w, .error e)) :
      LoadsAndExecutes s code origin [.load s.domain.modules.length code origin (.error e)]
        ⟨w, s.domain⟩ (.error e)
  | withdrawn {w w' : ω} {m : Module} {e : ModuleError}
      (hload : s.domain.executor.load s.outside s.domain.modules.length code origin = (w, .ok m))
      (hnext : s.domain.executed = s.domain.modules.length)
      (hexecute : s.domain.executor.execute w m = (w', .error e)) :
      LoadsAndExecutes s code origin
        [.load s.domain.modules.length code origin (.ok m), .execute m (.error e)]
        ⟨w', s.domain⟩ (.error e)
  | leftOver {w : ω} {m : Module}
      (hload : s.domain.executor.load s.outside s.domain.modules.length code origin = (w, .ok m))
      (hnext : s.domain.executed ≠ s.domain.modules.length) :
      LoadsAndExecutes s code origin [.load s.domain.modules.length code origin (.ok m)]
        ⟨w, s.domain.adding m⟩
        (.error (.outOfOrder m.origin s.domain.executed s.domain.modules.length))
  | executed {w w' : ω} {m : Module}
      (hload : s.domain.executor.load s.outside s.domain.modules.length code origin = (w, .ok m))
      (hnext : s.domain.executed = s.domain.modules.length)
      (hexecute : s.domain.executor.execute w m = (w', .ok ())) :
      LoadsAndExecutes s code origin
        [.load s.domain.modules.length code origin (.ok m), .execute m (.ok ())]
        ⟨w', (s.domain.adding m).advanced⟩ (.ok s.domain.modules.length)

/-- What resolving a definition can come to. -/
inductive Resolves (s : Setting ω) (name : String) :
    List Executor.Call → Setting ω → Except ModuleError Resolution → Prop where
  | registered (hname : s.domain.registries.definitions.contains name = true) :
      Resolves s name [] s (.ok .registered)
  | notFound (hname : s.domain.registries.definitions.contains name = false)
      (hentry : s.domain.catalogEntry? name = none) :
      Resolves s name [] s (.ok .notFound)
  | alreadyLoaded {i : Nat} {entry : String} {code : Bytes}
      (hname : s.domain.registries.definitions.contains name = false)
      (hentry : s.domain.catalogEntry? name = some (i, entry, code))
      (hresolved : i ∈ s.domain.resolved) :
      Resolves s name [] s (.ok (.alreadyLoaded entry))
  | failed {i : Nat} {entry : String} {code : Bytes} {calls : List Executor.Call}
      {s' : Setting ω} {e : ModuleError}
      (hname : s.domain.registries.definitions.contains name = false)
      (hentry : s.domain.catalogEntry? name = some (i, entry, code))
      (hresolved : i ∉ s.domain.resolved)
      (hload : s.LoadsAndExecutes code entry calls s' (.error e)) :
      Resolves s name calls s' (.error e)
  | executed {i : Nat} {entry : String} {code : Bytes} {calls : List Executor.Call}
      {s' : Setting ω} {id : Nat}
      (hname : s.domain.registries.definitions.contains name = false)
      (hentry : s.domain.catalogEntry? name = some (i, entry, code))
      (hresolved : i ∉ s.domain.resolved)
      (hload : s.LoadsAndExecutes code entry calls s' (.ok id)) :
      Resolves s name calls
        ⟨s'.outside, { s'.domain with resolved := i :: s'.domain.resolved }⟩
        (.ok (.executed entry))

/-- What an operation can come to. -/
inductive Step (s : Setting ω) :
    Operation → List Executor.Call → Setting ω → Answer → Prop where
  | load {code : Bytes} {origin : String} {calls : List Executor.Call} {s' : Setting ω}
      {r : Except ModuleError Nat} (h : s.Loads code origin calls s' r) :
      Step s (.load code origin) calls s' (.loaded r)
  | execute {id : Nat} {calls : List Executor.Call} {s' : Setting ω}
      {r : Except ModuleError Unit} (h : s.Executes id calls s' r) :
      Step s (.execute id) calls s' (.executed r)
  | loadAndExecute {code : Bytes} {origin : String} {calls : List Executor.Call}
      {s' : Setting ω} {r : Except ModuleError Nat}
      (h : s.LoadsAndExecutes code origin calls s' r) :
      Step s (.loadAndExecute code origin) calls s' (.loaded r)
  | registerCatalog (catalog : Catalog) :
      Step s (.registerCatalog catalog) [] ⟨s.outside, s.domain.registerCatalog catalog⟩ .none
  | resolve {name : String} {calls : List Executor.Call} {s' : Setting ω}
      {r : Except ModuleError Resolution} (h : s.Resolves name calls s' r) :
      Step s (.resolve name) calls s' (.resolved r)
  | register (change : Registries → Registries) :
      Step s (.register change) []
        ⟨s.outside, { s.domain with registries := change s.domain.registries }⟩ .none
  | construct {call : ConstructorCall} {w : ω} {r : Except ScriptError Unit}
      (hconstruct : s.domain.executor.construct s.outside call = (w, r)) :
      Step s (.construct call) [.construct call r] ⟨w, s.domain⟩ (.constructed r)
  | attach (stage : StageId) :
      Step s (.attach stage) [] ⟨s.outside, { s.domain with stage := some stage }⟩ .none

theorem loads (s : Setting ω) (code : Bytes) (origin : String) :
    s.Loads code origin (s.calls (.load code origin)) (s.perform (.load code origin)).1
      (s.domain.loadModule s.outside code origin).2.2 := by
  cases hload : s.domain.executor.load s.outside s.domain.modules.length code origin with
  | mk w r =>
    simp only [calls, perform, traced, loadModule, Executor.traced_load, hload]
    cases r with
    | error e => exact .refused hload
    | ok m => exact .loaded hload

theorem executes (s : Setting ω) (id : Nat) :
    s.Executes id (s.calls (.execute id)) (s.perform (.execute id)).1
      (s.domain.executeModule s.outside id).2.2 := by
  cases hid : s.domain.modules[id]? with
  | none =>
    simp only [calls, perform, traced, executeModule, hid]
    exact .unknown hid
  | some m =>
    simp only [calls, perform, traced, executeModule, hid]
    by_cases hnext : id = s.domain.executed
    · subst hnext
      simp only [ne_eq, not_true_eq_false, if_false, Executor.traced_execute]
      cases hexecute : s.domain.executor.execute s.outside m with
      | mk w r =>
        cases r with
        | error e => exact .failed hid hexecute
        | ok u => exact .executed hid hexecute
    · simp only [ne_eq, hnext, not_false_eq_true, if_true]
      exact .outOfOrder hid hnext

theorem loadsAndExecutes (s : Setting ω) (code : Bytes) (origin : String) :
    s.LoadsAndExecutes code origin (s.calls (.loadAndExecute code origin))
      (s.perform (.loadAndExecute code origin)).1
      (s.domain.loadAndExecute s.outside code origin).2.2 := by
  cases hload : s.domain.executor.load s.outside s.domain.modules.length code origin with
  | mk w r =>
    simp only [calls, perform, traced, loadAndExecute_eq, Executor.traced_load, hload]
    cases r with
    | error e => exact .refused hload
    | ok m =>
      by_cases hnext : s.domain.executed = s.domain.modules.length
      · simp only [if_pos hnext, Executor.traced_execute]
        cases hexecute : s.domain.executor.execute w m with
        | mk w' r =>
          cases r with
          | error e => exact .withdrawn hload hnext hexecute
          | ok u => exact .executed hload hnext hexecute
      · simp only [if_neg hnext]
        exact .leftOver hload hnext

theorem resolves (s : Setting ω) (name : String) :
    s.Resolves name (s.calls (.resolve name)) (s.perform (.resolve name)).1
      (s.domain.resolve s.outside name).2.2 := by
  simp only [calls, perform]
  cases hname : s.domain.registries.definitions.contains name with
  | true =>
    have htraced := resolve_of_registered s.traced.outside (d := s.traced.domain) hname
    rw [htraced, resolve_of_registered s.outside hname]
    exact .registered hname
  | false =>
    cases hentry : s.domain.catalogEntry? name with
    | none =>
      have htraced := resolve_of_no_entry s.traced.outside (d := s.traced.domain) hname hentry
      rw [htraced, resolve_of_no_entry s.outside hname hentry]
      exact .notFound hname hentry
    | some found =>
      obtain ⟨i, entry, code⟩ := found
      by_cases hresolved : i ∈ s.domain.resolved
      · have htraced :=
          resolve_of_resolved s.traced.outside (d := s.traced.domain) hname hentry hresolved
        rw [htraced, resolve_of_resolved s.outside hname hentry hresolved]
        exact .alreadyLoaded hname hentry hresolved
      · have htraced :=
          resolve_of_unresolved s.traced.outside (d := s.traced.domain) hname hentry hresolved
        rw [htraced, resolve_of_unresolved s.outside hname hentry hresolved]
        have hload := s.loadsAndExecutes code entry
        simp only [calls, perform] at hload
        generalize s.traced.domain.loadAndExecute s.traced.outside code entry = traced at hload ⊢
        generalize s.domain.loadAndExecute s.outside code entry = plain at hload ⊢
        obtain ⟨w, d, r⟩ := plain
        -- the calls do not depend on what the tracing domain answers
        obtain ⟨⟨w', log⟩, d', r'⟩ := traced
        cases r with
        | error e =>
          cases r' with
          | error e' => exact .failed hname hentry hresolved hload
          | ok id' => exact .failed hname hentry hresolved hload
        | ok id =>
          cases r' with
          | error e' => exact .executed hname hentry hresolved hload
          | ok id' => exact .executed hname hentry hresolved hload

theorem LoadsAndExecutes.loadedFrom {s s' : Setting ω} {code : Bytes} {origin : String}
    {calls : List Executor.Call} {r : Except ModuleError Nat}
    (h : s.LoadsAndExecutes code origin calls s' r) : s'.domain.LoadedFrom s.domain := by
  cases h <;> exact ⟨rfl, rfl, rfl, rfl, rfl⟩

/-- Every operation comes to one of these. -/
theorem step (s : Setting ω) (op : Operation) :
    s.Step op (s.calls op) (s.perform op).1 (s.perform op).2 := by
  cases op with
  | load code origin => exact .load (s.loads code origin)
  | execute id => exact .execute (s.executes id)
  | loadAndExecute code origin => exact .loadAndExecute (s.loadsAndExecutes code origin)
  | registerCatalog catalog => exact .registerCatalog catalog
  | resolve name => exact .resolve (s.resolves name)
  | register change => exact .register change
  | construct call => exact .construct rfl
  | attach stage => exact .attach stage

end Setting

end ContentPlayer.Domain
