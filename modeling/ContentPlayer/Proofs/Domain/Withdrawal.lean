import ContentPlayer.Proofs.Domain.Step

namespace ContentPlayer.Domain

variable {ω : Type}

namespace Action

/-- A module was to be loaded and executed at once, and it came to an error. -/
def Fails (t : Action ω) : Prop :=
  match t.op, t.answer with
  | .loadAndExecute _ _, .loaded (.error _) => True
  | .resolve _, .resolved (.error _) => True
  | _, _ => False

/-- It fails after the executor has loaded a module, which comes behind one that has not been
executed. -/
def LeavesOver (t : Action ω) : Prop :=
  t.Fails ∧ t.before.domain.executed ≠ t.before.domain.modules.length ∧
    ∃ id code origin m, .load id code origin (.ok m) ∈ t.calls

/-- The number of the module that was loaded, if whoever asked for it got it; in resolving that is
the domain itself. -/
def gives? (t : Action ω) : Option Nat :=
  match t.answer with
  | .loaded (.ok id) => some id
  | .resolved (.ok (.executed _)) => some t.before.domain.modules.length
  | _ => none

/-- What an action can do to the modules: it leaves them alone, loads one and gives its number, or
leaves one over. Where it fails and leaves nothing over, it leaves the whole domain alone. -/
inductive Grows (t : Action ω) : Prop where
  | keeps (hmodules : t.after.domain.modules = t.before.domain.modules) (hgives : t.gives? = none)
      (hover : ¬ t.LeavesOver) (hfails : t.Fails → t.after.domain = t.before.domain)
  | gives (m : Module) (hmodules : t.after.domain.modules = t.before.domain.modules ++ [m])
      (hgives : t.gives? = some t.before.domain.modules.length) (hfails : ¬ t.Fails)
  | leavesOver (m : Module) (hdomain : t.after.domain = t.before.domain.adding m)
      (hgives : t.gives? = none) (hover : t.LeavesOver)

theorem grows_of_not_fails {t : Action ω}
    (hmodules : t.after.domain.modules = t.before.domain.modules) (hgives : t.gives? = none)
    (hfails : ¬ t.Fails) : t.Grows :=
  .keeps hmodules hgives (fun hover => hfails hover.1) fun h => (hfails h).elim

end Action

namespace Setting

variable {s s' : Setting ω} {op : Operation} {calls : List Executor.Call} {r : Answer}

/-- What loading and executing does to the modules, whichever operation asks for it. -/
theorem LoadsAndExecutes.grows_of_error {code : Bytes} {origin : String} {e : ModuleError}
    (h : s.LoadsAndExecutes code origin calls s' (.error e))
    (hfails : (⟨s, op, s', r, calls⟩ : Action ω).Fails)
    (hgives : (⟨s, op, s', r, calls⟩ : Action ω).gives? = none) :
    (⟨s, op, s', r, calls⟩ : Action ω).Grows := by
  cases h with
  | refused =>
    refine .keeps rfl hgives ?_ fun _ => rfl
    rintro ⟨_, _, id, code', origin', m, hmem⟩
    cases hmem with
    | tail _ hmem => cases hmem
  | withdrawn _ hnext =>
    refine .keeps rfl hgives ?_ fun _ => rfl
    rintro ⟨_, hover, _⟩
    exact hover hnext
  | leftOver hload hnext =>
    exact .leavesOver _ rfl hgives ⟨hfails, hnext, _, _, _, _, List.mem_singleton_self _⟩

theorem LoadsAndExecutes.modules_of_ok {code : Bytes} {origin : String} {id : Nat}
    (h : s.LoadsAndExecutes code origin calls s' (.ok id)) :
    id = s.domain.modules.length ∧ ∃ m, s'.domain.modules = s.domain.modules ++ [m] := by
  cases h with
  | executed => exact ⟨rfl, _, rfl⟩

theorem Step.grows (h : s.Step op calls s' r) : (⟨s, op, s', r, calls⟩ : Action ω).Grows := by
  cases h with
  | load h =>
    cases h with
    | refused => exact Action.grows_of_not_fails rfl rfl not_false
    | loaded => exact .gives _ rfl rfl not_false
  | execute h => cases h <;> exact Action.grows_of_not_fails rfl rfl not_false
  | @loadAndExecute code origin calls s' r h =>
    cases r with
    | error e => exact h.grows_of_error trivial rfl
    | ok id =>
      obtain ⟨rfl, m, hmodules⟩ := h.modules_of_ok
      exact .gives m hmodules rfl not_false
  | resolve h =>
    cases h with
    | failed _ _ _ hload => exact hload.grows_of_error trivial rfl
    | executed _ _ _ hload =>
      obtain ⟨_, m, hmodules⟩ := hload.modules_of_ok
      exact .gives m hmodules rfl not_false
    | _ => exact Action.grows_of_not_fails rfl rfl not_false
  | _ => exact Action.grows_of_not_fails rfl rfl not_false

end Setting

theorem adding_ne (d : Domain ω) (m : Module) : d.adding m ≠ d := by
  intro h
  have hlength := congrArg (fun d => d.modules.length) h
  simp [adding] at hlength

/-- What fails and leaves nothing over leaves no trace in the domain, and nothing else does. -/
theorem Action.Grows.domain_eq_iff {t : Action ω} (h : t.Grows) (hfails : t.Fails) :
    t.after.domain = t.before.domain ↔ ¬ t.LeavesOver := by
  cases h with
  | keeps _ _ hover hsame => simp [hover, hsame hfails]
  | gives _ _ _ hnot => exact (hnot hfails).elim
  | leavesOver m hdomain _ hover => simp [hdomain, hover, adding_ne]

theorem Action.Grows.eq_adding {t : Action ω} (h : t.Grows) (hover : t.LeavesOver) :
    ∃ m, t.after.domain = t.before.domain.adding m := by
  cases h with
  | keeps _ _ hnot => exact (hnot hover).elim
  | gives _ _ _ hnot => exact (hnot hover.1).elim
  | leavesOver m hdomain => exact ⟨m, hdomain⟩

/-- The numbers that were given are those of modules, and they are those of all modules unless
something was left over. -/
structure Given (earlier : List (Action ω)) (s : Setting ω) : Prop where
  lt_length : ∀ t ∈ earlier, ∀ i, t.gives? = some i → i < s.domain.modules.length
  all_iff : (∀ i < s.domain.modules.length, ∃ t ∈ earlier, t.gives? = some i) ↔
    ∀ t ∈ earlier, ¬ t.LeavesOver

section Given

variable {earlier : List (Action ω)} {t : Action ω}

theorem exists_gives_append (earlier : List (Action ω)) (t : Action ω) (i : Nat) :
    (∃ u ∈ earlier ++ [t], u.gives? = some i) ↔
      (∃ u ∈ earlier, u.gives? = some i) ∨ t.gives? = some i := by
  simp [or_and_right, exists_or]

variable (hbefore : Given earlier t.before)

include hbefore

theorem Given.keeps (hmodules : t.after.domain.modules = t.before.domain.modules)
    (hgives : t.gives? = none) (hover : ¬ t.LeavesOver) : Given (earlier ++ [t]) t.after where
  lt_length := by
    rw [List.forall_mem_append, List.forall_mem_singleton, hgives, hmodules]
    exact ⟨hbefore.lt_length, nofun⟩
  all_iff := by
    rw [List.forall_mem_append, List.forall_mem_singleton, hmodules]
    simpa [exists_gives_append, hgives, hover] using hbefore.all_iff

theorem Given.gives {m : Module}
    (hmodules : t.after.domain.modules = t.before.domain.modules ++ [m])
    (hgives : t.gives? = some t.before.domain.modules.length) (hover : ¬ t.LeavesOver) :
    Given (earlier ++ [t]) t.after := by
  have hlength : t.after.domain.modules.length = t.before.domain.modules.length + 1 := by
    simp [hmodules]
  constructor
  · rw [List.forall_mem_append, List.forall_mem_singleton, hgives, hlength]
    refine ⟨?_, ?_⟩
    · intro u hu i hi
      exact Nat.lt_succ_of_lt (hbefore.lt_length u hu i hi)
    · rintro i ⟨⟩
      exact Nat.lt_succ_self _
  · -- the last number is the one that is given now
    rw [List.forall_mem_append, List.forall_mem_singleton, hlength, Nat.forall_lt_succ_right,
      ← hbefore.all_iff]
    simp only [exists_gives_append, hgives, or_true, and_true, hover, not_false_eq_true]
    constructor
    · intro hall i hi
      rcases hall i hi with hearlier | hlast
      · exact hearlier
      · cases hlast
        exact (Nat.lt_irrefl _ hi).elim
    · intro hall i hi
      exact .inl (hall i hi)

theorem Given.leavesOver {m : Module} (hdomain : t.after.domain = t.before.domain.adding m)
    (hgives : t.gives? = none) (hover : t.LeavesOver) : Given (earlier ++ [t]) t.after := by
  have hlength : t.after.domain.modules.length = t.before.domain.modules.length + 1 := by
    simp [hdomain, adding]
  constructor
  · rw [List.forall_mem_append, List.forall_mem_singleton, hgives, hlength]
    refine ⟨?_, nofun⟩
    intro u hu i hi
    exact Nat.lt_succ_of_lt (hbefore.lt_length u hu i hi)
  · refine iff_of_false ?_ ?_
    · -- nobody was given the number of the module that is left over
      intro hall
      have hlast := hall t.before.domain.modules.length (by omega)
      rw [exists_gives_append, hgives] at hlast
      rcases hlast with ⟨u, hu, hui⟩ | hnow
      · exact Nat.lt_irrefl _ (hbefore.lt_length u hu _ hui)
      · cases hnow
    · intro hnone
      exact hnone t (by simp) hover

theorem Action.Grows.given (h : t.Grows) : Given (earlier ++ [t]) t.after := by
  cases h with
  | keeps hmodules hgives hover => exact hbefore.keeps hmodules hgives hover
  | gives m hmodules hgives hfails =>
    exact hbefore.gives hmodules hgives fun hover => hfails hover.1
  | leavesOver m hdomain hgives hover => exact hbefore.leavesOver hdomain hgives hover

end Given

namespace Setting

theorem run_given (w : ω) (x : Executor ω) (version : UInt8) (ops : List Operation) :
    Given ((fresh w x version).acts ops) ((fresh w x version).run ops) := by
  refine run_induction (P := Given) ⟨by simp, by simp [fresh]⟩ ?_ ops
  intro earlier s op hs
  exact (s.step op).grows.given hs

/-- A module that cannot be executed is withdrawn, and the domain is what it was, exactly where it
does not come behind a module that has not been executed; there it stays. So in every run all
modules are such whose numbers were given, and which can be executed in their turn, exactly if none
was left over. -/
theorem failed_load_withdrawn_iff (w : ω) (x : Executor ω) (version : UInt8)
    (front : List Operation) (op : Operation) :
    let s := (fresh w x version).run front
    let t := s.act op
    (t.Fails → (t.after.domain = s.domain ↔ ¬ t.LeavesOver)) ∧
      (t.LeavesOver → ∃ m, t.after.domain = s.domain.adding m) ∧
      ((∀ i < s.domain.modules.length, ∃ u ∈ (fresh w x version).acts front, u.gives? = some i) ↔
        ∀ u ∈ (fresh w x version).acts front, ¬ u.LeavesOver) := by
  intro s t
  have hgrows := (s.step op).grows
  exact ⟨hgrows.domain_eq_iff, hgrows.eq_adding, (run_given w x version front).all_iff⟩

/-- Behind a module that waits, one that is to be executed at once fails and stays, and modules that
are loaded later cannot be executed when it is their turn. -/
theorem left_over_behind_waiting :
    let s := (fresh [] .planned 10).run [.load [97] "a"]
    let t := s.act (.loadAndExecute [98] "b")
    t.Fails ∧ s.domain.modules = [⟨0, "a", [97]⟩] ∧
      t.after.domain.modules = [⟨0, "a", [97]⟩, ⟨1, "b", [98]⟩] ∧
      ((t.after.run [.execute 0, .load [99] "c"]).act (.execute 2)).answer =
        .executed (.error (.outOfOrder "c" 1 2)) :=
  ⟨trivial, rfl, rfl, rfl⟩

end Setting

end ContentPlayer.Domain
