import ContentPlayer.Proofs.Domain.Order
import ContentPlayer.Proofs.Domain.Withdrawal

namespace ContentPlayer

variable {ω : Type}

/-- The module that a call has loaded. -/
def Executor.Call.loaded? : Executor.Call → Option Module
  | .load _ _ _ (.ok m) => some m
  | _ => none

namespace Domain

/-- The code that an operation is to load, and where it comes from. -/
def Setting.source? (s : Setting ω) : Operation → Option (Bytes × String)
  | .load code origin => some (code, origin)
  | .loadAndExecute code origin => some (code, origin)
  | .resolve name => (s.domain.catalogEntry? name).map fun (_, entry, code) => (code, entry)
  | _ => none

namespace Action

/-- The modules that were loaded. -/
def loaded (t : Action ω) : List Module := t.calls.filterMap Executor.Call.loaded?

/-- The module that was built under a number from what the operation was to load. -/
def Builds (t : Action ω) (id : Nat) (m : Module) : Prop :=
  ∃ code origin, t.before.source? t.op = some (code, origin) ∧
    .load id code origin (.ok m) ∈ t.calls

/-- All that was loaded is behind the modules that were there, and nothing else has changed in
their list. -/
def Appends (t : Action ω) : Prop :=
  t.after.domain.modules = t.before.domain.modules ++ t.loaded

/-- The one module that was loaded is gone again: it was put behind the others and was to be
executed at once, and that failed. -/
structure Withdraws (t : Action ω) : Prop where
  fails : t.Fails
  loaded : ∃ m, t.loaded = [m] ∧
    (t.before.executing t.op).modules = t.before.domain.modules ++ [m]
  modules_eq : t.after.domain.modules = t.before.domain.modules

/-- A number that is given is that of the next place, and what was built under it is there. -/
def GivesNext (t : Action ω) : Prop :=
  ∀ id, t.gives? = some id → id = t.before.domain.modules.length ∧
    ∃ m, t.Builds id m ∧ t.after.domain.modules = t.before.domain.modules ++ [m]

/-- Whatever was there before an action is there after it. -/
theorem getElem?_after {t : Action ω} (h : t.Appends ∨ t.Withdraws) {i : Nat} {m : Module}
    (hm : t.before.domain.modules[i]? = some m) : t.after.domain.modules[i]? = some m := by
  obtain happends | hwithdraws := h
  · obtain ⟨hlt, -⟩ := List.getElem?_eq_some_iff.mp hm
    rw [happends, List.getElem?_append_left hlt]
    exact hm
  · rw [hwithdraws.modules_eq]
    exact hm

theorem givesNext_of_none {t : Action ω} (h : t.gives? = none) : t.GivesNext := by
  intro id hid
  rw [h] at hid
  cases hid

end Action

namespace Setting

variable {s s' : Setting ω} {op : Operation} {calls : List Executor.Call} {r : Answer}

section LoadsAndExecutes

variable {code : Bytes} {origin : String}

/-- Where loading and executing fails, the module stays behind the others or is gone again. -/
theorem LoadsAndExecutes.appends_or_withdraws {e : ModuleError}
    (h : s.LoadsAndExecutes code origin calls s' (.error e))
    (hfails : (⟨s, op, s', r, calls⟩ : Action ω).Fails)
    (hexecuting : s.executing op = (s.domain.loadModule s.outside code origin).2.1) :
    (⟨s, op, s', r, calls⟩ : Action ω).Appends ∨ (⟨s, op, s', r, calls⟩ : Action ω).Withdraws := by
  cases h with
  | refused =>
    refine .inl ?_
    simp [Action.Appends, Action.loaded, Executor.Call.loaded?]
  | @withdrawn _ _ m _ hload =>
    refine .inr ⟨hfails, ⟨m, rfl, ?_⟩, rfl⟩
    rw [hexecuting, loadModule, hload]
  | leftOver => exact .inl rfl

theorem LoadsAndExecutes.loaded_of_ok {id : Nat}
    (h : s.LoadsAndExecutes code origin calls s' (.ok id)) :
    id = s.domain.modules.length ∧ ∃ m, .load id code origin (.ok m) ∈ calls ∧
      calls.filterMap Executor.Call.loaded? = [m] ∧
      s'.domain.modules = s.domain.modules ++ [m] := by
  cases h with
  | @executed _ _ m => exact ⟨rfl, m, List.mem_cons_self, rfl, rfl⟩

end LoadsAndExecutes

theorem Step.appends_or_withdraws (h : s.Step op calls s' r) :
    (⟨s, op, s', r, calls⟩ : Action ω).Appends ∨ (⟨s, op, s', r, calls⟩ : Action ω).Withdraws := by
  have hsame (hmodules : s'.domain.modules = s.domain.modules)
      (hloaded : calls.filterMap Executor.Call.loaded? = []) :
      (⟨s, op, s', r, calls⟩ : Action ω).Appends := by
    rw [Action.Appends, Action.loaded, hloaded, List.append_nil]
    exact hmodules
  cases h with
  | load h =>
    cases h with
    | refused => exact .inl (hsame rfl rfl)
    | loaded => exact .inl rfl
  | execute h => cases h <;> exact .inl (hsame rfl rfl)
  | @loadAndExecute code origin calls s' r h =>
    cases r with
    | error e => exact h.appends_or_withdraws trivial rfl
    | ok id =>
      obtain ⟨-, m, -, hloaded, hmodules⟩ := h.loaded_of_ok
      exact .inl (hmodules.trans (congrArg _ hloaded.symm))
  | resolve h =>
    cases h with
    | failed _ hentry _ hload =>
      refine hload.appends_or_withdraws trivial ?_
      rw [executing, hentry]
    | executed _ _ _ hload =>
      obtain ⟨-, m, -, hloaded, hmodules⟩ := hload.loaded_of_ok
      exact .inl (hmodules.trans (congrArg _ hloaded.symm))
    | _ => exact .inl (hsame rfl rfl)
  | _ => exact .inl (hsame rfl rfl)

theorem Step.givesNext (h : s.Step op calls s' r) :
    (⟨s, op, s', r, calls⟩ : Action ω).GivesNext := by
  cases h with
  | load h =>
    cases h with
    | refused => exact Action.givesNext_of_none rfl
    | @loaded _ m =>
      rintro id ⟨⟩
      exact ⟨rfl, m, ⟨_, _, rfl, List.mem_singleton_self _⟩, rfl⟩
  | execute h => cases h <;> exact Action.givesNext_of_none rfl
  | @loadAndExecute code origin calls s' r h =>
    cases r with
    | error e => exact Action.givesNext_of_none rfl
    | ok id =>
      obtain ⟨rfl, m, hmem, -, hmodules⟩ := h.loaded_of_ok
      rintro id ⟨⟩
      exact ⟨rfl, m, ⟨code, origin, rfl, hmem⟩, hmodules⟩
  | resolve h =>
    cases h with
    | @executed i entry code _ _ id _ hentry _ hload =>
      obtain ⟨rfl, m, hmem, -, hmodules⟩ := hload.loaded_of_ok
      rintro id ⟨⟩
      refine ⟨rfl, m, ⟨code, entry, ?_, hmem⟩, hmodules⟩
      simp [source?, hentry]
    | _ => exact Action.givesNext_of_none rfl
  | _ => exact Action.givesNext_of_none rfl

end Setting

/-- The numbers that were given grow from one to the next, and what was built under each is in its
place. No action has taken a module away but the one that it had loaded itself. -/
structure Numbered (earlier : List (Action ω)) (d : Domain ω) : Prop where
  increasing : (earlier.filterMap Action.gives?).Pairwise (· < ·)
  stays : ∀ t ∈ earlier, ∀ id, t.gives? = some id → ∃ m, t.Builds id m ∧ d.modules[id]? = some m
  only : ∀ t ∈ earlier, t.Appends ∨ t.Withdraws

section Numbered

variable {earlier : List (Action ω)} {d : Domain ω}

theorem Numbered.lt_length (hd : Numbered earlier d) {id : Nat}
    (hid : id ∈ earlier.filterMap Action.gives?) : id < d.modules.length := by
  obtain ⟨t, ht, hgives⟩ := List.mem_filterMap.mp hid
  obtain ⟨m, -, hm⟩ := hd.stays t ht id hgives
  exact (List.getElem?_eq_some_iff.mp hm).1

theorem Numbered.act {t : Action ω} (hbefore : Numbered earlier t.before.domain)
    (honly : t.Appends ∨ t.Withdraws) (hnext : t.GivesNext) :
    Numbered (earlier ++ [t]) t.after.domain where
  increasing := by
    rw [List.filterMap_append, List.pairwise_append]
    refine ⟨hbefore.increasing, ?_, ?_⟩
    · cases hgives : t.gives? <;> simp [hgives]
    · -- whatever was given before is the number of a module, and the next is not
      intro id hid next hmem
      have hgives : t.gives? = some next := by simpa [Option.mem_toList] using hmem
      rw [(hnext next hgives).1]
      exact hbefore.lt_length hid
  stays := by
    rw [List.forall_mem_append, List.forall_mem_singleton]
    refine ⟨?_, ?_⟩
    · intro u hu id hid
      obtain ⟨m, hbuilds, hm⟩ := hbefore.stays u hu id hid
      exact ⟨m, hbuilds, Action.getElem?_after honly hm⟩
    · intro id hid
      obtain ⟨rfl, m, hbuilds, hmodules⟩ := hnext id hid
      exact ⟨m, hbuilds, by simp [hmodules]⟩
  only := by
    rw [List.forall_mem_append, List.forall_mem_singleton]
    exact ⟨hbefore.only, honly⟩

end Numbered

namespace Setting

/-- A number that was given for a module stays that module's number. The numbers grow in the order
in which they are given, and at any later time the module that was built for each is still in its
place; for a module is taken away only by the call that has just loaded it, when that fails. -/
theorem numbers_stay_valid (w : ω) (x : Executor ω) (version : UInt8) (ops : List Operation) :
    let s := (fresh w x version).run ops
    let earlier := (fresh w x version).acts ops
    (earlier.filterMap Action.gives?).Pairwise (· < ·) ∧
    (∀ t ∈ earlier, ∀ id, t.gives? = some id →
      ∃ m, t.Builds id m ∧ s.domain.modules[id]? = some m) ∧
    ∀ t ∈ earlier, t.Appends ∨ t.Withdraws := by
  intro s earlier
  have hnew : Numbered [] (fresh w x version).domain :=
    ⟨List.Pairwise.nil, fun _ ht => (nomatch ht), fun _ ht => (nomatch ht)⟩
  have hrun : Numbered earlier s.domain := by
    refine run_induction (P := fun earlier s => Numbered earlier s.domain) hnew ?_ ops
    intro earlier s op hs
    have hstep := s.step op
    exact Numbered.act (t := s.act op) hs hstep.appends_or_withdraws hstep.givesNext
  exact ⟨hrun.increasing, hrun.stays, hrun.only⟩

/-- The number of a module that failed is given again, for another module; one that failed behind a
module that waits keeps its place, and no number is given for it. -/
example :
    ((fresh [false, true] .planned 10).acts
      [.loadAndExecute [97] "a", .load [98] "b", .loadAndExecute [99] "c", .load [100] "d",
        .execute 0]).filterMap Action.gives? = [0, 2] := rfl

end Setting

end Domain

end ContentPlayer
