import ContentPlayer.Domain.Basic

namespace ContentPlayer.Domain

variable {ω : Type}

/-- A module that is loaded is executed next where all before it have been, and is gone again if
that fails. Behind a module that has not been executed it is an error, and stays. -/
theorem loadAndExecute_eq (w : ω) (d : Domain ω) (code : Bytes) (origin : String) :
    d.loadAndExecute w code origin =
      match d.executor.load w d.modules.length code origin with
      | (w, .error e) => (w, d, .error e)
      | (w, .ok m) =>
        if d.executed = d.modules.length then
          match d.executor.execute w m with
          | (w, .error e) => (w, d, .error e)
          | (w, .ok ()) =>
            (w, { d with modules := d.modules ++ [m], executed := d.executed + 1 },
              .ok d.modules.length)
        else
          (w, { d with modules := d.modules ++ [m] },
            .error (.outOfOrder m.origin d.executed d.modules.length)) := by
  unfold loadAndExecute loadModule
  cases hload : d.executor.load w d.modules.length code origin with
  | mk w₁ loaded =>
    cases loaded with
    | error e => rfl
    | ok m =>
      have hget : (d.modules ++ [m])[d.modules.length]? = some m := by simp
      by_cases hnext : d.executed = d.modules.length
      · have hid : ¬ d.modules.length ≠ d.executed := by simp [hnext]
        simp only [executeModule, hget, if_neg hid, if_pos hnext]
        cases hexecute : d.executor.execute w₁ m with
        | mk w₂ executed =>
          cases executed with
          | error e => simp [withdrawLast, hnext.symm]
          | ok u => rfl
      · have hid : d.modules.length ≠ d.executed := Ne.symm hnext
        simp [executeModule, withdrawLast, hid, hnext]

/-- Where every module has been executed, the new one is executed next: it stays if both calls of
the executor succeed, and is gone again otherwise. -/
theorem loadAndExecute_of_executed (w : ω) (d : Domain ω) (code : Bytes) (origin : String)
    (hd : d.executed = d.modules.length) :
    d.loadAndExecute w code origin =
      match d.executor.load w d.modules.length code origin with
      | (w, .error e) => (w, d, .error e)
      | (w, .ok m) =>
        match d.executor.execute w m with
        | (w, .error e) => (w, d, .error e)
        | (w, .ok ()) =>
          (w, { d with modules := d.modules ++ [m], executed := d.executed + 1 },
            .ok d.modules.length) := by
  simp only [loadAndExecute_eq, if_pos hd]

theorem eq_of_loadAndExecute_ok {w w' : ω} {d d' : Domain ω} {code : Bytes} {origin : String}
    {id : Nat} (hd : d.executed = d.modules.length)
    (hload : d.loadAndExecute w code origin = (w', d', .ok id)) :
    ∃ m, d' = { d with modules := d.modules ++ [m], executed := d.executed + 1 } := by
  rw [loadAndExecute_of_executed _ _ _ _ hd] at hload
  split at hload
  next => simp at hload
  next m _ =>
    split at hload
    next => simp at hload
    next => exact ⟨m, (congrArg (fun r => r.2.1) hload).symm⟩

section Resolve

variable (w : ω) {d : Domain ω} {name entry : String} {i : Nat} {code : Bytes}

theorem resolve_of_registered (hname : d.registries.definitions.contains name = true) :
    d.resolve w name = (w, d, .ok .registered) := by
  rw [resolve, if_pos hname]

variable (hname : d.registries.definitions.contains name = false)

include hname

theorem resolve_of_no_entry (hentry : d.catalogEntry? name = none) :
    d.resolve w name = (w, d, .ok .notFound) := by
  rw [resolve, if_neg (by simp [hname]), hentry]

theorem resolve_of_resolved (hentry : d.catalogEntry? name = some (i, entry, code))
    (hresolved : i ∈ d.resolved) : d.resolve w name = (w, d, .ok (.alreadyLoaded entry)) := by
  simp [resolve, hname, hentry, hresolved]

theorem resolve_of_unresolved (hentry : d.catalogEntry? name = some (i, entry, code))
    (hresolved : i ∉ d.resolved) :
    d.resolve w name =
      match d.loadAndExecute w code entry with
      | (w, d, .ok _) => (w, { d with resolved := i :: d.resolved }, .ok (.executed entry))
      | (w, d, .error e) => (w, d, .error e) := by
  have hcontains : ¬ d.resolved.contains i = true := by simpa using hresolved
  rw [resolve, if_neg (by simp [hname]), hentry]
  exact if_neg hcontains

end Resolve

end ContentPlayer.Domain
