import ContentPlayer.Cancel

namespace ContentPlayer.CancelGroup

/-- What can be done with a handle and its tokens. -/
inductive Op where
  | cancel
  | newToken
  | clone (token : Nat)
  | dropHandle
  | dropToken (token : Nat)
  deriving DecidableEq, Repr

/-- A group after an operation. One that is not possible changes nothing. -/
def act (g : CancelGroup) : Op → CancelGroup
  | .cancel => g.cancel
  | .newToken => g.newToken.elim g Prod.fst
  | .clone token => (g.clone token).elim g Prod.fst
  | .dropHandle => g.dropHandle
  | .dropToken token => g.dropToken token

variable {g g' g'' : CancelGroup} {token : Nat}

theorem isCancelled_eq_true :
    g.isCancelled token = true ↔ g.tokens[token]? = some .linked ∧ g.raised = true := by
  unfold isCancelled
  split <;> simp_all

theorem isCancelled_addToken (hcancelled : g.isCancelled token = true) (t : CancelToken) :
    (g.addToken t).1.isCancelled token = true := by
  obtain ⟨htoken, hraised⟩ := isCancelled_eq_true.mp hcancelled
  refine isCancelled_eq_true.mpr ⟨?_, hraised⟩
  obtain ⟨hlt, -⟩ := List.getElem?_eq_some_iff.mp htoken
  rw [addToken, List.getElem?_append_left hlt, htoken]

theorem isCancelled_act (hcancelled : g.isCancelled token = true) {op : Op}
    (hop : op ≠ .dropToken token) : (g.act op).isCancelled token = true := by
  obtain ⟨htoken, hraised⟩ := isCancelled_eq_true.mp hcancelled
  cases op with
  | cancel =>
    simp only [act, cancel]
    split
    · exact isCancelled_eq_true.mpr ⟨htoken, rfl⟩
    · exact hcancelled
  | newToken =>
    simp only [act, newToken]
    split
    · exact isCancelled_addToken hcancelled _
    · exact hcancelled
  | clone other =>
    simp only [act, clone]
    split
    next => exact hcancelled
    next => exact hcancelled
    next => exact isCancelled_addToken hcancelled _
  | dropHandle => exact isCancelled_eq_true.mpr ⟨htoken, hraised⟩
  | dropToken other =>
    have hne : other ≠ token := fun heq => hop (heq ▸ rfl)
    exact isCancelled_eq_true.mpr ⟨by simp [act, dropToken, hne, htoken], hraised⟩

/-- What can become of a group while one of its tokens is kept. -/
def Becomes (token : Nat) (g g' : CancelGroup) : Prop :=
  ∃ ops : List Op, .dropToken token ∉ ops ∧ g' = ops.foldl act g

theorem Becomes.refl (token : Nat) (g : CancelGroup) : Becomes token g g :=
  ⟨[], by simp, rfl⟩

theorem Becomes.trans (h : Becomes token g g') (h' : Becomes token g' g'') :
    Becomes token g g'' := by
  obtain ⟨ops, hops, rfl⟩ := h
  obtain ⟨ops', hops', rfl⟩ := h'
  exact ⟨ops ++ ops', by simp [hops, hops'], by simp⟩

theorem becomes_cancel (token : Nat) (g : CancelGroup) : Becomes token g g.cancel :=
  ⟨[.cancel], by simp, rfl⟩

/-- A token that is cancelled stays so. -/
theorem Becomes.isCancelled (h : Becomes token g g') (hcancelled : g.isCancelled token = true) :
    g'.isCancelled token = true := by
  obtain ⟨ops, hops, rfl⟩ := h
  induction ops generalizing g with
  | nil => exact hcancelled
  | cons op rest ih =>
    obtain ⟨hop, hrest⟩ := List.ne_and_not_mem_of_not_mem_cons hops
    exact ih (isCancelled_act hcancelled hop.symm) hrest

end ContentPlayer.CancelGroup
