import ContentPlayer.Proofs.Cancel.Use
import Mathlib.Data.List.Induction

namespace ContentPlayer.CancelGroup

/-- A new handle and its first token, after some operations. -/
def after (ops : List Op) : CancelGroup := ops.foldl act {}

/-- Somebody would hear of it if the handle were used now. -/
def Heard (g : CancelGroup) : Prop := g.handle = true ∧ .linked ∈ g.tokens

theorem after_concat (ops : List Op) (op : Op) : after (ops ++ [op]) = (after ops).act op := by
  simp [after]

theorem raised_act_iff (g : CancelGroup) (op : Op) :
    (g.act op).raised = true ↔ g.raised = true ∨ op = .cancel ∧ g.Heard := by
  cases op with
  | cancel =>
    simp only [act, cancel]
    split
    next h => simp_all [Heard]
    next h => simp_all [Heard]
  | newToken =>
    have hraised : (g.act .newToken).raised = g.raised := by
      simp only [act, newToken]
      split <;> rfl
    simp [hraised]
  | clone token =>
    have hraised : (g.act (.clone token)).raised = g.raised := by
      simp only [act, clone]
      split <;> rfl
    simp [hraised]
  | dropHandle => simp [act, dropHandle]
  | dropToken token => simp [act, dropToken]

/-- Only a use of the handle that somebody hears of is kept. -/
theorem raised_after_iff (ops : List Op) :
    (after ops).raised = true ↔
      ∃ front rest, ops = front ++ .cancel :: rest ∧ (after front).Heard := by
  -- the last operation is the one that is heard of, or it comes after that one
  induction ops using List.reverseRecOn with
  | nil => simp [after]
  | append_singleton ops op ih =>
    rw [after_concat, raised_act_iff, ih]
    constructor
    · rintro (⟨front, rest, rfl, hheard⟩ | ⟨rfl, hheard⟩)
      · exact ⟨front, rest ++ [op], by simp, hheard⟩
      · exact ⟨ops, [], rfl, hheard⟩
    · rintro ⟨front, rest, hops, hheard⟩
      rcases List.eq_nil_or_concat rest with rfl | ⟨rest, last, rfl⟩
      · obtain ⟨rfl, hop⟩ := List.append_inj' hops rfl
        exact .inr ⟨List.singleton_inj.mp hop, hheard⟩
      · have hsplit : ops ++ [op] = (front ++ .cancel :: rest) ++ [last] := by simpa using hops
        obtain ⟨rfl, -⟩ := List.append_inj' hsplit rfl
        exact .inl ⟨front, rest, rfl, hheard⟩

/-- A token reports a cancellation from the first use of the handle on that somebody heard of,
whenever the token was made, and before that none does. -/
theorem isCancelled_after_iff (ops : List Op) (token : Nat) :
    (after ops).isCancelled token = true ↔
      (after ops).tokens[token]? = some .linked ∧
        ∃ front rest, ops = front ++ .cancel :: rest ∧ (after front).Heard := by
  rw [isCancelled_eq_true, raised_after_iff]

/-- A use of the handle that nobody hears of is lost: a later token knows nothing of it. -/
theorem lost_without_token :
    let g := after [.dropToken 0, .cancel, .newToken]
    g.tokens[1]? = some .linked ∧ g.isCancelled 1 = false := by
  decide

end ContentPlayer.CancelGroup
