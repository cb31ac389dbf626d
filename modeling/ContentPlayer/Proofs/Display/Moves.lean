import ContentPlayer.Proofs.Display.Forest

namespace ContentPlayer.DisplayTree

/-- The object whose place an edit is about. -/
def Edit.moved? : Edit → Option NodeId
  | .addChild _ child => some child
  | .detach child => some child
  | _ => none

section Unmoved

variable {t : DisplayTree} {c : NodeId}

theorem size_le_edit (t : DisplayTree) (e : Edit) : t.size ≤ (t.edit e).size := by
  cases e with
  | spawn name frames => exact (t.extends_spawn name frames).size_le
  | instantiate template => exact (t.extends_instantiate template).1.size_le
  | addChild parent child => exact Nat.le_of_eq (t.size_addChild parent child).symm
  | detach child => exact Nat.le_of_eq (t.size_detach child).symm

/-- An object stays where it is under every edit that is about others. -/
theorem parent_edit_of_unmoved (hc : c < t.size) {e : Edit} (he : e.moved? ≠ some c) :
    (t.edit e).parent c = t.parent c := by
  cases e with
  | spawn name frames => exact t.parent_spawn name frames c
  | instantiate template => exact (t.extends_instantiate template).1.parent_eq c hc
  | addChild parent child =>
    have hne : c ≠ child := by
      rintro rfl
      exact he rfl
    by_cases haccepted : parent ≠ child ∧ parent < t.size ∧ child < t.size
    · obtain ⟨hpc, hp, hchild⟩ := haccepted
      rw [edit, parent_addChild hpc hp hchild, if_neg hne]
    · rw [edit, addChild_refused haccepted]
  | detach child =>
    have hne : c ≠ child := by
      rintro rfl
      exact he rfl
    rw [edit, parent_detach, if_neg hne]

theorem parent_editAll_of_unmoved (hc : c < t.size) {edits : List Edit}
    (hedits : ∀ e ∈ edits, e.moved? ≠ some c) : (t.editAll edits).parent c = t.parent c := by
  induction edits generalizing t with
  | nil => rfl
  | cons e rest ih =>
    have hkept := parent_edit_of_unmoved hc (hedits e (by simp))
    have hrest := ih (Nat.lt_of_lt_of_le hc (t.size_le_edit e)) fun u hu => hedits u (by simp [hu])
    exact hrest.trans hkept

/-- The last edit about an object decides where it is. -/
theorem parent_editAll_of_last {front rest : List Edit} {e : Edit}
    (hc : c < (t.editAll front).size) (hrest : ∀ u ∈ rest, u.moved? ≠ some c) :
    (t.editAll (front ++ e :: rest)).parent c = ((t.editAll front).edit e).parent c := by
  have hlt := Nat.lt_of_lt_of_le hc ((t.editAll front).size_le_edit e)
  rw [editAll_append]
  exact parent_editAll_of_unmoved hlt hrest

end Unmoved

/-- However a tree is edited, an object is among the children of its parent, there once and nowhere
else, and both are there. Its parent is what it was put into last, or none where it was taken
out. -/
theorem links_agree (edits : List Edit) :
    let t := editAll {} edits
    (∀ p c, t.parent c = some p ↔ c ∈ t.children p) ∧
    (∀ p, (t.children p).Nodup) ∧
    (∀ p q c, c ∈ t.children p → c ∈ t.children q → p = q) ∧
    (∀ p c, t.parent c = some p → t.contains p = true ∧ t.contains c = true) ∧
    ∀ front rest c, (editAll {} front).contains c = true → (∀ u ∈ rest, u.moved? ≠ some c) →
      (∀ p, edits = front ++ .addChild p c :: rest → p ≠ c → (editAll {} front).contains p = true →
        t.parent c = some p) ∧
      (edits = front ++ .detach c :: rest → t.parent c = none) := by
  intro t
  have ht : t.Linked := linked_empty.editAll edits
  refine ⟨fun p c => (ht.mem_children p c).symm, ht.nodup, ?_, ?_, ?_⟩
  · intro p q c hp hq
    rw [ht.mem_children] at hp hq
    exact Option.some.inj (hp.symm.trans hq)
  · intro p c hparent
    exact ⟨contains_iff.mpr (ht.lt_size hparent), contains_iff.mpr (lt_size_of_parent hparent)⟩
  · intro front rest c hc hrest
    rw [contains_iff] at hc
    constructor
    · intro p hedits hpc hp
      rw [contains_iff] at hp
      have hlast := parent_editAll_of_last (t := {}) (e := .addChild p c) hc hrest
      rw [← hedits, edit, parent_addChild hpc hp hc, if_pos rfl] at hlast
      exact hlast
    · intro hedits
      have hlast := parent_editAll_of_last (t := {}) (e := .detach c) hc hrest
      rw [← hedits, edit, parent_detach, if_pos rfl] at hlast
      exact hlast

/-- A child that is added again comes last; one that is added elsewhere is gone from its place. -/
example :
    let t := editAll {} [.instantiate ⟨"a", 1, none, [⟨"b", 1, none, []⟩, ⟨"c", 1, none, []⟩]⟩,
      .addChild 0 1]
    t.children 0 = [2, 1] ∧ (t.edit (.addChild 1 2)).children 0 = [1] := by
  decide

end ContentPlayer.DisplayTree
