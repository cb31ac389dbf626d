import ContentPlayer.Proofs.Display.Links
import Mathlib.Logic.Relation
import Mathlib.Data.List.Induction

open Relation

namespace ContentPlayer.DisplayTree

def ChildOf (t : DisplayTree) (c p : NodeId) : Prop := t.parent c = some p

/-- An object is inside its parent, and inside what that is inside of. -/
def Inside (t : DisplayTree) : NodeId → NodeId → Prop := TransGen t.ChildOf

/-- An object is within itself and what it is inside of. -/
def Within (t : DisplayTree) : NodeId → NodeId → Prop := ReflTransGen t.ChildOf

theorem not_inside_of_parent_eq_none {t : DisplayTree} {c p : NodeId} (hc : t.parent c = none) :
    ¬ t.Inside c p := by
  intro hinside
  obtain ⟨q, hq, -⟩ := TransGen.head'_iff.mp hinside
  cases hc.symm.trans hq

/-- Nothing is inside itself. -/
def Forest (t : DisplayTree) : Prop := ∀ id, ¬ t.Inside id id

theorem Forest.mono {t t' : DisplayTree} (ht : t.Forest)
    (hparent : ∀ k p, t'.parent k = some p → t.parent k = some p) : t'.Forest := by
  intro id hid
  exact ht id (TransGen.mono hparent _ _ hid)

theorem SameLinks.inside_eq {t t' : DisplayTree} (h : t.SameLinks t') : t'.Inside = t.Inside := by
  have hchild : t'.ChildOf = t.ChildOf := by
    funext c p
    rw [ChildOf, ChildOf, h.parent_eq]
  rw [Inside, Inside, hchild]

theorem SameLinks.forest {t t' : DisplayTree} (h : t.SameLinks t') (ht : t.Forest) : t'.Forest :=
  fun id hid => ht id (by rwa [h.inside_eq] at hid)

theorem forest_empty : ({} : DisplayTree).Forest :=
  fun _ => not_inside_of_parent_eq_none rfl

theorem Linked.lt_size_of_inside {t : DisplayTree} (ht : t.Linked) {x y : NodeId}
    (h : t.Inside x y) : x < t.size ∧ y < t.size := by
  obtain ⟨b, hxb, _⟩ := TransGen.head'_iff.mp h
  obtain ⟨b', _, hby⟩ := TransGen.tail'_iff.mp h
  exact ⟨lt_size_of_parent hxb, ht.lt_size hby⟩

section Rewire

/-! A tree and another, in which one object has a new parent. -/

variable {t t' : DisplayTree} {p c : NodeId}
  (hparent : ∀ k, t'.parent k = if k = c then some p else t.parent k)

include hparent

/-- A way up in the new tree is one in the old, or comes past the object that was moved. -/
theorem within_of_rewired {x y : NodeId} (h : t'.Within x y) : t.Within x y ∨ t.Within x c := by
  induction h using ReflTransGen.head_induction_on with
  | refl => exact .inl .refl
  | @head x z hxz _ ih =>
    by_cases hx : x = c
    · rw [hx]
      exact .inr .refl
    · have hold : t.ChildOf x z := by
        rw [ChildOf, hparent, if_neg hx] at hxz
        exact hxz
      rcases ih with hzy | hzc
      · exact .inl (.head hold hzy)
      · exact .inr (.head hold hzc)

theorem inside_of_rewired {x y : NodeId} (h : t'.Inside x y) :
    t.Inside x y ∨ (t.Within x c ∧ t'.Within p y) := by
  induction h using TransGen.head_induction_on with
  | @single x hxy =>
    by_cases hx : x = c
    · rw [ChildOf, hparent, if_pos hx] at hxy
      cases hxy
      rw [hx]
      exact .inr ⟨.refl, .refl⟩
    · rw [ChildOf, hparent, if_neg hx] at hxy
      exact .inl (.single hxy)
  | @head x z hxz hzy ih =>
    by_cases hx : x = c
    · rw [ChildOf, hparent, if_pos hx] at hxz
      cases hxz
      rw [hx]
      exact .inr ⟨.refl, hzy.to_reflTransGen⟩
    · rw [ChildOf, hparent, if_neg hx] at hxz
      rcases ih with hold | ⟨hzc, hpy⟩
      · exact .inl (.head hxz hold)
      · exact .inr ⟨.head hxz hzc, hpy⟩

theorem within_rewired {x : NodeId} (h : t.Within x c) : t'.Within x c := by
  induction h using ReflTransGen.head_induction_on with
  | refl => exact .refl
  | @head x z hxz _ ih =>
    by_cases hx : x = c
    · rw [hx]
      exact .refl
    · refine .head ?_ ih
      rw [ChildOf, hparent, if_neg hx]
      exact hxz

/-- A move keeps a forest exactly when the new parent is not within what is moved. -/
theorem forest_rewired_iff (ht : t.Forest) : t'.Forest ↔ ¬ t.Within p c := by
  constructor
  · intro ht' hpc
    have hcp : t'.ChildOf c p := by rw [ChildOf, hparent, if_pos rfl]
    exact ht' c (.head' hcp (within_rewired hparent hpc))
  · intro hpc id hid
    rcases inside_of_rewired hparent hid with hold | ⟨hidc, hpid⟩
    · exact ht id hold
    · rcases within_of_rewired hparent hpid with hold | hold
      · exact hpc (hold.trans hidc)
      · exact hpc hold

end Rewire

/-- Putting an object into a parent keeps a forest exactly when the parent is not inside it. -/
theorem forest_addChild_iff {t : DisplayTree} (ht : t.Linked) (hforest : t.Forest) (p c : NodeId) :
    (t.addChild p c).1.Forest ↔ ¬ t.Inside p c := by
  by_cases h : p ≠ c ∧ p < t.size ∧ c < t.size
  · obtain ⟨hpc, hp, hc⟩ := h
    rw [forest_rewired_iff (parent_addChild hpc hp hc) hforest]
    constructor
    · intro hwithin hinside
      exact hwithin hinside.to_reflTransGen
    · intro hinside hwithin
      rcases reflTransGen_iff_eq_or_transGen.mp hwithin with heq | htrans
      · exact hpc heq.symm
      · exact hinside htrans
  · rw [addChild_refused h]
    constructor
    · intro _ hinside
      by_cases hpc : p = c
      · rw [hpc] at hinside
        exact hforest c hinside
      · exact h ⟨hpc, ht.lt_size_of_inside hinside⟩
    · intro _
      exact hforest

/-- What was there is where it was, and what is new comes behind it. -/
structure Extends (t t' : DisplayTree) : Prop where
  size_le : t.size ≤ t'.size
  parent_eq : ∀ k < t.size, t'.parent k = t.parent k

theorem Extends.refl (t : DisplayTree) : t.Extends t := ⟨Nat.le_refl _, fun _ _ => rfl⟩

theorem Extends.trans {a b c : DisplayTree} (hab : a.Extends b) (hbc : b.Extends c) :
    a.Extends c where
  size_le := Nat.le_trans hab.size_le hbc.size_le
  parent_eq := by
    intro k hk
    have hk' := hab.size_le
    rw [hbc.parent_eq k (by omega), hab.parent_eq k hk]

theorem Extends.lt_size_of_within {t t' : DisplayTree} (h : t.Extends t') (ht : t.Linked)
    {x y : NodeId} (hx : x < t.size) (hxy : t'.Within x y) : y < t.size := by
  induction hxy with
  | refl => exact hx
  | tail _ hbc ih =>
    rw [ChildOf, h.parent_eq _ ih] at hbc
    exact ht.lt_size hbc

theorem Extends.addChild {t t' : DisplayTree} (h : t.Extends t') {p c : NodeId}
    (hc : t.size ≤ c) : t.Extends (t'.addChild p c).1 := by
  by_cases haccepted : p ≠ c ∧ p < t'.size ∧ c < t'.size
  · obtain ⟨hpc, hp, hc'⟩ := haccepted
    constructor
    · rw [size_addChild]
      exact h.size_le
    · intro k hk
      have hkc : k ≠ c := by omega
      rw [parent_addChild hpc hp hc', if_neg hkc]
      exact h.parent_eq k hk
  · rw [addChild_refused haccepted]
    exact h

theorem SameLinks.extends {t t' : DisplayTree} (h : t.SameLinks t') : t.Extends t' where
  size_le := Nat.le_of_eq h.size_eq.symm
  parent_eq := fun k _ => h.parent_eq k

theorem extends_spawn (t : DisplayTree) (name : String) (frames : UInt32) :
    t.Extends (t.spawn name frames).1 where
  size_le := by
    rw [size_spawn]
    omega
  parent_eq := fun k _ => t.parent_spawn name frames k

theorem snd_instantiate (t : DisplayTree) (template : Template) :
    (t.instantiate template).2 = t.size := by
  cases template
  rw [instantiate]
  rfl

mutual

theorem extends_instantiate (t : DisplayTree) : ∀ template : Template,
    t.Extends (t.instantiate template).1 ∧ t.size < (t.instantiate template).1.size
  | ⟨name, frames, constructor, children⟩ => by
    rw [instantiate]
    have hsame := sameLinks_setPending (t.spawn name frames).1 t.size constructor
    have hspawn := (t.extends_spawn name frames).trans hsame.extends
    have hchildren := extends_instantiateAll
      ((t.spawn name frames).1.setPending t.size constructor) t.size children
    refine ⟨hspawn.trans hchildren, ?_⟩
    have hsize := hchildren.size_le
    rw [hsame.size_eq, size_spawn] at hsize
    exact hsize

theorem extends_instantiateAll (t : DisplayTree) (parent : NodeId) :
    ∀ templates : List Template, t.Extends (t.instantiateAll parent templates)
  | [] => by
    rw [instantiateAll]
    exact .refl t
  | template :: templates => by
    rw [instantiateAll]
    obtain ⟨hcopy, _⟩ := extends_instantiate t template
    have hadd := hcopy.addChild (p := parent) (Nat.le_of_eq (t.snd_instantiate template).symm)
    exact hadd.trans (extends_instantiateAll _ parent templates)

end

/-- An object that takes a new child leaves the children of the others alone. -/
theorem Linked.children_addChild_of_not_mem {t : DisplayTree} (ht : t.Linked) {p c k : NodeId}
    (hk : k ≠ p) (hc : c ∉ t.children k) : (t.addChild p c).1.children k = t.children k := by
  by_cases haccepted : p ≠ c ∧ p < t.size ∧ c < t.size
  · obtain ⟨hpc, hp, hlt⟩ := haccepted
    rw [children_addChild ht hpc hp hlt, if_neg hk, List.append_nil, List.filter_eq_self]
    intro a ha
    simpa using ne_of_mem_of_not_mem ha hc
  · rw [addChild_refused haccepted]

mutual

/-- A copy puts nothing into what was there before. -/
theorem Linked.children_instantiate {t : DisplayTree} (ht : t.Linked) {k : NodeId}
    (hk : k < t.size) : ∀ template : Template,
    (t.instantiate template).1.children k = t.children k
  | ⟨name, frames, constructor, children⟩ => by
    rw [DisplayTree.instantiate]
    have hsame := sameLinks_setPending (t.spawn name frames).1 t.size constructor
    have hlinked := hsame.linked (ht.spawn name frames)
    have hlt : k < ((t.spawn name frames).1.setPending t.size constructor).size := by
      rw [hsame.size_eq, size_spawn]
      exact Nat.lt_succ_of_lt hk
    refine (Linked.children_instantiateAll hlinked hlt (Nat.ne_of_lt hk) children).trans ?_
    rw [hsame.children_eq, children_spawn]

theorem Linked.children_instantiateAll {t : DisplayTree} (ht : t.Linked) {k parent : NodeId}
    (hk : k < t.size) (hne : k ≠ parent) : ∀ templates : List Template,
    (t.instantiateAll parent templates).children k = t.children k
  | [] => by rw [DisplayTree.instantiateAll]
  | template :: templates => by
    rw [DisplayTree.instantiateAll]
    have hcopy := Linked.children_instantiate ht hk template
    have hlinked := (ht.instantiate template).addChild parent (t.instantiate template).2
    have hadded : ((t.instantiate template).1.addChild parent
        (t.instantiate template).2).1.children k = t.children k := by
      rw [(ht.instantiate template).children_addChild_of_not_mem hne, hcopy]
      -- the copy is new, so that it is no child of what was there
      rw [hcopy, snd_instantiate, ht.mem_children]
      intro hparent
      exact Nat.lt_irrefl _ (lt_size_of_parent hparent)
    have hlt : k < ((t.instantiate template).1.addChild parent
        (t.instantiate template).2).1.size := by
      rw [size_addChild]
      exact Nat.lt_of_lt_of_le hk (t.extends_instantiate template).1.size_le
    exact (Linked.children_instantiateAll hlinked hlt hne templates).trans hadded

end

/-- What was there before a copy is not inside it. -/
theorem Linked.not_inside_instantiate {t : DisplayTree} (ht : t.Linked) {p : NodeId}
    (hp : p < t.size) (template : Template) :
    ¬ (t.instantiate template).1.Inside p (t.instantiate template).2 := by
  intro h
  have hold := (t.extends_instantiate template).1.lt_size_of_within ht hp h.to_reflTransGen
  rw [snd_instantiate] at hold
  exact Nat.lt_irrefl _ hold

theorem Forest.spawn {t : DisplayTree} (ht : t.Forest) (name : String) (frames : UInt32) :
    (t.spawn name frames).1.Forest :=
  ht.mono fun k p hk => by rwa [parent_spawn] at hk

mutual

theorem Forest.instantiate {t : DisplayTree} (ht : t.Linked) (hforest : t.Forest) :
    ∀ template : Template, (t.instantiate template).1.Forest
  | ⟨name, frames, constructor, children⟩ => by
    rw [DisplayTree.instantiate]
    have hsame := sameLinks_setPending (t.spawn name frames).1 t.size constructor
    have hlinked := hsame.linked (ht.spawn name frames)
    have hspawned := hsame.forest (Forest.spawn hforest name frames)
    have hsize : t.size < ((t.spawn name frames).1.setPending t.size constructor).size := by
      rw [hsame.size_eq, size_spawn]
      omega
    exact Forest.instantiateAll hlinked hspawned hsize children

theorem Forest.instantiateAll {t : DisplayTree} (ht : t.Linked) (hforest : t.Forest)
    {parent : NodeId} (hp : parent < t.size) :
    ∀ templates : List Template, (t.instantiateAll parent templates).Forest
  | [] => by
    rw [DisplayTree.instantiateAll]
    exact hforest
  | template :: templates => by
    rw [DisplayTree.instantiateAll]
    have hlinked := ht.instantiate template
    have hcopy := Forest.instantiate ht hforest template
    obtain ⟨_, hlt⟩ := t.extends_instantiate template
    have hadded := (forest_addChild_iff hlinked hcopy parent _).mpr
      (ht.not_inside_instantiate hp template)
    refine Forest.instantiateAll (hlinked.addChild parent _) hadded ?_ templates
    rw [size_addChild]
    exact Nat.lt_trans hp hlt

end

/-- An edit that closes a cycle: an object is put into what is inside it. -/
def Edit.Closes (t : DisplayTree) : Edit → Prop
  | .addChild parent child => t.Inside parent child
  | _ => False

theorem forest_edit_iff {t : DisplayTree} (ht : t.Linked) (hforest : t.Forest) (e : Edit) :
    (t.edit e).Forest ↔ ¬ e.Closes t := by
  cases e with
  | spawn name frames =>
    have hspawned := hforest.spawn name frames
    simpa [edit, Edit.Closes] using hspawned
  | instantiate template =>
    simpa [edit, Edit.Closes] using Forest.instantiate ht hforest template
  | addChild parent child => exact forest_addChild_iff ht hforest parent child
  | detach child =>
    have hdetached : (t.detach child).Forest := hforest.mono (by
      intro k p hk
      rw [parent_detach] at hk
      split at hk
      · cases hk
      · exact hk)
    simpa [edit, Edit.Closes] using hdetached

theorem editAll_append (t : DisplayTree) (front rest : List Edit) :
    t.editAll (front ++ rest) = (t.editAll front).editAll rest :=
  List.foldl_append

/-- The trees on the way through some edits are forests exactly when no edit closes a cycle. -/
theorem forest_editAll_iff {t : DisplayTree} (ht : t.Linked) (hforest : t.Forest)
    (edits : List Edit) :
    (∀ front rest, edits = front ++ rest → (t.editAll front).Forest) ↔
      ∀ front e rest, edits = front ++ e :: rest → ¬ e.Closes (t.editAll front) := by
  constructor
  · intro hall front e rest hedits
    have hbefore := hall front (e :: rest) hedits
    have hafter := hall (front ++ [e]) rest (by simp [hedits])
    rw [editAll_append] at hafter
    exact (forest_edit_iff (ht.editAll front) hbefore e).mp hafter
  · intro hcloses front
    induction front using List.reverseRecOn with
    | nil =>
      intro rest _
      exact hforest
    | append_singleton front e ih =>
      intro rest hedits
      have hbefore := ih (e :: rest) (by simp [hedits])
      have hopen := hcloses front e rest (by simp [hedits])
      rw [editAll_append]
      exact (forest_edit_iff (ht.editAll front) hbefore e).mpr hopen

end ContentPlayer.DisplayTree
