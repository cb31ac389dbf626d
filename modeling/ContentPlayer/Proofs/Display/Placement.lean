import ContentPlayer.Proofs.Display.Events

namespace ContentPlayer

/-- An object as it is in itself, wherever it is and whatever is inside it. -/
def Node.unplaced (n : Node) : Node := { n with parent := none, children := [] }

namespace DisplayTree

variable {t t' : DisplayTree}

/-- A tree is its objects and the events that wait. -/
theorem ext_node? (hnodes : ∀ k, t'.node? k = t.node? k) (hevents : t'.events = t.events) :
    t' = t := by
  have heq : t'.nodes = t.nodes := List.ext_getElem? hnodes
  obtain ⟨nodes, events⟩ := t
  obtain ⟨nodes', events'⟩ := t'
  exact congrArg₂ DisplayTree.mk heq hevents

theorem detach_of_parent_eq_none {c : NodeId} (hc : t.parent c = none) : t.detach c = t := by
  rw [detach, hc]

theorem addChild_eq_false_iff {p c : NodeId} : (t.addChild p c).2 = false ↔
    p = c ∨ t.contains p = false ∨ t.contains c = false := by
  unfold addChild
  split
  next h => simpa [or_assoc] using h
  next h => simpa [or_assoc] using h

section Links

variable (ht : t.Linked)

include ht

/-- What is taken out of its parent is in no children any more, and that is all. -/
theorem node?_detach (c k : NodeId) :
    (t.detach c).node? k = (t.node? k).map fun n =>
      { n with
        parent := if k = c then none else n.parent
        children := n.children.filter (· != c) } := by
  have hkept {n : Node} (hnode : t.node? k = some n) (hc : t.parent c ≠ some k) :
      n.children.filter (· != c) = n.children := by
    have hfilter := ht.filter_children_eq_self c k hc
    rwa [children, hnode] at hfilter
  unfold detach
  split
  next hparent =>
    cases hnode : t.node? k with
    | none => rfl
    | some n =>
      rw [Option.map_some, hkept hnode (by simp [hparent])]
      split
      next hk =>
        have hnone : n.parent = none := by
          rw [← hk, parent, hnode] at hparent
          exact hparent
        rw [← hnone]
      next => rfl
  next p hparent =>
    cases hnode : t.node? k with
    | none => simp [node?_modify, hnode]
    | some n =>
      rcases eq_or_ne k p with rfl | hkp
      · rcases eq_or_ne k c with rfl | hkc
        · simp [node?_modify, hnode]
        · simp [node?_modify, hnode, hkc]
      · have hsame := hkept hnode (by simpa [hparent] using hkp.symm)
        rcases eq_or_ne k c with rfl | hkc
        · simp [node?_modify, hnode, hkp, hsame]
        · simp [node?_modify, hnode, hkc, hkp, hsame]

/-- What is put into a parent comes behind the children there, and is gone from those of all
others. -/
theorem node?_addChild {p c : NodeId} (hpc : p ≠ c) (hp : p < t.size) (hc : c < t.size)
    (k : NodeId) :
    (t.addChild p c).1.node? k = (t.node? k).map fun n =>
      { n with
        parent := if k = c then some p else n.parent
        children := n.children.filter (· != c) ++ if k = p then [c] else [] } := by
  rw [addChild_accepted hpc hp hc, node?_modify, node?_modify, node?_detach ht]
  cases t.node? k with
  | none => simp
  | some n =>
    rcases eq_or_ne k c with rfl | hkc
    · simp [hpc.symm]
    · rcases eq_or_ne k p with rfl | hkp
      · simp [hkc]
      · simp [hkc, hkp]

/-- Where an object is taken out of makes no difference to what is left. -/
theorem detach_addChild (p c : NodeId) : (t.addChild p c).1.detach c = t.detach c := by
  by_cases haccepted : p ≠ c ∧ p < t.size ∧ c < t.size
  · obtain ⟨hpc, hp, hc⟩ := haccepted
    refine ext_node? (fun k => ?_) (by simp)
    rw [node?_detach (ht.addChild p c), node?_addChild ht hpc hp hc, node?_detach ht,
      Option.map_map]
    refine congrArg (Option.map · _) (funext fun n => ?_)
    rcases eq_or_ne k c with rfl | hkc
    · simp [hpc.symm]
    · rcases eq_or_ne k p with rfl | hkp
      · simp [hkc]
      · simp [hkc, hkp]
  · rw [addChild_refused haccepted]

end Links

/-- An object has come to a place, which is a parent or none: it is the last child there, and gone
from the children of the parent that it had. All others are where they were and in their order, and
nothing else has changed about any object. -/
structure Moved (t t' : DisplayTree) (c : NodeId) (place : Option NodeId) : Prop where
  parent_eq : t'.parent c = place
  joins : ∀ p, place = some p → t'.children p = (t.children p).filter (· != c) ++ [c]
  leaves : ∀ q, t.parent c = some q → place ≠ some q →
    t'.children q = (t.children q).filter (· != c)
  parent_kept : ∀ k, k ≠ c → t'.parent k = t.parent k
  children_kept : ∀ k, t.parent c ≠ some k → place ≠ some k → t'.children k = t.children k
  rest_kept : ∀ k, (t'.node? k).map Node.unplaced = (t.node? k).map Node.unplaced
  events_eq : t'.events = t.events

section Moved

variable (ht : t.Linked)

include ht

theorem Linked.moved {c : NodeId} {place : Option NodeId}
    (hparent : ∀ k, t'.parent k = if k = c then place else t.parent k)
    (hchildren : ∀ k, t'.children k =
      (t.children k).filter (· != c) ++ if place = some k then [c] else [])
    (hrest : ∀ k, (t'.node? k).map Node.unplaced = (t.node? k).map Node.unplaced)
    (hevents : t'.events = t.events) : t.Moved t' c place where
  parent_eq := by rw [hparent, if_pos rfl]
  joins := by
    intro p hp
    rw [hchildren, if_pos hp]
  leaves := by
    intro q _ hq
    rw [hchildren, if_neg hq, List.append_nil]
  parent_kept := by
    intro k hk
    rw [hparent, if_neg hk]
  children_kept := by
    intro k hc hk
    rw [hchildren, if_neg hk, List.append_nil, ht.filter_children_eq_self c k hc]
  rest_kept := hrest
  events_eq := hevents

theorem Linked.moved_detach (c : NodeId) : t.Moved (t.detach c) c none := by
  have hrest : ∀ k, ((t.detach c).node? k).map Node.unplaced = (t.node? k).map Node.unplaced :=
    map_node?_detach (fun _ _ _ => rfl) t c
  refine ht.moved (t.parent_detach c) ?_ hrest (t.events_detach c)
  intro k
  rw [children_detach ht, if_neg nofun, List.append_nil]

theorem Linked.moved_addChild {p c : NodeId} (hpc : p ≠ c) (hp : p < t.size) (hc : c < t.size) :
    t.Moved (t.addChild p c).1 c (some p) := by
  have hrest : ∀ k, ((t.addChild p c).1.node? k).map Node.unplaced =
      (t.node? k).map Node.unplaced := map_node?_addChild (fun _ _ _ => rfl) t p c
  refine ht.moved (parent_addChild hpc hp hc) ?_ hrest (t.events_addChild p c)
  intro k
  rw [children_addChild ht hpc hp hc]
  simp [eq_comm]

end Moved

/-- To put an object into a parent moves that object and no other, or is refused and does nothing;
it is refused exactly for an object and itself, and for numbers of no object. To take it out moves
it to no parent; this does nothing to what is in none, as it does the second time, and undoes that
it was put into one. -/
theorem moves_one_object (ht : t.Reachable) (p c : NodeId) :
    let added := t.addChild p c
    (added.2 = false ↔ p = c ∨ t.contains p = false ∨ t.contains c = false) ∧
    (added.2 = false → added.1 = t) ∧
    (added.2 = true → t.Moved added.1 c (some p)) ∧
    (added.2 = true → t.parent c = none → added.1.detach c = t) ∧
    t.Moved (t.detach c) c none ∧
    (t.parent c = none ∨ t.contains c = false → t.detach c = t) ∧
    (t.detach c).detach c = t.detach c := by
  intro added
  have haccepted : added.2 = true ↔ p ≠ c ∧ p < t.size ∧ c < t.size := by
    rw [← Bool.not_eq_false, addChild_eq_false_iff]
    simp [← contains_iff]
  have hout : (t.detach c).parent c = none := by rw [parent_detach, if_pos rfl]
  refine ⟨addChild_eq_false_iff, ?_, ?_, ?_, ht.linked.moved_detach c, ?_,
    detach_of_parent_eq_none hout⟩
  · intro hrefused
    have hnot := haccepted.not.mp (by simp [hrefused])
    exact congrArg Prod.fst (addChild_refused hnot)
  · intro hadded
    obtain ⟨hpc, hp, hc⟩ := haccepted.mp hadded
    exact ht.linked.moved_addChild hpc hp hc
  · intro _ hnone
    rw [detach_addChild ht.linked, detach_of_parent_eq_none hnone]
  · rintro (hnone | hmissing)
    · exact detach_of_parent_eq_none hnone
    · refine detach_of_parent_eq_none (Option.eq_none_iff_forall_ne_some.mpr fun q hq => ?_)
      rw [contains_iff.mpr (lt_size_of_parent hq)] at hmissing
      cases hmissing

/-- A child is put into its brother, behind what is there, and taken out again. -/
theorem moves_one_object_brother :
    let t := ({} : DisplayTree).edit (.instantiate
      ⟨"a", 1, none, [⟨"b", 1, none, [⟨"d", 1, none, []⟩]⟩, ⟨"c", 1, none, []⟩]⟩)
    let added := t.addChild 1 3
    t.Reachable ∧ added.2 = true ∧ t.Moved added.1 3 (some 1) ∧ added.1.children 1 = [2, 3] ∧
      added.1.children 0 = [1] ∧ (added.1.detach 3).detach 3 = t.detach 3 := by
  intro t added
  have ht : t.Reachable := Reachable.empty.edit _
  have hadded : added.2 = true := by decide
  obtain ⟨-, -, hmoved, -, -, -, htwice⟩ := moves_one_object ht 1 3
  have hmoved := hmoved hadded
  have hjoins := hmoved.joins 1 rfl
  have hleaves := hmoved.leaves 0 (by decide) (by decide)
  refine ⟨ht, hadded, hmoved, ?_, ?_, ?_⟩
  · rw [hjoins]
    decide
  · rw [hleaves]
    decide
  · rw [detach_addChild ht.linked, htwice]

end DisplayTree

end ContentPlayer
