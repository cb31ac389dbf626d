import ContentPlayer.Proofs.Display.Order

open Relation

namespace ContentPlayer.DisplayTree

variable {t : DisplayTree}

/-- One object is among the children of another. -/
def HasChild (t : DisplayTree) (p c : NodeId) : Prop := c ∈ t.children p

/-- What can be reached from an object by way of children, itself included. -/
def Reaches (t : DisplayTree) : NodeId → NodeId → Prop := ReflTransGen t.HasChild

/-- What can be reached from an object by way of one of its children. -/
def Below (t : DisplayTree) : NodeId → NodeId → Prop := TransGen t.HasChild

/-- Nothing that can be reached from an object is below itself. -/
def AcyclicFrom (t : DisplayTree) (root : NodeId) : Prop := ∀ x, t.Reaches root x → ¬ t.Below x x

section Links

variable (ht : t.Linked)

include ht

theorem Linked.hasChild_eq : t.HasChild = Function.swap t.ChildOf := by
  funext p c
  exact propext (ht.mem_children p c)

theorem Linked.reaches_iff {root x : NodeId} : t.Reaches root x ↔ t.Within x root := by
  rw [Reaches, ht.hasChild_eq]
  exact reflTransGen_swap

theorem Linked.below_iff {root x : NodeId} : t.Below root x ↔ t.Inside x root := by
  rw [Below, ht.hasChild_eq]
  exact transGen_swap

/-- Where a cycle could be reached, the start would be on it. -/
theorem Linked.acyclicFrom_iff {root : NodeId} : t.AcyclicFrom root ↔ ¬ t.Inside root root := by
  constructor
  · intro hroot hself
    exact hroot root .refl (ht.below_iff.mpr hself)
  · intro hself x hx hcycle
    exact hself (inside_self_of_within (ht.below_iff.mp hcycle) (ht.reaches_iff.mp hx))

end Links

/-- What the walk over a stack and the climb come to for an object: both end, and list what can be
reached from it as recursion over the children does, each object once, the one before and the other
behind what is below it. -/
structure Traversed (t : DisplayTree) (root : NodeId) : Prop where
  walk_eq : ∀ bound, (t.preOrder root).length ≤ bound → t.walk bound [root] = some (t.preOrder root)
  climb_eq : ∀ bound, t.size < bound → t.climb bound root = some (t.postOrder root)
  preOrder_eq : ∀ x, t.Reaches root x → t.preOrder x = x :: (t.children x).flatMap t.preOrder
  postOrder_eq : ∀ x, t.Reaches root x → t.postOrder x = (t.children x).flatMap t.postOrder ++ [x]
  mem_preOrder : ∀ x, x ∈ t.preOrder root ↔ t.Reaches root x
  mem_postOrder : ∀ x, x ∈ t.postOrder root ↔ t.Reaches root x
  nodup_preOrder : (t.preOrder root).Nodup
  nodup_postOrder : (t.postOrder root).Nodup
  perm : (t.postOrder root).Perm (t.preOrder root)
  before : ∀ x y, t.Reaches root x → t.Below x y → [x, y].Sublist (t.preOrder root)
  behind : ∀ x y, t.Reaches root x → t.Below x y → [y, x].Sublist (t.postOrder root)

section Acyclic

variable (ht : t.Linked) {root : NodeId}

include ht

theorem mem_iff_reaches (hlt : root < t.size) {l : List NodeId}
    (hl : ∀ x, x ∈ l ↔ x < t.size ∧ t.Within x root) (x : NodeId) : x ∈ l ↔ t.Reaches root x := by
  rw [hl, ht.reaches_iff]
  exact and_iff_right_of_imp (ht.lt_size_of_within hlt)

variable (hroot : ¬ t.Inside root root)

include hroot

/-- What is inside an object within another is in the lists of one of its children. -/
theorem exists_child_of_inside {x y : NodeId} (hx : t.Within x root) (hyx : t.Inside y x) :
    ∃ c ∈ t.children x, y ∈ t.preOrder c ∧ y ∈ t.postOrder c := by
  obtain ⟨c, hyc, hcx⟩ := TransGen.tail'_iff.mp hyx
  have hc := (ht.mem_children x c).mpr hcx
  have hself : ¬ t.Inside x x := fun h => hroot (inside_self_of_within h hx)
  have hchild := not_inside_self_of_mem_children ht hself hc
  have hy := ht.lt_size_of_within (lt_size_of_parent hcx) hyc
  exact ⟨c, hc, (mem_preOrder ht hchild y).mpr ⟨hy, hyc⟩,
    (mem_postOrder ht hchild y).mpr ⟨hy, hyc⟩⟩

variable (hlt : root < t.size)

include hlt

theorem preOrder_eq_of_within {x : NodeId} (hx : t.Within x root) :
    t.preOrder x = x :: (t.children x).flatMap t.preOrder :=
  preOrder_eq ht (fun h => hroot (inside_self_of_within h hx)) (ht.lt_size_of_within hlt hx)

theorem postOrder_eq_of_within {x : NodeId} (hx : t.Within x root) :
    t.postOrder x = (t.children x).flatMap t.postOrder ++ [x] :=
  postOrder_eq ht (fun h => hroot (inside_self_of_within h hx)) (ht.lt_size_of_within hlt hx)

theorem preOrder_infix_of_within {x : NodeId} (hx : t.Within x root) :
    t.preOrder x <:+: t.preOrder root := by
  refine infix_of_within ht ?_ hx
  intro y hy c hc
  rw [preOrder_eq_of_within ht hroot hlt hy]
  exact (infix_flatMap_of_mem hc).trans (List.suffix_cons _ _).isInfix

theorem postOrder_infix_of_within {x : NodeId} (hx : t.Within x root) :
    t.postOrder x <:+: t.postOrder root := by
  refine infix_of_within ht ?_ hx
  intro y hy c hc
  rw [postOrder_eq_of_within ht hroot hlt hy]
  exact (infix_flatMap_of_mem hc).trans (List.prefix_append _ _).isInfix

theorem sublist_preOrder {x y : NodeId} (hx : t.Within x root) (hyx : t.Inside y x) :
    [x, y].Sublist (t.preOrder root) := by
  obtain ⟨c, hc, hy, -⟩ := exists_child_of_inside ht hroot hx hyx
  refine List.Sublist.trans ?_ (preOrder_infix_of_within ht hroot hlt hx).sublist
  rw [preOrder_eq_of_within ht hroot hlt hx]
  exact (List.singleton_sublist.mpr (List.mem_flatMap.mpr ⟨c, hc, hy⟩)).cons_cons x

theorem sublist_postOrder {x y : NodeId} (hx : t.Within x root) (hyx : t.Inside y x) :
    [y, x].Sublist (t.postOrder root) := by
  obtain ⟨c, hc, -, hy⟩ := exists_child_of_inside ht hroot hx hyx
  refine List.Sublist.trans ?_ (postOrder_infix_of_within ht hroot hlt hx).sublist
  rw [postOrder_eq_of_within ht hroot hlt hx]
  exact (List.singleton_sublist.mpr (List.mem_flatMap.mpr ⟨c, hc, hy⟩)).append (.refl _)

theorem traversed : t.Traversed root where
  walk_eq := by
    intro bound hbound
    obtain ⟨k, rfl⟩ := Nat.exists_eq_add_of_le hbound
    rw [(walk_preOrder ht hroot hlt).2 k []]
    simp [walk]
  climb_eq := fun bound => climb_eq_postOrder ht hroot
  preOrder_eq := fun x hx => preOrder_eq_of_within ht hroot hlt (ht.reaches_iff.mp hx)
  postOrder_eq := fun x hx => postOrder_eq_of_within ht hroot hlt (ht.reaches_iff.mp hx)
  mem_preOrder := mem_iff_reaches ht hlt (DisplayTree.mem_preOrder ht hroot)
  mem_postOrder := mem_iff_reaches ht hlt (DisplayTree.mem_postOrder ht hroot)
  nodup_preOrder := DisplayTree.nodup_preOrder ht hroot
  nodup_postOrder := DisplayTree.nodup_postOrder ht root
  perm := postOrder_perm ht hroot
  before := fun _ _ hx hy =>
    sublist_preOrder ht hroot hlt (ht.reaches_iff.mp hx) (ht.below_iff.mp hy)
  behind := fun _ _ hx hy =>
    sublist_postOrder ht hroot hlt (ht.reaches_iff.mp hx) (ht.below_iff.mp hy)

end Acyclic

/-- From an object below which there is no cycle the walk over a stack and the recursive climb both
end and list what can be reached, once each; for a number of no object both are empty. -/
theorem traversals_agree (ht : t.Linked) {root : NodeId} (hroot : t.AcyclicFrom root) :
    (t.contains root = true → t.Traversed root) ∧
      (t.contains root = false → t.preOrder root = [] ∧ t.postOrder root = [] ∧
        ∀ bound, 0 < bound → t.walk bound [root] = some []) := by
  have hself := ht.acyclicFrom_iff.mp hroot
  constructor
  · intro hcontains
    exact traversed ht hself (contains_iff.mp hcontains)
  · intro hcontains
    have hge : t.size ≤ root := by
      rw [← Nat.not_lt, ← contains_iff, hcontains]
      exact Bool.false_ne_true
    refine ⟨preOrder_of_size_le hge, postOrder_of_size_le hge, ?_⟩
    intro bound hbound
    have hnone : t.node? root = none := List.getElem?_eq_none hge
    obtain ⟨bound, rfl⟩ : ∃ k, bound = k + 1 := ⟨bound - 1, by omega⟩
    simp [walk, hnone]

/-- Two objects that are in each other do not keep the others from being listed. -/
theorem traversals_agree_beside_cycle :
    let t := editAll {} [.spawn "stage" 1, .spawn "scene" 1, .spawn "hero" 1, .spawn "hat" 1,
      .addChild 0 1, .addChild 1 2, .addChild 2 3, .spawn "ground" 1, .addChild 1 4,
      .spawn "a" 1, .spawn "b" 1, .addChild 5 6, .addChild 6 5]
    t.Linked ∧ t.AcyclicFrom 0 ∧ t.contains 0 = true ∧ t.Traversed 0 ∧
      t.preOrder 0 = [0, 1, 2, 3, 4] ∧ t.postOrder 0 = [3, 2, 4, 1, 0] ∧ t.contains 7 = false := by
  intro t
  have ht : t.Linked := linked_empty.editAll _
  have hacyclic : t.AcyclicFrom 0 := ht.acyclicFrom_iff.mpr (not_inside_of_parent_eq_none rfl)
  have hcontains : t.contains 0 = true := rfl
  exact ⟨ht, hacyclic, hcontains, (traversals_agree ht hacyclic).1 hcontains, rfl, rfl, rfl⟩

end ContentPlayer.DisplayTree
