import ContentPlayer.Proofs.Display.Forest
import Mathlib.Algebra.BigOperators.Group.Finset.Basic
import Mathlib.Algebra.Order.BigOperators.Group.List
import Mathlib.Algebra.Order.Ring.Nat
import Mathlib.Tactic.Choose

open Relation

namespace ContentPlayer.DisplayTree

variable {t : DisplayTree}

theorem childOf_rightUnique (t : DisplayTree) : Relator.RightUnique t.ChildOf := by
  intro c p q hp hq
  exact Option.some.inj (hp.symm.trans hq)

/-- The way up from a cycle never leaves it. -/
theorem inside_self_of_within {x r : NodeId} (hx : t.Inside x x) (hxr : t.Within x r) :
    t.Inside r r := by
  induction hxr with
  | refl => exact hx
  | @tail b r _ hbr ih =>
    obtain ⟨b', hbb', hb'b⟩ := TransGen.head'_iff.mp ih
    obtain rfl : b' = r := t.childOf_rightUnique hbb' hbr
    exact TransGen.tail' hb'b hbr

theorem not_inside_self_of_mem_children {c p : NodeId} (ht : t.Linked) (hp : ¬ t.Inside p p)
    (hc : c ∈ t.children p) : ¬ t.Inside c c := by
  intro hcc
  have hcp : t.ChildOf c p := (ht.mem_children p c).mp hc
  exact hp (inside_self_of_within hcc (.single hcp))

theorem exists_child_inside_self {x : NodeId} (ht : t.Linked) (hx : t.Inside x x) :
    ∃ c ∈ t.children x, t.Inside c c := by
  obtain ⟨c, hxc, hcx⟩ := TransGen.tail'_iff.mp hx
  exact ⟨c, (ht.mem_children x c).mpr hcx, TransGen.head' hcx hxc⟩

open Classical in
/-- The objects within an object. -/
noncomputable def below (t : DisplayTree) (id : NodeId) : Finset NodeId :=
  (Finset.range t.size).filter fun x => t.Within x id

theorem mem_below {x id : NodeId} : x ∈ t.below id ↔ x < t.size ∧ t.Within x id := by
  simp [below]

theorem card_below_le (t : DisplayTree) (id : NodeId) : (t.below id).card ≤ t.size := by
  have hsub : t.below id ⊆ Finset.range t.size := by
    intro x hx
    exact Finset.mem_range.mpr (mem_below.mp hx).1
  simpa using Finset.card_le_card hsub

/-- An object and the objects below its children are below it, and are all different. -/
theorem sum_card_below_lt (ht : t.Linked) {id : NodeId} (hid : ¬ t.Inside id id)
    (hlt : id < t.size) :
    ((t.children id).map fun c => (t.below c).card).sum < (t.below id).card := by
  classical
  have hchild {c : NodeId} (hc : c ∈ (t.children id).toFinset) : t.ChildOf c id :=
    (ht.mem_children id c).mp (List.mem_toFinset.mp hc)
  have hdisjoint : ∀ a ∈ (t.children id).toFinset, ∀ b ∈ (t.children id).toFinset, a ≠ b →
      Disjoint (t.below a) (t.below b) := by
    -- two ways up from one object are one way, which would come to the parent twice
    have hup {a b : NodeId} (ha : t.ChildOf a id) (hb : t.ChildOf b id) (hab : t.Within a b) :
        a = b := by
      rcases ReflTransGen.cases_head hab with heq | ⟨p, hap, hpb⟩
      · exact heq
      · obtain rfl : p = id := t.childOf_rightUnique hap ha
        exact absurd (TransGen.tail' hpb hb) hid
    intro a ha b hb hne
    rw [Finset.disjoint_left]
    intro x hxa hxb
    rcases ReflTransGen.total_of_right_unique t.childOf_rightUnique (mem_below.mp hxa).2
      (mem_below.mp hxb).2 with hab | hba
    · exact hne (hup (hchild ha) (hchild hb) hab)
    · exact hne (hup (hchild hb) (hchild ha) hba).symm
  have hnot : id ∉ (t.children id).toFinset.biUnion t.below := by
    intro hmem
    obtain ⟨c, hc, hidc⟩ := Finset.mem_biUnion.mp hmem
    exact hid (TransGen.tail' (mem_below.mp hidc).2 (hchild hc))
  have hsub : insert id ((t.children id).toFinset.biUnion t.below) ⊆ t.below id := by
    intro x hx
    rcases Finset.mem_insert.mp hx with rfl | hx
    · exact mem_below.mpr ⟨hlt, .refl⟩
    · obtain ⟨c, hc, hxc⟩ := Finset.mem_biUnion.mp hx
      exact mem_below.mpr ⟨(mem_below.mp hxc).1, (mem_below.mp hxc).2.tail (hchild hc)⟩
  calc ((t.children id).map fun c => (t.below c).card).sum
      = ∑ c ∈ (t.children id).toFinset, (t.below c).card :=
        (List.sum_toFinset _ (ht.nodup id)).symm
    _ = ((t.children id).toFinset.biUnion t.below).card := (Finset.card_biUnion hdisjoint).symm
    _ < (insert id ((t.children id).toFinset.biUnion t.below)).card := by
        rw [Finset.card_insert_of_notMem hnot]
        omega
    _ ≤ (t.below id).card := Finset.card_le_card hsub

theorem card_below_lt (ht : t.Linked) {c p : NodeId} (hp : ¬ t.Inside p p)
    (hc : c ∈ t.children p) : (t.below c).card < (t.below p).card := by
  have hsum := sum_card_below_lt ht hp (lt_size_of_mem_children hc)
  have hmem := List.le_sum_of_mem (List.mem_map_of_mem (f := fun c => (t.below c).card) hc)
  exact Nat.lt_of_le_of_lt hmem hsum

theorem mapM_eq_some {α β : Type} {f : α → Option β} {g : α → β} {l : List α}
    (h : ∀ a ∈ l, f a = some (g a)) : l.mapM f = some (l.map g) := by
  induction l with
  | nil => rfl
  | cons a l ih =>
    have ha := h a (by simp)
    have hl := ih fun b hb => h b (by simp [hb])
    simp [List.mapM_cons, ha, hl]

theorem mapM_eq_none {α β : Type} {f : α → Option β} {l : List α} {a : α} (ha : a ∈ l)
    (hf : f a = none) : l.mapM f = none := by
  induction l with
  | nil => cases ha
  | cons b l ih =>
    rcases List.mem_cons.mp ha with rfl | hl
    · simp [List.mapM_cons, hf]
    · simp [List.mapM_cons, ih hl]

theorem children_eq {id : NodeId} {n : Node} (hnode : t.node? id = some n) :
    t.children id = n.children := by
  simp [children, hnode]

/-- Climbing an object that is not inside itself gives one list, whatever the bound is, if only it
is larger than the number of objects. -/
theorem exists_climb_eq (ht : t.Linked) {id : NodeId} (hid : ¬ t.Inside id id) :
    ∃ l, ∀ bound, (t.below id).card < bound → t.climb bound id = some l := by
  -- fewer objects are below a child than below its parent
  induction hcard : (t.below id).card using Nat.strong_induction_on generalizing id with
  | _ n ih =>
    subst hcard
    cases hnode : t.node? id with
    | none =>
      refine ⟨[], ?_⟩
      intro bound hbound
      obtain ⟨bound, rfl⟩ : ∃ k, bound = k + 1 := ⟨bound - 1, by omega⟩
      simp [climb, hnode]
    | some n =>
      have hn := children_eq hnode
      have hchild : ∀ c ∈ n.children, ∃ l, ∀ bound, (t.below c).card < bound →
          t.climb bound c = some l := by
        intro c hc
        rw [← hn] at hc
        exact ih _ (card_below_lt ht hid hc) (not_inside_self_of_mem_children ht hid hc) rfl
      choose! l hl using hchild
      refine ⟨(n.children.map l).flatten ++ [id], ?_⟩
      intro bound hbound
      obtain ⟨bound, rfl⟩ : ∃ k, bound = k + 1 := ⟨bound - 1, by omega⟩
      have hmap : n.children.mapM (t.climb bound) = some (n.children.map l) := by
        apply mapM_eq_some
        intro c hc
        have hlt := card_below_lt ht hid (hn ▸ hc)
        exact hl c hc bound (by omega)
      simp [climb, hnode, hmap]

theorem climb_eq_postOrder (ht : t.Linked) {id : NodeId} (hid : ¬ t.Inside id id) {bound : Nat}
    (hbound : t.size < bound) : t.climb bound id = some (t.postOrder id) := by
  obtain ⟨l, hl⟩ := exists_climb_eq ht hid
  have hcard := t.card_below_le id
  have hpost := hl (t.size + 1) (by omega)
  rw [postOrder, hpost, Option.getD_some]
  exact hl bound (by omega)

theorem walk_flatMap {l : NodeId → List NodeId} {cs : List NodeId}
    (h : ∀ c ∈ cs, ∀ k rest,
      t.walk ((l c).length + k) (c :: rest) = (t.walk k rest).map (l c ++ ·))
    (k : Nat) (rest : List NodeId) :
    t.walk ((cs.flatMap l).length + k) (cs ++ rest) = (t.walk k rest).map (cs.flatMap l ++ ·) := by
  induction cs with
  | nil => simp
  | cons c cs ih =>
    have hc := h c (by simp) ((cs.flatMap l).length + k) (cs ++ rest)
    have hcs := ih fun c' hc' => h c' (by simp [hc'])
    have hlength : ((c :: cs).flatMap l).length + k =
        (l c).length + ((cs.flatMap l).length + k) := by
      simp [List.flatMap_cons, Nat.add_assoc]
    rw [hlength, List.cons_append, hc, hcs, Option.map_map]
    congr 1
    funext m
    simp [List.flatMap_cons]

/-- A walk comes through an object that is not inside itself, and goes on with what else is on the
stack. -/
theorem exists_walk_eq (ht : t.Linked) {id : NodeId} (hid : ¬ t.Inside id id)
    (hlt : id < t.size) :
    ∃ l, l.length ≤ (t.below id).card ∧
      ∀ k rest, t.walk (l.length + k) (id :: rest) = (t.walk k rest).map (l ++ ·) := by
  induction hcard : (t.below id).card using Nat.strong_induction_on generalizing id with
  | _ n ih =>
    subst hcard
    obtain ⟨n, hnode⟩ := exists_node hlt
    have hn := children_eq hnode
    have hchild : ∀ c ∈ n.children, ∃ l : List NodeId, l.length ≤ (t.below c).card ∧
        ∀ k rest, t.walk (l.length + k) (c :: rest) = (t.walk k rest).map (l ++ ·) := by
      intro c hc
      rw [← hn] at hc
      have hlt := lt_size_of_parent ((ht.mem_children id c).mp hc)
      exact ih _ (card_below_lt ht hid hc) (not_inside_self_of_mem_children ht hid hc) hlt rfl
    choose! l hlength hwalk using hchild
    refine ⟨id :: n.children.flatMap l, ?_, ?_⟩
    · have hsum := sum_card_below_lt ht hid hlt
      have hle : (n.children.map fun c => (l c).length).sum ≤
          (n.children.map fun c => (t.below c).card).sum := List.sum_le_sum hlength
      rw [hn] at hsum
      simp only [List.length_cons, List.length_flatMap]
      omega
    · intro k rest
      have hlength : (id :: n.children.flatMap l).length + k =
          (n.children.flatMap l).length + k + 1 := by
        rw [List.length_cons]
        omega
      rw [hlength, walk, hnode]
      simp only [walk_flatMap hwalk k rest, Option.map_map]
      rfl

/-- A walk ends, and gives the pre-order, where an object is not inside itself. -/
theorem walk_eq_preOrder (ht : t.Linked) {id : NodeId} (hid : ¬ t.Inside id id) {bound : Nat}
    (hbound : t.size < bound) : t.walk bound [id] = some (t.preOrder id) := by
  by_cases hlt : id < t.size
  · obtain ⟨l, hlength, hl⟩ := exists_walk_eq ht hid hlt
    have hcard := t.card_below_le id
    have hwalk {b : Nat} (hb : t.size < b) : t.walk b [id] = some l := by
      obtain ⟨k, rfl⟩ : ∃ k, b = l.length + k := ⟨b - l.length, by omega⟩
      rw [hl k []]
      simp [walk]
    rw [preOrder, hwalk (Nat.lt_succ_self _), Option.getD_some]
    exact hwalk hbound
  · have hnode : t.node? id = none := List.getElem?_eq_none (Nat.le_of_not_lt hlt)
    obtain ⟨bound, rfl⟩ : ∃ k, bound = k + 1 := ⟨bound - 1, by omega⟩
    simp [walk, preOrder, hnode]

theorem walk_eq_none (ht : t.Linked) {id : NodeId} (hid : t.Inside id id) (bound : Nat)
    {stack : List NodeId} (hmem : id ∈ stack) : t.walk bound stack = none := by
  induction bound generalizing id stack with
  | zero =>
    cases stack with
    | nil => cases hmem
    | cons x stack => rfl
  | succ bound ih =>
    cases stack with
    | nil => cases hmem
    | cons x stack =>
      rw [walk]
      cases hnode : t.node? x with
      | none =>
        rcases List.mem_cons.mp hmem with rfl | hrest
        · obtain ⟨n, hn⟩ := exists_node (ht.lt_size_of_inside hid).1
          rw [hnode] at hn
          cases hn
        · exact ih hid hrest
      | some n =>
        rcases List.mem_cons.mp hmem with rfl | hrest
        · obtain ⟨c, hc, hcc⟩ := exists_child_inside_self ht hid
          rw [children_eq hnode] at hc
          simp [ih hcc (List.mem_append_left stack hc)]
        · simp [ih hid (List.mem_append_right n.children hrest)]

theorem climb_eq_none (ht : t.Linked) {id : NodeId} (hid : t.Inside id id) (bound : Nat) :
    t.climb bound id = none := by
  induction bound generalizing id with
  | zero => rfl
  | succ bound ih =>
    obtain ⟨c, hc, hcc⟩ := exists_child_inside_self ht hid
    have hlt := (ht.lt_size_of_inside hid).1
    obtain ⟨n, hnode⟩ := exists_node hlt
    rw [children_eq hnode] at hc
    rw [climb, hnode]
    simp [mapM_eq_none hc (ih hcc)]

/-- In a forest every way up ends, at an object that is in no other. -/
theorem exists_root (ht : t.Linked) (hforest : t.Forest) (id : NodeId) :
    ∃ root, t.Within id root ∧ t.parent root = none := by
  -- more objects are below a parent, and there are only so many
  induction hleft : t.size - (t.below id).card using Nat.strong_induction_on generalizing id with
  | _ left ih =>
    subst hleft
    cases hparent : t.parent id with
    | none => exact ⟨id, .refl, hparent⟩
    | some p =>
      have hlt := card_below_lt ht (hforest p) ((ht.mem_children p id).mpr hparent)
      have hle := t.card_below_le p
      obtain ⟨root, hroot, hnone⟩ := ih (t.size - (t.below p).card) (by omega) p rfl
      exact ⟨root, .head hparent hroot, hnone⟩

theorem parent_ne_none_of_within {id x : NodeId} (hid : t.Inside id id) (hx : t.Within id x) :
    t.parent x ≠ none := by
  intro hnone
  exact not_inside_of_parent_eq_none hnone (inside_self_of_within hid hx)

/-- All that goes through a tree comes to an end: every way up, and every walk and climb down, on
which all that is done to a subtree depends. -/
structure Bounded (t : DisplayTree) : Prop where
  up : ∀ id, ∃ root, t.Within id root ∧ t.parent root = none
  walk : ∀ id bound, t.size < bound → t.walk bound [id] = some (t.preOrder id)
  climb : ∀ id bound, t.size < bound → t.climb bound id = some (t.postOrder id)

theorem Forest.bounded (hforest : t.Forest) (ht : t.Linked) : t.Bounded where
  up := exists_root ht hforest
  walk := by
    intro id bound hbound
    exact walk_eq_preOrder ht (hforest id) hbound
  climb := by
    intro id bound hbound
    exact climb_eq_postOrder ht (hforest id) hbound

/-- Nothing that goes through an object comes to an end: neither the way up from it, nor any walk or
climb down. -/
structure Endless (t : DisplayTree) (id : NodeId) : Prop where
  inside : t.Inside id id
  up : ∀ root, t.Within id root → t.parent root ≠ none
  walk : ∀ bound, t.walk bound [id] = none
  climb : ∀ bound, t.climb bound id = none

theorem endless_of_inside_self (ht : t.Linked) {id : NodeId} (hid : t.Inside id id) :
    t.Endless id where
  inside := hid
  up := by
    intro root hroot
    exact parent_ne_none_of_within hid hroot
  walk := by
    intro bound
    exact walk_eq_none ht hid bound (by simp)
  climb := climb_eq_none ht hid

/-- The trees on the way through some edits are forests, in which all comes to an end, exactly when
no edit puts an object into what is inside it. -/
theorem stays_forest_iff (edits : List Edit) :
    (∀ front rest, edits = front ++ rest →
        (editAll {} front).Forest ∧ (editAll {} front).Bounded) ↔
      ∀ front parent child rest, edits = front ++ .addChild parent child :: rest →
        ¬ (editAll {} front).Inside parent child := by
  have hiff := forest_editAll_iff linked_empty forest_empty edits
  constructor
  · intro hall front parent child rest hedits
    have hforests := hiff.mp (fun front rest h => (hall front rest h).1)
    exact hforests front (.addChild parent child) rest hedits
  · intro hopen front rest hedits
    have hcloses : ∀ front e rest, edits = front ++ e :: rest → ¬ e.Closes (editAll {} front) := by
      intro front e rest hedits
      cases e with
      | addChild parent child => exact hopen front parent child rest hedits
      | _ => exact id
    have hforest := hiff.mpr hcloses front rest hedits
    exact ⟨hforest, hforest.bounded (linked_empty.editAll front)⟩

/-- Two objects can be put into each other; then neither is in a tree any more that ends. -/
theorem endless_of_two :
    (editAll {} [.spawn "a" 1, .spawn "b" 1, .addChild 0 1, .addChild 1 0]).Endless 0 := by
  apply endless_of_inside_self (linked_empty.editAll _)
  exact .head (show ChildOf _ 0 1 from rfl) (.single (show ChildOf _ 1 0 from rfl))

end ContentPlayer.DisplayTree
