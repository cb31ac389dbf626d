import ContentPlayer.Proofs.Display.Traversal

open Relation

namespace ContentPlayer.DisplayTree

variable {t : DisplayTree}

/-- A walk comes through an object in pre-order, and goes on with what else is on the stack. -/
theorem walk_preOrder (ht : t.Linked) {id : NodeId} (hid : ¬ t.Inside id id) (hlt : id < t.size) :
    (t.preOrder id).length ≤ (t.below id).card ∧ ∀ k rest,
      t.walk ((t.preOrder id).length + k) (id :: rest) =
        (t.walk k rest).map (t.preOrder id ++ ·) := by
  obtain ⟨l, hlength, hl⟩ := exists_walk_eq ht hid hlt
  have hcard := t.card_below_le id
  have hwalk := walk_eq_preOrder ht hid (Nat.lt_succ_self t.size)
  obtain ⟨k, hk⟩ : ∃ k, t.size.succ = l.length + k := ⟨t.size.succ - l.length, by omega⟩
  have heq : l = t.preOrder id := by
    rw [hk, hl k []] at hwalk
    simpa [walk] using hwalk
  rw [← heq]
  exact ⟨hlength, hl⟩

/-- An object comes before what is inside it, and that comes child after child. -/
theorem preOrder_eq (ht : t.Linked) {id : NodeId} (hid : ¬ t.Inside id id) (hlt : id < t.size) :
    t.preOrder id = id :: (t.children id).flatMap t.preOrder := by
  obtain ⟨n, hnode⟩ := exists_node hlt
  have hchild : ∀ c ∈ t.children id, ¬ t.Inside c c ∧ c < t.size := by
    intro c hc
    exact ⟨not_inside_self_of_mem_children ht hid hc,
      lt_size_of_parent ((ht.mem_children id c).mp hc)⟩
  have hlength : ((t.children id).flatMap t.preOrder).length ≤ t.size := by
    have hsum := sum_card_below_lt ht hid hlt
    have hle : ((t.children id).map fun c => (t.preOrder c).length).sum ≤
        ((t.children id).map fun c => (t.below c).card).sum := by
      refine List.sum_le_sum ?_
      intro c hc
      exact (walk_preOrder ht (hchild c hc).1 (hchild c hc).2).1
    have hcard := t.card_below_le id
    rw [List.length_flatMap]
    omega
  obtain ⟨k, hk⟩ : ∃ k, t.size = ((t.children id).flatMap t.preOrder).length + k :=
    ⟨t.size - ((t.children id).flatMap t.preOrder).length, by omega⟩
  have hwalk := walk_flatMap
    (fun c hc => (walk_preOrder ht (hchild c hc).1 (hchild c hc).2).2) k []
  have hbound := walk_eq_preOrder ht hid (Nat.lt_succ_self t.size)
  have hstep : t.walk (t.size + 1) [id] =
      (t.walk t.size (t.children id ++ [])).map (id :: ·) := by
    rw [walk, hnode, children_eq hnode]
  rw [hstep, hk, hwalk] at hbound
  simpa [walk] using hbound.symm

theorem within_iff (ht : t.Linked) {x id : NodeId} :
    t.Within x id ↔ x = id ∨ ∃ c ∈ t.children id, t.Within x c := by
  rw [Within, ReflTransGen.cases_tail_iff]
  constructor
  · rintro (heq | ⟨c, hxc, hc⟩)
    · exact .inl heq.symm
    · exact .inr ⟨c, (ht.mem_children id c).mpr hc, hxc⟩
  · rintro (heq | ⟨c, hc, hxc⟩)
    · exact .inl heq.symm
    · exact .inr ⟨c, hxc, (ht.mem_children id c).mp hc⟩

theorem preOrder_of_size_le {root : NodeId} (hroot : t.size ≤ root) : t.preOrder root = [] := by
  have hnone : t.node? root = none := List.getElem?_eq_none hroot
  simp [preOrder, walk, hnone]

/-- The pre-order of an object lists it and what is inside it. -/
theorem mem_preOrder (ht : t.Linked) {id : NodeId} (hid : ¬ t.Inside id id) (x : NodeId) :
    x ∈ t.preOrder id ↔ x < t.size ∧ t.Within x id := by
  induction hcard : (t.below id).card using Nat.strong_induction_on generalizing id with
  | _ n ih =>
    subst hcard
    rcases Nat.lt_or_ge id t.size with hlt | hge
    · have hself : x = id → x < t.size := fun heq => heq ▸ hlt
      rw [preOrder_eq ht hid hlt, List.mem_cons, List.mem_flatMap, within_iff ht, and_or_left,
        and_iff_right_of_imp hself, ← exists_and_left]
      refine or_congr_right (exists_congr fun c => ?_)
      rw [and_left_comm]
      refine and_congr_right fun hc => ?_
      exact ih _ (card_below_lt ht hid hc) (not_inside_self_of_mem_children ht hid hc) rfl
    · rw [preOrder_of_size_le hge]
      refine iff_of_false nofun ?_
      rintro ⟨hx, hwithin⟩
      rcases reflTransGen_iff_eq_or_transGen.mp hwithin with rfl | hinside
      · exact Nat.not_lt.mpr hge hx
      · exact Nat.not_lt.mpr hge (ht.lt_size_of_inside hinside).2

theorem nodup_preOrder (ht : t.Linked) {id : NodeId} (hid : ¬ t.Inside id id) :
    (t.preOrder id).Nodup := by
  rcases Nat.lt_or_ge id t.size with hlt | hge
  · -- the list is no longer than there are objects in it
    have hset : t.below id ⊆ (t.preOrder id).toFinset := by
      intro x hx
      exact List.mem_toFinset.mpr ((mem_preOrder ht hid x).mpr (mem_below.mp hx))
    have hle := (walk_preOrder ht hid hlt).1.trans (Finset.card_le_card hset)
    have hcard := le_antisymm (List.toFinset_card_le (t.preOrder id)) hle
    exact Multiset.coe_nodup.mp (Multiset.toFinset_card_eq_card_iff_nodup.mp hcard)
  · rw [preOrder_of_size_le hge]
    exact List.nodup_nil

/-- The pre-order of an object lists it and all that is inside it, once each: an object comes before
what is inside it, and that comes child after child. -/
structure PreOrdered (t : DisplayTree) (id : NodeId) : Prop where
  mem_iff : ∀ x, x ∈ t.preOrder id ↔ t.Within x id
  nodup : (t.preOrder id).Nodup
  eq : ∀ x, t.Within x id → t.preOrder x = x :: (t.children x).flatMap t.preOrder

theorem Linked.lt_size_of_within (ht : t.Linked) {x id : NodeId} (hlt : id < t.size)
    (hx : t.Within x id) : x < t.size := by
  rcases reflTransGen_iff_eq_or_transGen.mp hx with heq | hinside
  · rwa [← heq]
  · exact (ht.lt_size_of_inside hinside).1

theorem Forest.preOrdered (hforest : t.Forest) (ht : t.Linked) {id : NodeId} (hlt : id < t.size) :
    t.PreOrdered id where
  mem_iff := fun x =>
    (mem_preOrder ht (hforest id) x).trans (and_iff_right_of_imp (ht.lt_size_of_within hlt))
  nodup := nodup_preOrder ht (hforest id)
  eq := fun x hx => preOrder_eq ht (hforest x) (ht.lt_size_of_within hlt hx)

/-- What is inside an object comes before it, child after child. -/
theorem postOrder_eq (ht : t.Linked) {id : NodeId} (hid : ¬ t.Inside id id) (hlt : id < t.size) :
    t.postOrder id = (t.children id).flatMap t.postOrder ++ [id] := by
  obtain ⟨n, hnode⟩ := exists_node hlt
  have hn := children_eq hnode
  have hchild : ∀ c ∈ n.children, t.climb t.size c = some (t.postOrder c) := by
    intro c hc
    rw [← hn] at hc
    obtain ⟨l, hl⟩ := exists_climb_eq ht (not_inside_self_of_mem_children ht hid hc)
    have hlower := card_below_lt ht hid hc
    have hcard := t.card_below_le id
    rw [postOrder, hl (t.size + 1) (by omega), hl t.size (by omega), Option.getD_some]
  rw [postOrder, climb, hnode, hn, List.flatMap_def]
  simp only [mapM_eq_some hchild, Option.map_some, Option.getD_some]

theorem postOrder_of_size_le {root : NodeId} (hroot : t.size ≤ root) : t.postOrder root = [] := by
  have hnone : t.node? root = none := List.getElem?_eq_none hroot
  simp [postOrder, climb, hnone]

/-- Both orders of an object list the same objects. -/
theorem postOrder_perm (ht : t.Linked) {id : NodeId} (hid : ¬ t.Inside id id) :
    (t.postOrder id).Perm (t.preOrder id) := by
  induction hcard : (t.below id).card using Nat.strong_induction_on generalizing id with
  | _ n ih =>
    subst hcard
    rcases Nat.lt_or_ge id t.size with hlt | hge
    · rw [postOrder_eq ht hid hlt, preOrder_eq ht hid hlt]
      refine (List.perm_append_singleton _ _).trans (.cons _ ?_)
      refine List.Perm.flatMap_left _ fun c hc => ?_
      exact ih _ (card_below_lt ht hid hc) (not_inside_self_of_mem_children ht hid hc) rfl
    · rw [postOrder_of_size_le hge, preOrder_of_size_le hge]

theorem mem_postOrder (ht : t.Linked) {id : NodeId} (hid : ¬ t.Inside id id) (x : NodeId) :
    x ∈ t.postOrder id ↔ x < t.size ∧ t.Within x id :=
  (postOrder_perm ht hid).mem_iff.trans (mem_preOrder ht hid x)

theorem nodup_postOrder (ht : t.Linked) (id : NodeId) : (t.postOrder id).Nodup := by
  by_cases hid : t.Inside id id
  · rw [postOrder, climb_eq_none ht hid]
    exact List.nodup_nil
  · exact (postOrder_perm ht hid).nodup_iff.mpr (nodup_preOrder ht hid)

/-- Whether an edit puts an object into what is inside it, told from the pre-order. -/
def Edit.closes (t : DisplayTree) : Edit → Bool
  | .addChild parent child => parent != child && (t.preOrder child).contains parent
  | _ => false

theorem Edit.closes_iff (ht : t.Linked) (hforest : t.Forest) (e : Edit) :
    e.closes t = true ↔ e.Closes t := by
  cases e with
  | addChild parent child =>
    rw [closes, Closes, Bool.and_eq_true, bne_iff_ne, List.contains_iff_mem]
    rw [mem_preOrder ht (hforest child), Within, reflTransGen_iff_eq_or_transGen]
    constructor
    · rintro ⟨hne, -, heq | hinside⟩
      · exact absurd heq.symm hne
      · exact hinside
    · intro hinside
      exact ⟨fun heq => hforest child (heq ▸ hinside), (ht.lt_size_of_inside hinside).1,
        .inr hinside⟩
  | _ => exact iff_of_false Bool.false_ne_true id

/-- What is listed for an object stands together in what is listed for those it is within, if that
is so for each child and its parent. -/
theorem infix_of_within {α : Type} {list : NodeId → List α} (ht : t.Linked) {root x : NodeId}
    (hlist : ∀ y, t.Within y root → ∀ c ∈ t.children y, list c <:+: list y)
    (hx : t.Within x root) : list x <:+: list root := by
  induction hx using ReflTransGen.head_induction_on with
  | refl => exact List.infix_refl _
  | @head x y hxy hy ih => exact (hlist y hy x ((ht.mem_children y x).mpr hxy)).trans ih

theorem infix_flatMap_of_mem {α β : Type} {f : α → List β} {as : List α} {a : α} (ha : a ∈ as) :
    f a <:+: as.flatMap f := by
  obtain ⟨front, rest, rfl⟩ := List.append_of_mem ha
  rw [List.flatMap_append, List.flatMap_cons, ← List.append_assoc]
  exact List.infix_append _ _ _

end ContentPlayer.DisplayTree
