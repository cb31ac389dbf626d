import ContentPlayer.Display.Tree

namespace ContentPlayer.DisplayTree

theorem contains_iff {t : DisplayTree} {id : NodeId} : t.contains id = true ↔ id < t.size := by
  simp [contains, node?, size]

theorem exists_node {t : DisplayTree} {id : NodeId} (hid : id < t.size) :
    ∃ n, t.node? id = some n :=
  ⟨t.nodes[id], List.getElem?_eq_getElem hid⟩

theorem lt_size_of_parent {t : DisplayTree} {c p : NodeId} (h : t.parent c = some p) :
    c < t.size := by
  rw [← contains_iff, contains]
  cases hnode : t.node? c with
  | none => simp [parent, hnode] at h
  | some n => rfl

theorem lt_size_of_mem_children {t : DisplayTree} {c p : NodeId} (h : c ∈ t.children p) :
    p < t.size := by
  rw [← contains_iff, contains]
  cases hnode : t.node? p with
  | none => simp [children, hnode] at h
  | some n => rfl

/-- What a change leaves alone about every object it leaves alone in the tree. -/
theorem map_node?_modify {α : Type} (t : DisplayTree) (id k : NodeId) {f : Node → Node}
    {field : Node → α} (hf : ∀ n, field (f n) = field n) :
    ((t.modify id f).node? k).map field = (t.node? k).map field := by
  rw [node?_modify]
  split
  · rw [Option.map_map]
    exact congrArg (Option.map · _) (funext hf)
  · rfl

section Unplaced

/-! What does not depend on where an object is stays the same when it moves. -/

variable {α : Type} {field : Node → α}
  (hfield : ∀ n parent children, field { n with parent, children } = field n) (t : DisplayTree)

include hfield

theorem map_node?_detach (c k : NodeId) :
    ((t.detach c).node? k).map field = (t.node? k).map field := by
  unfold detach
  split
  · rfl
  · rw [map_node?_modify, map_node?_modify]
    · exact fun n => hfield n _ _
    · exact fun n => hfield n _ _

theorem map_node?_addChild (p c k : NodeId) :
    ((t.addChild p c).1.node? k).map field = (t.node? k).map field := by
  unfold addChild
  split
  · rfl
  · rw [map_node?_modify, map_node?_modify, map_node?_detach hfield]
    · exact fun n => hfield n _ _
    · exact fun n => hfield n _ _

end Unplaced

section Modify

variable (t : DisplayTree) (id k : NodeId) (f : Node → Node)

theorem parent_modify (hf : ∀ n, (f n).parent = n.parent) :
    (t.modify id f).parent k = t.parent k := by
  rw [parent, node?_modify, parent]
  split
  · cases t.node? k with
    | none => rfl
    | some n => exact hf n
  · rfl

theorem children_modify (hf : ∀ n, (f n).children = n.children) :
    (t.modify id f).children k = t.children k := by
  rw [children, map_node?_modify t id k hf, children]

theorem parent_setParent (q : Option NodeId) (hid : id < t.size) :
    (t.modify id fun n => { n with parent := q }).parent k =
      if k = id then q else t.parent k := by
  rw [parent, node?_modify]
  split
  next hk =>
    obtain ⟨n, hnode⟩ := exists_node hid
    rw [hk, hnode]
    rfl
  next => rfl

theorem children_setParent (q : Option NodeId) :
    (t.modify id fun n => { n with parent := q }).children k = t.children k :=
  t.children_modify id k _ fun _ => rfl

theorem parent_setChildren (g : List NodeId → List NodeId) :
    (t.modify id fun n => { n with children := g n.children }).parent k = t.parent k :=
  t.parent_modify id k _ fun _ => rfl

theorem children_setChildren (g : List NodeId → List NodeId) (hid : id < t.size) :
    (t.modify id fun n => { n with children := g n.children }).children k =
      if k = id then g (t.children k) else t.children k := by
  rw [children, node?_modify, children]
  split
  next hk =>
    obtain ⟨n, hnode⟩ := exists_node hid
    rw [hk, hnode]
    rfl
  next => rfl

end Modify

section Spawn

variable (t : DisplayTree) (name : String) (frames : UInt32) (k : NodeId)

theorem parent_spawn : (t.spawn name frames).1.parent k = t.parent k := by
  simp only [parent, node?, spawn, List.getElem?_append]
  split
  · rfl
  next h =>
    rw [List.getElem?_eq_none (by omega : t.nodes.length ≤ k)]
    cases k - t.nodes.length <;> rfl

theorem children_spawn : (t.spawn name frames).1.children k = t.children k := by
  simp only [children, node?, spawn, List.getElem?_append]
  split
  · rfl
  next h =>
    rw [List.getElem?_eq_none (by omega : t.nodes.length ≤ k)]
    cases k - t.nodes.length <;> rfl

end Spawn

/-- Every object is among the children of its parent and of nothing else, and there once. -/
structure Linked (t : DisplayTree) : Prop where
  mem_children : ∀ p c, c ∈ t.children p ↔ t.parent c = some p
  nodup : ∀ p, (t.children p).Nodup

theorem Linked.lt_size {t : DisplayTree} (ht : t.Linked) {c p : NodeId} (h : t.parent c = some p) :
    p < t.size :=
  lt_size_of_mem_children ((ht.mem_children p c).mpr h)

theorem Linked.congr {t t' : DisplayTree} (ht : t.Linked) (hparent : ∀ k, t'.parent k = t.parent k)
    (hchildren : ∀ k, t'.children k = t.children k) : t'.Linked where
  mem_children := by
    intro p c
    rw [hchildren, hparent]
    exact ht.mem_children p c
  nodup := by
    intro p
    rw [hchildren]
    exact ht.nodup p

/-- The same objects, each with the parent and the children that it had. -/
structure SameLinks (t t' : DisplayTree) : Prop where
  size_eq : t'.size = t.size
  parent_eq : ∀ k, t'.parent k = t.parent k
  children_eq : ∀ k, t'.children k = t.children k

theorem SameLinks.refl (t : DisplayTree) : t.SameLinks t := ⟨rfl, fun _ => rfl, fun _ => rfl⟩

theorem SameLinks.trans {a b c : DisplayTree} (hab : a.SameLinks b) (hbc : b.SameLinks c) :
    a.SameLinks c where
  size_eq := hbc.size_eq.trans hab.size_eq
  parent_eq := fun k => (hbc.parent_eq k).trans (hab.parent_eq k)
  children_eq := fun k => (hbc.children_eq k).trans (hab.children_eq k)

theorem SameLinks.foldl {α : Type} {f : DisplayTree → α → DisplayTree}
    (hf : ∀ (t : DisplayTree) (a : α), t.SameLinks (f t a)) (as : List α) (t : DisplayTree) :
    t.SameLinks (as.foldl f t) := by
  induction as generalizing t with
  | nil => exact .refl t
  | cons a rest ih => exact (hf t a).trans (ih (f t a))

theorem SameLinks.linked {t t' : DisplayTree} (h : t.SameLinks t') (ht : t.Linked) : t'.Linked :=
  ht.congr h.parent_eq h.children_eq

theorem sameLinks_modify (t : DisplayTree) (id : NodeId) {f : Node → Node}
    (hparent : ∀ n, (f n).parent = n.parent) (hchildren : ∀ n, (f n).children = n.children) :
    t.SameLinks (t.modify id f) where
  size_eq := t.size_modify id f
  parent_eq := fun k => t.parent_modify id k f hparent
  children_eq := fun k => t.children_modify id k f hchildren

theorem sameLinks_setPending (t : DisplayTree) (id : NodeId) (source : Option String) :
    t.SameLinks (t.setPending id source) :=
  t.sameLinks_modify id (fun _ => rfl) fun _ => rfl

theorem linked_empty : ({} : DisplayTree).Linked where
  mem_children := by simp [children, parent, node?]
  nodup := by simp [children, node?]

theorem Linked.spawn {t : DisplayTree} (ht : t.Linked) (name : String) (frames : UInt32) :
    (t.spawn name frames).1.Linked :=
  ht.congr (t.parent_spawn name frames) (t.children_spawn name frames)

section Detach

variable {t : DisplayTree} (ht : t.Linked) (c k : NodeId)

theorem size_detach (t : DisplayTree) (c : NodeId) : (t.detach c).size = t.size := by
  unfold detach
  split
  · rfl
  · rw [size_modify, size_modify]

theorem parent_detach (t : DisplayTree) (c k : NodeId) :
    (t.detach c).parent k = if k = c then none else t.parent k := by
  unfold detach
  split
  next h =>
    split
    next hk => rw [hk, h]
    next => rfl
  next p h =>
    rw [parent_setParent _ c k none (by rw [size_modify]; exact lt_size_of_parent h),
      parent_setChildren t p k (List.filter (· != c))]

include ht

theorem Linked.filter_children_eq_self (h : t.parent c ≠ some k) :
    (t.children k).filter (· != c) = t.children k := by
  rw [List.filter_eq_self]
  intro a ha
  have hne : a ≠ c := by
    rintro rfl
    exact h ((ht.mem_children k a).mp ha)
  simpa using hne

theorem children_detach : (t.detach c).children k = (t.children k).filter (· != c) := by
  unfold detach
  split
  next h =>
    rw [ht.filter_children_eq_self]
    simp [h]
  next p h =>
    rw [children_setParent _ c k none,
      children_setChildren t p k (List.filter (· != c)) (ht.lt_size h)]
    split
    next => rfl
    next hk =>
      rw [ht.filter_children_eq_self]
      rw [h]
      intro heq
      exact hk (Option.some.inj heq).symm

theorem Linked.detach : (t.detach c).Linked where
  mem_children := by
    intro p a
    rw [children_detach ht, parent_detach, List.mem_filter, ht.mem_children]
    by_cases ha : a = c
    · simp [ha]
    · simp [ha]
  nodup := by
    intro p
    rw [children_detach ht]
    exact (ht.nodup p).filter _

end Detach

section AddChild

variable {t : DisplayTree} {p c : NodeId}

theorem size_addChild (t : DisplayTree) (p c : NodeId) : (t.addChild p c).1.size = t.size := by
  unfold addChild
  split
  · rfl
  · rw [size_modify, size_modify, size_detach]

theorem addChild_refused (h : ¬ (p ≠ c ∧ p < t.size ∧ c < t.size)) :
    t.addChild p c = (t, false) := by
  rw [← contains_iff, ← contains_iff] at h
  unfold addChild
  rw [if_pos]
  by_cases hpc : p = c
  · simp [hpc]
  · by_cases hp : t.contains p = true
    · by_cases hc : t.contains c = true
      · exact absurd ⟨hpc, hp, hc⟩ h
      · simp [hc]
    · simp [hp]

variable (ht : t.Linked) (hpc : p ≠ c) (hp : p < t.size) (hc : c < t.size)

include hpc hp hc

theorem addChild_accepted :
    t.addChild p c =
      (((t.detach c).modify p fun n => { n with children := n.children ++ [c] }).modify c
        fun n => { n with parent := some p }, true) := by
  rw [← contains_iff] at hp hc
  unfold addChild
  rw [if_neg]
  simp [hpc, hp, hc]

theorem parent_addChild (k : NodeId) :
    (t.addChild p c).1.parent k = if k = c then some p else t.parent k := by
  rw [addChild_accepted hpc hp hc,
    parent_setParent _ c k (some p) (by rw [size_modify, size_detach]; exact hc),
    parent_setChildren _ p k (· ++ [c]), parent_detach]
  split <;> rfl

include ht

/-- An object comes behind the other children, and is among those of nothing else. -/
theorem children_addChild (k : NodeId) :
    (t.addChild p c).1.children k =
      (t.children k).filter (· != c) ++ if k = p then [c] else [] := by
  rw [addChild_accepted hpc hp hc, children_setParent _ c k (some p),
    children_setChildren _ p k (· ++ [c]) (by rw [size_detach]; exact hp), children_detach ht]
  split
  · rfl
  · rw [List.append_nil]

end AddChild

theorem Linked.addChild {t : DisplayTree} (ht : t.Linked) (p c : NodeId) :
    (t.addChild p c).1.Linked := by
  by_cases h : p ≠ c ∧ p < t.size ∧ c < t.size
  · obtain ⟨hpc, hp, hc⟩ := h
    constructor
    · intro q a
      rw [children_addChild ht hpc hp hc, parent_addChild hpc hp hc, List.mem_append,
        List.mem_filter, ht.mem_children]
      by_cases ha : a = c
      · by_cases hq : q = p
        · simp [ha, hq]
        · simp [ha, hq, Ne.symm hq]
      · by_cases hq : q = p
        · simp [ha, hq]
        · simp [ha, hq]
    · intro q
      rw [children_addChild ht hpc hp hc]
      split
      · have hfilter := (ht.nodup q).filter (· != c)
        rw [List.nodup_append]
        refine ⟨hfilter, by simp, ?_⟩
        intro a ha b hb
        simp at ha hb
        rw [hb]
        exact ha.2
      · rw [List.append_nil]
        exact (ht.nodup q).filter _
  · rw [addChild_refused h]
    exact ht

mutual

theorem Linked.instantiate {t : DisplayTree} (ht : t.Linked) :
    ∀ template : Template, (t.instantiate template).1.Linked
  | ⟨name, frames, constructor, children⟩ => by
    rw [DisplayTree.instantiate]
    have hspawned := (sameLinks_setPending _ t.size constructor).linked (ht.spawn name frames)
    exact Linked.instantiateAll hspawned _ children

theorem Linked.instantiateAll {t : DisplayTree} (ht : t.Linked) (parent : NodeId) :
    ∀ templates : List Template, (t.instantiateAll parent templates).Linked
  | [] => by
    rw [DisplayTree.instantiateAll]
    exact ht
  | template :: templates => by
    rw [DisplayTree.instantiateAll]
    have hcopy := Linked.instantiate ht template
    exact Linked.instantiateAll (hcopy.addChild parent _) parent templates

end

/-- What changes the links of a tree. -/
inductive Edit where
  | spawn (name : String) (frames : UInt32)
  | instantiate (template : Template)
  | addChild (parent child : NodeId)
  | detach (child : NodeId)

def edit (t : DisplayTree) : Edit → DisplayTree
  | .spawn name frames => (t.spawn name frames).1
  | .instantiate template => (t.instantiate template).1
  | .addChild parent child => (t.addChild parent child).1
  | .detach child => t.detach child

def editAll (t : DisplayTree) (edits : List Edit) : DisplayTree := edits.foldl edit t

theorem Linked.edit {t : DisplayTree} (ht : t.Linked) : ∀ e : Edit, (t.edit e).Linked
  | .spawn name frames => ht.spawn name frames
  | .instantiate template => ht.instantiate template
  | .addChild parent child => ht.addChild parent child
  | .detach child => ht.detach child

theorem Linked.editAll {t : DisplayTree} (ht : t.Linked) (edits : List Edit) :
    (t.editAll edits).Linked := by
  induction edits generalizing t with
  | nil => exact ht
  | cons e rest ih => exact ih (ht.edit e)

end ContentPlayer.DisplayTree
