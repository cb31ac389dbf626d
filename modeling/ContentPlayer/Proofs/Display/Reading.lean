import ContentPlayer.Proofs.Display.Constructing
import ContentPlayer.Proofs.Display.Copy
import ContentPlayer.Proofs.Display.Events
import ContentPlayer.Proofs.Display.Traversal

namespace ContentPlayer

namespace Template

mutual

/-- The same template with at least one frame everywhere. -/
def clamped : Template → Template
  | ⟨name, frames, constructor, children⟩ => ⟨name, max frames 1, constructor, clampedAll children⟩

def clampedAll : List Template → List Template
  | [] => []
  | t :: ts => t.clamped :: clampedAll ts

end

end Template

/-- What of an object a template tells. -/
def Node.face (n : Node) : String × UInt32 × Option String × List NodeId :=
  (n.name, n.timeline.total, n.pending, n.children)

namespace DisplayTree

mutual

/-- An object reads as a template: it has the name, the frames and the constructor, and its children
read as those of the template, in their order. -/
def Reads (t : DisplayTree) (id : NodeId) : Template → Prop
  | ⟨name, frames, constructor, children⟩ =>
    ∃ n, t.node? id = some n ∧ n.name = name ∧ n.timeline.total = frames ∧
      n.pending = constructor ∧ t.ReadsAll n.children children

def ReadsAll (t : DisplayTree) : List NodeId → List Template → Prop
  | [], [] => True
  | id :: ids, template :: templates => t.Reads id template ∧ t.ReadsAll ids templates
  | _, _ => False

end

variable {t t' : DisplayTree}

mutual

/-- There is one template at most as which an object reads. -/
theorem Reads.unique : ∀ (a b : Template) {id : NodeId}, t.Reads id a → t.Reads id b → a = b
  | ⟨name, frames, constructor, children⟩, ⟨name', frames', constructor', children'⟩, id,
      ha, hb => by
    rw [Reads] at ha hb
    obtain ⟨n, hnode, rfl, rfl, rfl, hchildren⟩ := ha
    obtain ⟨n', hnode', rfl, rfl, rfl, hchildren'⟩ := hb
    obtain rfl : n = n' := Option.some.inj (hnode.symm.trans hnode')
    rw [ReadsAll.unique children children' hchildren hchildren']

theorem ReadsAll.unique : ∀ (as bs : List Template) {ids : List NodeId},
    t.ReadsAll ids as → t.ReadsAll ids bs → as = bs
  | [], [], ids, ha, hb => rfl
  | a :: as, b :: bs, [], ha, hb => by simp [ReadsAll] at ha
  | a :: as, b :: bs, id :: ids, ha, hb => by
    rw [ReadsAll] at ha hb
    rw [Reads.unique a b ha.1 hb.1, ReadsAll.unique as bs ha.2 hb.2]
  | [], b :: bs, ids, ha, hb => by
    cases ids <;> simp [ReadsAll] at ha hb
  | a :: as, [], ids, ha, hb => by
    cases ids <;> simp [ReadsAll] at ha hb

end

theorem Reads.iff_eq {template : Template} {id : NodeId} (h : t.Reads id template) (x : Template) :
    t.Reads id x ↔ x = template :=
  ⟨fun hx => Reads.unique x template hx h, fun heq => heq ▸ h⟩

mutual

/-- A copy reads as its template, but that it has at least one frame everywhere. -/
theorem reads_copy : ∀ (template : Template) {first : NodeId} {parent : Option NodeId},
    t.Matches Node.face first (template.nodes first parent) → t.Reads first template.clamped
  | ⟨name, frames, constructor, children⟩, first, parent, h => by
    rw [Template.nodes] at h
    obtain ⟨n, hnode, hface⟩ := h.head
    have hchildren := readsAll_copies children h.tail
    simp only [Node.face, Prod.mk.injEq] at hface
    obtain ⟨hname, htotal, hpending, hplaces⟩ := hface
    rw [Template.clamped, Reads]
    refine ⟨n, hnode, hname, htotal, hpending, ?_⟩
    rw [hplaces]
    exact hchildren

theorem readsAll_copies : ∀ (templates : List Template) {first parent : NodeId},
    t.Matches Node.face first (Template.nodesAll first parent templates) →
      t.ReadsAll (Template.places first templates) (Template.clampedAll templates)
  | [], first, parent, h => by
    rw [Template.places, Template.clampedAll, ReadsAll]
    trivial
  | template :: templates, first, parent, h => by
    rw [Template.nodesAll] at h
    have hright := h.right
    rw [Template.length_nodes] at hright
    rw [Template.places, Template.clampedAll, ReadsAll]
    exact ⟨reads_copy template h.left, readsAll_copies templates hright⟩

end

section Kept

/-! A tree and a later one, in which all that was there is as it was. -/

mutual

theorem reads_of_kept (ht : t.Linked) (hkept : ∀ id < t.size, t'.node? id = t.node? id) :
    ∀ (template : Template) {id : NodeId}, id < t.size →
      (t'.Reads id template ↔ t.Reads id template)
  | ⟨name, frames, constructor, children⟩, id, hid => by
    rw [Reads, Reads, hkept id hid]
    refine exists_congr fun n => and_congr_right fun hnode => ?_
    have hchildren : ∀ c ∈ n.children, c < t.size := by
      intro c hc
      rw [← children_eq hnode, ht.mem_children] at hc
      exact lt_size_of_parent hc
    rw [readsAll_of_kept ht hkept children hchildren]

theorem readsAll_of_kept (ht : t.Linked) (hkept : ∀ id < t.size, t'.node? id = t.node? id) :
    ∀ (templates : List Template) {ids : List NodeId}, (∀ id ∈ ids, id < t.size) →
      (t'.ReadsAll ids templates ↔ t.ReadsAll ids templates)
  | [], ids, hids => by cases ids <;> simp only [ReadsAll]
  | template :: templates, [], hids => by simp only [ReadsAll]
  | template :: templates, id :: ids, hids => by
    rw [ReadsAll, ReadsAll, reads_of_kept ht hkept template (hids id (List.mem_cons_self ..)),
      readsAll_of_kept ht hkept templates fun k hk => hids k (List.mem_cons_of_mem _ hk)]

end

variable (ht : t.Linked) (hkept : ∀ id < t.size, t'.node? id = t.node? id)

include ht hkept

theorem walk_of_kept (bound : Nat) {stack : List NodeId} (hstack : ∀ id ∈ stack, id < t.size) :
    t'.walk bound stack = t.walk bound stack := by
  induction bound generalizing stack with
  | zero => cases stack <;> rfl
  | succ bound ih =>
    cases stack with
    | nil => rfl
    | cons id stack =>
      have hrest : ∀ k ∈ stack, k < t.size := fun k hk => hstack k (List.mem_cons_of_mem _ hk)
      obtain ⟨n, hnode⟩ := exists_node (hstack id (List.mem_cons_self ..))
      have hbelow : ∀ k ∈ n.children ++ stack, k < t.size := by
        intro k hk
        rcases List.mem_append.mp hk with hchild | hk
        · rw [← children_eq hnode, ht.mem_children] at hchild
          exact lt_size_of_parent hchild
        · exact hrest k hk
      rw [walk, walk, hkept id (hstack id (List.mem_cons_self ..)), hnode]
      simp only [ih hbelow]

theorem preOrder_of_kept (hsize : t.size ≤ t'.size) {id : NodeId} (hid : id < t.size) :
    t'.preOrder id = t.preOrder id := by
  have hstack : ∀ k ∈ [id], k < t.size := by simpa using hid
  have hwalk := walk_of_kept ht hkept (t'.size + 1) hstack
  rw [preOrder, hwalk]
  by_cases hinside : t.Inside id id
  · have hnone (bound : Nat) : t.walk bound [id] = none := walk_eq_none ht hinside bound (by simp)
    rw [preOrder, hnone, hnone]
  · rw [walk_eq_preOrder ht hinside (Nat.lt_succ_of_le hsize), Option.getD_some]

end Kept

theorem lt_size_of_mem_walk {bound : Nat} {stack ids : List NodeId}
    (hwalk : t.walk bound stack = some ids) : ∀ id ∈ ids, id < t.size := by
  induction bound generalizing stack ids with
  | zero =>
    cases stack with
    | nil =>
      cases hwalk
      simp
    | cons => cases hwalk
  | succ bound ih =>
    cases stack with
    | nil =>
      cases hwalk
      simp
    | cons first stack =>
      rw [walk] at hwalk
      split at hwalk
      next => exact ih hwalk
      next n hnode =>
        obtain ⟨rest, hrest, rfl⟩ := Option.map_eq_some_iff.mp hwalk
        intro id hid
        rcases List.mem_cons.mp hid with rfl | hid
        · exact (List.getElem?_eq_some_iff.mp hnode).1
        · exact ih hrest id hid

theorem lt_size_of_mem_preOrder {root id : NodeId} (hid : id ∈ t.preOrder root) : id < t.size := by
  rw [preOrder] at hid
  cases hwalk : t.walk (t.size + 1) [root] with
  | none =>
    rw [hwalk] at hid
    cases hid
  | some ids =>
    rw [hwalk] at hid
    exact lt_size_of_mem_walk hwalk id hid

/-- Objects numbered from a tree's size on are not in it. -/
theorem new_of_mem_preOrder {root : NodeId} {count : Nat}
    (horder : t'.preOrder root = List.range' t.size count) {id : NodeId}
    (hid : id ∈ t'.preOrder root) : t.contains id = false ∧ t'.contains id = true := by
  have hlt : id < t'.size := lt_size_of_mem_preOrder hid
  rw [horder] at hid
  have hle : ¬ id < t.size := Nat.not_lt.mpr (List.mem_range'_1.mp hid).1
  exact ⟨Bool.eq_false_iff.mpr (mt contains_iff.mp hle), contains_iff.mpr hlt⟩

/-- A copy of a template to which nothing has happened: it is new and in no other object, it reads
as the template, it is stamped with nothing and its constructors are still to run; what was there is
as it was, and nobody was told. -/
structure BareCopy (t t' : DisplayTree) (template : Template) (copy : NodeId) : Prop where
  fresh : ∀ id ∈ t'.preOrder copy, t.contains id = false ∧ t'.contains id = true
  reads_iff : ∀ x, t'.Reads copy x ↔ x = template.clamped
  parent_eq : t'.parent copy = none
  loader_eq : ∀ id ∈ t'.preOrder copy, ∀ n, t'.node? id = some n → n.loader = none
  pending_eq : (t'.pendingCalls copy).map Prod.snd = template.constructors
  kept : ∀ id, t.contains id = true → t'.node? id = t.node? id
  events_eq : t'.events = t.events

/-- A bare copy that was made apart from all that was there: its objects are numbered in pre-order
and at their beginning, and what was there reads as before and has none of them in it. -/
structure FreshCopy (t t' : DisplayTree) (template : Template) (copy : NodeId) : Prop
    extends BareCopy t t' template copy where
  order : t'.preOrder copy = List.range' t.size template.nodeCount
  size_eq : t'.size = t.size + template.nodeCount
  start : ∀ id ∈ t'.preOrder copy, ∀ l, t'.timeline id = some l →
    l.current = 0 ∧ l.playing = true ∧ l.first = false
  apart : ∀ id, t.contains id = true → t'.preOrder id = t.preOrder id ∧
    (∀ x, t'.Reads id x ↔ t.Reads id x) ∧ (t'.preOrder id).Disjoint (t'.preOrder copy)

theorem preOrder_instantiate (t : DisplayTree) (template : Template) :
    (t.instantiate template).1.preOrder t.size = List.range' t.size template.nodeCount :=
  preOrder_copy (matches_of_nodes (t.nodes_instantiate template))

/-- An object of a copy was made as one of those that the template tells of. -/
theorem mem_nodes_of_mem_copy (t : DisplayTree) (template : Template) {id : NodeId}
    (hid : id ∈ (t.instantiate template).1.preOrder t.size) {n : Node}
    (hn : (t.instantiate template).1.node? id = some n) : n ∈ template.nodes t.size none := by
  rw [preOrder_instantiate] at hid
  obtain ⟨k, hk, rfl⟩ := List.mem_range'.mp hid
  rw [← template.length_nodes t.size none] at hk
  rw [Nat.one_mul, node?_instantiate_add, List.getElem?_eq_getElem hk] at hn
  obtain rfl := Option.some.inj hn
  exact List.getElem_mem hk

theorem bareCopy_instantiate (t : DisplayTree) (template : Template) :
    t.BareCopy (t.instantiate template).1 template (t.instantiate template).2 := by
  have hnodes := t.nodes_instantiate template
  rw [snd_instantiate]
  constructor
  case fresh =>
    intro id hid
    exact new_of_mem_preOrder (t.preOrder_instantiate template) hid
  case reads_iff => exact (reads_copy template (matches_of_nodes hnodes)).iff_eq
  case parent_eq =>
    obtain ⟨n, rest, -, hcopy⟩ := template.nodes_eq_cons t.size
    have hhead := t.node?_instantiate_add template 0
    rw [Nat.add_zero, hcopy] at hhead
    simp [parent, hhead]
  case loader_eq =>
    intro id hid n hn
    exact (template.fresh_of_mem_nodes (t.mem_nodes_of_mem_copy template hid hn)).1
  case pending_eq =>
    have hpost : (t.instantiate template).1.postOrder t.size = template.childrenFirst t.size :=
      postOrder_copy (matches_of_nodes hnodes)
    rw [map_snd_pendingCalls, hpost]
    exact filterMap_childrenFirst template (matches_of_nodes hnodes)
  case kept =>
    intro id hid
    exact node?_instantiate_of_lt (contains_iff.mp hid) template
  case events_eq => exact t.events_instantiate template

/-- To make a copy of a template is to make a fresh one, whatever was made before. -/
theorem instantiate_freshCopy {t : DisplayTree} (ht : t.Reachable) (template : Template) :
    FreshCopy t (t.instantiate template).1 template (t.instantiate template).2 := by
  let t' := (t.instantiate template).1
  have horder : t'.preOrder t.size = List.range' t.size template.nodeCount :=
    t.preOrder_instantiate template
  have hsize : t'.size = t.size + template.nodeCount := t.size_instantiate template
  have hkept : ∀ id < t.size, t'.node? id = t.node? id :=
    fun id hid => node?_instantiate_of_lt hid template
  have hbare := t.bareCopy_instantiate template
  rw [snd_instantiate] at hbare ⊢
  constructor
  case toBareCopy => exact hbare
  case order => exact horder
  case size_eq => exact hsize
  case start =>
    intro id hid l hl
    obtain ⟨n, hn, rfl⟩ := Option.map_eq_some_iff.mp hl
    obtain ⟨-, total, htotal⟩ :=
      template.fresh_of_mem_nodes (t.mem_nodes_of_mem_copy template hid hn)
    rw [htotal]
    exact ⟨rfl, rfl, rfl⟩
  case apart =>
    intro id hid
    rw [contains_iff] at hid
    have hsame := preOrder_of_kept ht.linked hkept (by omega) hid
    refine ⟨hsame, fun x => reads_of_kept ht.linked hkept x hid, ?_⟩
    rw [horder, hsame]
    intro k hold hnew
    have hlt := lt_size_of_mem_preOrder hold
    exact absurd (List.mem_range'_1.mp hnew).1 (Nat.not_le.mpr hlt)

/-- A second copy has nothing to do with a first one, in which something was moved. -/
theorem instantiate_freshCopy_twice :
    let scene : Template := ⟨"scene", 0, some "init",
      [⟨"hero", 3, none, [⟨"hat", 1, none, []⟩]⟩, ⟨"ground", 1, some "dig", []⟩]⟩
    let t := (({} : DisplayTree).edit (.instantiate scene)).edit (.addChild 2 3)
    let t' := (t.instantiate scene).1
    t.Reachable ∧ FreshCopy t t' scene 4 ∧
      t'.preOrder 0 = [0, 1, 2, 3] ∧ t'.children 2 = [3] ∧
      t'.preOrder 4 = [4, 5, 6, 7] ∧ t'.children 4 = [5, 7] := by
  intro scene t t'
  have ht : t.Reachable := (Reachable.empty.edit (.instantiate scene)).edit (.addChild 2 3)
  have hcopy := instantiate_freshCopy ht scene
  rw [snd_instantiate] at hcopy
  have hsize : t.size = 4 := by decide
  rw [hsize] at hcopy
  exact ⟨ht, hcopy, by decide, by decide, by decide, by decide⟩

end DisplayTree

end ContentPlayer
