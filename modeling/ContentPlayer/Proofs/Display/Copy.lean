import ContentPlayer.Proofs.Display.Growth
import ContentPlayer.Proofs.Display.Pending

namespace ContentPlayer

namespace Template

/-- The numbers of copies that are made one after the other. -/
def places (first : NodeId) : List Template → List NodeId
  | [] => []
  | t :: ts => first :: places (first + t.nodeCount) ts

mutual

/-- The objects of a copy, in the order of their numbers, of which the first is given. -/
def nodes (first : NodeId) (parent : Option NodeId) : Template → List Node
  | ⟨name, frames, constructor, children⟩ =>
    { name
      timeline := .ofTotal frames
      parent
      children := places (first + 1) children
      pending := constructor } :: nodesAll (first + 1) first children

def nodesAll (first parent : NodeId) : List Template → List Node
  | [] => []
  | t :: ts => t.nodes first (some parent) ++ nodesAll (first + t.nodeCount) parent ts

end

mutual

/-- The numbers of a copy, children first. -/
def childrenFirst (first : NodeId) : Template → List NodeId
  | ⟨_, _, _, children⟩ => childrenFirstAll (first + 1) children ++ [first]

def childrenFirstAll (first : NodeId) : List Template → List NodeId
  | [] => []
  | t :: ts => t.childrenFirst first ++ childrenFirstAll (first + t.nodeCount) ts

end

mutual

/-- The constructors of a template, children first. -/
def constructors : Template → List ConstructorCall
  | ⟨name, _, constructor, children⟩ =>
    constructorsAll children ++ (constructor.map (⟨name, ·⟩)).toList

def constructorsAll : List Template → List ConstructorCall
  | [] => []
  | t :: ts => t.constructors ++ constructorsAll ts

end

mutual

theorem length_nodes (first : NodeId) (parent : Option NodeId) : ∀ t : Template,
    (t.nodes first parent).length = t.nodeCount
  | ⟨name, frames, constructor, children⟩ => by
    have hchildren := length_nodesAll (first + 1) first children
    rw [nodes, nodeCount, List.length_cons, hchildren, Nat.add_comm]

theorem length_nodesAll (first parent : NodeId) : ∀ ts : List Template,
    (nodesAll first parent ts).length = countAll ts
  | [] => rfl
  | t :: ts => by
    rw [nodesAll, countAll, List.length_append, length_nodes first (some parent) t,
      length_nodesAll (first + t.nodeCount) parent ts]

end

theorem nodeCount_pos (t : Template) : 0 < t.nodeCount := by
  cases t
  rw [nodeCount]
  omega

/-- Only the first object of a copy has the parent that is given. -/
theorem nodes_eq_cons (first : NodeId) (t : Template) : ∃ (n : Node) (rest : List Node),
    n.loader = none ∧ ∀ parent, t.nodes first parent = { n with parent } :: rest := by
  obtain ⟨name, frames, constructor, children⟩ := t
  let n : Node :=
    { name
      timeline := .ofTotal frames
      children := places (first + 1) children
      pending := constructor }
  exact ⟨n, nodesAll (first + 1) first children, rfl, fun parent => rfl⟩

mutual

/-- Each object of a copy is at the beginning, and nothing has been stamped on it. -/
theorem fresh_of_mem_nodes : ∀ (t : Template) {first : NodeId} {parent : Option NodeId} {n : Node},
    n ∈ t.nodes first parent → n.loader = none ∧ ∃ total, n.timeline = .ofTotal total
  | ⟨name, frames, constructor, children⟩, first, parent, n, hn => by
    rw [nodes] at hn
    rcases List.mem_cons.mp hn with rfl | hn
    · exact ⟨rfl, frames, rfl⟩
    · exact fresh_of_mem_nodesAll children hn

theorem fresh_of_mem_nodesAll : ∀ (ts : List Template) {first parent : NodeId} {n : Node},
    n ∈ nodesAll first parent ts → n.loader = none ∧ ∃ total, n.timeline = .ofTotal total
  | [], first, parent, n, hn => by
    rw [nodesAll] at hn
    cases hn
  | t :: ts, first, parent, n, hn => by
    rw [nodesAll] at hn
    rcases List.mem_append.mp hn with hn | hn
    · exact fresh_of_mem_nodes t hn
    · exact fresh_of_mem_nodesAll ts hn

end

mutual

theorem childrenFirst_perm (first : NodeId) : ∀ t : Template,
    (t.childrenFirst first).Perm (List.range' first t.nodeCount)
  | ⟨name, frames, constructor, children⟩ => by
    rw [childrenFirst, nodeCount, Nat.add_comm 1, List.range'_succ]
    refine (List.perm_append_singleton _ _).trans (.cons _ ?_)
    exact childrenFirstAll_perm (first + 1) children

theorem childrenFirstAll_perm (first : NodeId) : ∀ ts : List Template,
    (childrenFirstAll first ts).Perm (List.range' first (countAll ts))
  | [] => .refl _
  | t :: ts => by
    rw [childrenFirstAll, countAll, ← List.range'_append_1]
    exact (childrenFirst_perm first t).append (childrenFirstAll_perm (first + t.nodeCount) ts)

end

theorem nodup_childrenFirst (first : NodeId) (t : Template) : (t.childrenFirst first).Nodup :=
  (t.childrenFirst_perm first).nodup_iff.mpr List.nodup_range'

end Template

namespace DisplayTree

theorem modify_append_left {α : Type} {l : List α} {i : Nat} (hi : i < l.length) (r : List α)
    (f : α → α) : (l ++ r).modify i f = l.modify i f ++ r := by
  induction l generalizing i with
  | nil => cases hi
  | cons a l ih =>
    cases i with
    | zero => rfl
    | succ i => simp [ih (Nat.lt_of_succ_lt_succ hi)]

theorem modify_append_length {α : Type} {l : List α} {i : Nat} (hi : l.length = i) (a : α)
    (r : List α) (f : α → α) : (l ++ a :: r).modify i f = l ++ f a :: r := by
  subst hi
  induction l with
  | nil => rfl
  | cons b l ih => simp [ih]

/-- An object that takes another one, which was in none. -/
theorem nodes_addChild {t : DisplayTree} {p : NodeId} {front rest : List Node} {n : Node}
    (hnodes : t.nodes = front ++ n :: rest) (hparent : n.parent = none) (hp : p < front.length) :
    (t.addChild p front.length).1.nodes =
      (front.modify p fun m => { m with children := m.children ++ [front.length] }) ++
        { n with parent := some p } :: rest := by
  have hsize : t.size = front.length + (rest.length + 1) := by simp [size, hnodes]
  have hnode : t.node? front.length = some n := by simp [node?, hnodes]
  have hlt : front.length < t.size := by omega
  have hcontains : t.contains p = true ∧ t.contains front.length = true :=
    ⟨contains_iff.mpr (Nat.lt_trans hp hlt), contains_iff.mpr hlt⟩
  have hdetach : t.detach front.length = t := by
    simp [detach, parent, hnode, hparent]
  have hne : p ≠ front.length := Nat.ne_of_lt hp
  simp only [addChild, hne, hcontains, hdetach, modify, hnodes, modify_append_left hp,
    modify_append_length (front.length_modify _ p)]
  simp

mutual

/-- A copy puts its objects behind those that are there. -/
theorem nodes_instantiate (t : DisplayTree) : ∀ template : Template,
    (t.instantiate template).1.nodes = t.nodes ++ template.nodes t.size none
  | ⟨name, frames, constructor, children⟩ => by
    rw [instantiate]
    let t' := (t.spawn name frames).1.setPending t.size constructor
    have hnodes : t'.nodes =
        t.nodes ++ [{ name, timeline := .ofTotal frames, pending := constructor }] :=
      modify_append_length rfl _ [] _
    have hsize : t'.size = t.size + 1 := by simp [size, hnodes]
    have hlt : t.size < t'.size := by omega
    have hrest := nodes_instantiateAll t' hlt children
    rw [hnodes, modify_append_length (i := t.size) rfl, hsize] at hrest
    refine hrest.trans ?_
    simp [Template.nodes]

theorem nodes_instantiateAll (t : DisplayTree) {parent : NodeId} (hp : parent < t.size) :
    ∀ templates : List Template, (t.instantiateAll parent templates).nodes =
      (t.nodes.modify parent fun n =>
        { n with children := n.children ++ Template.places t.size templates }) ++
          Template.nodesAll t.size parent templates
  | [] => by
    have hsame : (fun n : Node => { n with children := n.children ++ Template.places t.size [] }) =
        id := by
      funext n
      simp [Template.places]
    rw [instantiateAll, hsame, List.modify_id, Template.nodesAll, List.append_nil]
  | template :: templates => by
    rw [instantiateAll]
    obtain ⟨n, rest, -, hcopy⟩ := template.nodes_eq_cons t.size
    have hnodes := nodes_instantiate t template
    rw [hcopy] at hnodes
    let t' := ((t.instantiate template).1.addChild parent (t.instantiate template).2).1
    have hadded : t'.nodes = (t.nodes.modify parent fun m =>
        { m with children := m.children ++ [t.size] }) ++
          template.nodes t.size (some parent) := by
      rw [hcopy]
      simp only [t', snd_instantiate]
      exact nodes_addChild (n := { n with parent := none }) hnodes rfl hp
    have hsize : t'.size = t.size + template.nodeCount := by
      simp [size, hadded, Template.length_nodes]
    have hlt : parent < (t.nodes.modify parent fun m =>
        { m with children := m.children ++ [t.size] }).length :=
      (List.length_modify _ _ _).symm ▸ hp
    have hlt' : parent < t'.size := hsize ▸ Nat.lt_add_right _ hp
    have hrest := nodes_instantiateAll t' hlt' templates
    rw [hadded, modify_append_left hlt, List.modify_modify_eq, hsize] at hrest
    refine hrest.trans ?_
    simp [Template.places, Template.nodesAll, Function.comp_def]

end

theorem size_instantiate (t : DisplayTree) (template : Template) :
    (t.instantiate template).1.size = t.size + template.nodeCount := by
  simp [size, nodes_instantiate, template.length_nodes]

/-- A copy leaves all that was there as it was. -/
theorem node?_instantiate_of_lt {t : DisplayTree} {id : NodeId} (hid : id < t.size)
    (template : Template) : (t.instantiate template).1.node? id = t.node? id := by
  rw [node?, nodes_instantiate, List.getElem?_append_left hid, node?]

theorem node?_instantiate_add (t : DisplayTree) (template : Template) (k : Nat) :
    (t.instantiate template).1.node? (t.size + k) = (template.nodes t.size none)[k]? := by
  have hsize : t.nodes.length = t.size := rfl
  rw [node?, nodes_instantiate, List.getElem?_append_right (by omega), hsize,
    Nat.add_sub_cancel_left]

section Traversal

/-- From a number on there are objects that are like some nodes, as far as `f` sees. -/
def Matches {α : Type} (t : DisplayTree) (f : Node → α) (first : NodeId) (nodes : List Node) :
    Prop :=
  ∀ k n, nodes[k]? = some n → (t.node? (first + k)).map f = some (f n)

variable {t : DisplayTree} {α : Type} {f : Node → α} {first : NodeId} {nodes rest : List Node}

theorem Matches.left (h : t.Matches f first (nodes ++ rest)) : t.Matches f first nodes := by
  intro k n hn
  have hk : k < nodes.length := (List.getElem?_eq_some_iff.mp hn).1
  exact h k n ((List.getElem?_append_left hk).trans hn)

theorem Matches.right (h : t.Matches f first (nodes ++ rest)) :
    t.Matches f (first + nodes.length) rest := by
  intro k n hn
  rw [Nat.add_assoc]
  refine h (nodes.length + k) n ?_
  rw [List.getElem?_append_right (Nat.le_add_right _ _), Nat.add_sub_cancel_left, hn]

theorem Matches.head {n : Node} (h : t.Matches f first (n :: rest)) :
    ∃ n', t.node? first = some n' ∧ f n' = f n :=
  Option.map_eq_some_iff.mp (h 0 n rfl)

theorem Matches.tail {n : Node} (h : t.Matches f first (n :: rest)) :
    t.Matches f (first + 1) rest := by
  have hsplit : t.Matches f first ([n] ++ rest) := h
  exact hsplit.right

theorem Matches.congr {nodes' : List Node} (h : t.Matches f first nodes)
    (hnodes : nodes'.map f = nodes.map f) : t.Matches f first nodes' := by
  intro k n hn
  have hmap : (nodes.map f)[k]? = some (f n) := by
    rw [← hnodes, List.getElem?_map, hn, Option.map_some]
  obtain ⟨n', hn', hf⟩ := Option.map_eq_some_iff.mp ((List.getElem?_map ..).symm.trans hmap)
  rw [h k n' hn', hf]

theorem Matches.le_size (h : t.Matches f first nodes) (hnodes : nodes ≠ []) :
    first + nodes.length ≤ t.size := by
  have hlength := List.length_pos_iff.mpr hnodes
  obtain ⟨n, hnode, -⟩ := Option.map_eq_some_iff.mp (h (nodes.length - 1) _
    (List.getElem?_eq_getElem (Nat.sub_lt hlength Nat.one_pos)))
  have hlt : first + (nodes.length - 1) < t.size := (List.getElem?_eq_some_iff.mp hnode).1
  have hlast : first + nodes.length = first + (nodes.length - 1) + 1 := by
    rw [Nat.add_assoc, Nat.sub_add_cancel hlength]
  exact hlast ▸ hlt

/-- A copy is there, as far as the links go down. -/
abbrev Covers (t : DisplayTree) : NodeId → List Node → Prop := t.Matches Node.children

mutual

/-- A walk comes through a copy in the order of its numbers. -/
theorem walk_copy : ∀ (template : Template) {first : NodeId} {parent : Option NodeId},
    t.Covers first (template.nodes first parent) → ∀ k rest,
      t.walk (template.nodeCount + k) (first :: rest) =
        (t.walk k rest).map (List.range' first template.nodeCount ++ ·)
  | ⟨name, frames, constructor, children⟩, first, parent, h, k, rest => by
    rw [Template.nodes] at h
    obtain ⟨n, hnode, hchildren⟩ := h.head
    have hrest := walk_copies children h.tail k rest
    rw [Template.nodeCount, Nat.add_assoc, Nat.add_comm 1, Nat.add_comm 1, walk, hnode]
    simp only [hchildren, hrest, Option.map_map, List.range'_succ]
    rfl

theorem walk_copies : ∀ (templates : List Template) {first parent : NodeId},
    t.Covers first (Template.nodesAll first parent templates) → ∀ k rest,
      t.walk (Template.countAll templates + k) (Template.places first templates ++ rest) =
        (t.walk k rest).map (List.range' first (Template.countAll templates) ++ ·)
  | [], first, parent, h, k, rest => by
    simp [Template.countAll, Template.places]
  | template :: templates, first, parent, h, k, rest => by
    rw [Template.nodesAll] at h
    have hright := h.right
    rw [Template.length_nodes] at hright
    rw [Template.places, Template.countAll, Nat.add_assoc, List.cons_append,
      walk_copy template h.left, walk_copies templates hright, Option.map_map,
      ← List.range'_append_1]
    simp only [List.append_assoc]
    rfl

end

theorem nodeCount_le_of_covers {template : Template} {first : NodeId} {parent : Option NodeId}
    (h : t.Covers first (template.nodes first parent)) : template.nodeCount ≤ t.size := by
  have hpos := template.nodeCount_pos
  rw [← template.length_nodes first parent] at hpos ⊢
  exact Nat.le_trans (Nat.le_add_left _ first) (h.le_size (List.length_pos_iff.mp hpos))

theorem preOrder_copy {template : Template} {first : NodeId} {parent : Option NodeId}
    (h : t.Covers first (template.nodes first parent)) :
    t.preOrder first = List.range' first template.nodeCount := by
  have hle := nodeCount_le_of_covers h
  obtain ⟨k, hk⟩ := Nat.exists_eq_add_of_le (Nat.le_succ_of_le hle)
  have hwalk := walk_copy template h k []
  rw [← hk] at hwalk
  rw [preOrder, hwalk]
  simp [walk]

mutual

/-- A climb through a copy that is no higher than the bound. -/
theorem climb_copy : ∀ (template : Template) {first : NodeId} {parent : Option NodeId},
    t.Covers first (template.nodes first parent) → ∀ bound, template.nodeCount ≤ bound →
      t.climb bound first = some (template.childrenFirst first)
  | ⟨name, frames, constructor, children⟩, first, parent, h, bound, hbound => by
    rw [Template.nodes] at h
    obtain ⟨n, hnode, hchildren⟩ := h.head
    rw [Template.nodeCount] at hbound
    obtain ⟨bound, rfl⟩ := Nat.exists_eq_add_of_le' (Nat.le_of_add_right_le hbound)
    have hrest := climb_copies children h.tail bound (by omega)
    obtain ⟨lists, hlists, hflat⟩ := Option.map_eq_some_iff.mp hrest
    rw [climb, hnode]
    simp only [hchildren, hlists, Option.map_some, hflat]
    rfl

theorem climb_copies : ∀ (templates : List Template) {first parent : NodeId},
    t.Covers first (Template.nodesAll first parent templates) → ∀ bound,
      Template.countAll templates ≤ bound →
        ((Template.places first templates).mapM (t.climb bound)).map List.flatten =
          some (Template.childrenFirstAll first templates)
  | [], first, parent, h, bound, hbound => rfl
  | template :: templates, first, parent, h, bound, hbound => by
    rw [Template.nodesAll] at h
    have hright := h.right
    rw [Template.length_nodes] at hright
    rw [Template.countAll] at hbound
    have hhead := climb_copy template h.left bound (by omega)
    have hrest := climb_copies templates hright bound (by omega)
    obtain ⟨lists, hlists, hflat⟩ := Option.map_eq_some_iff.mp hrest
    simp [Template.places, Template.childrenFirstAll, List.mapM_cons, hhead, hlists, hflat]

end

theorem postOrder_copy {template : Template} {first : NodeId} {parent : Option NodeId}
    (h : t.Covers first (template.nodes first parent)) :
    t.postOrder first = template.childrenFirst first := by
  have hle := nodeCount_le_of_covers h
  rw [postOrder, climb_copy template h _ (Nat.le_succ_of_le hle), Option.getD_some]

end Traversal

section Construct

variable {t : DisplayTree}

mutual

theorem filterMap_childrenFirst : ∀ (template : Template) {first : NodeId}
    {parent : Option NodeId}, t.Matches Node.call? first (template.nodes first parent) →
      (template.childrenFirst first).filterMap t.call? = template.constructors
  | ⟨name, frames, constructor, children⟩, first, parent, h => by
    rw [Template.nodes] at h
    obtain ⟨n, hnode, hcall⟩ := h.head
    have hrest := filterMap_childrenFirstAll children h.tail
    have hself : t.call? first = constructor.map (⟨name, ·⟩) := by
      rw [call?, hnode]
      exact hcall
    rw [Template.childrenFirst, Template.constructors, List.filterMap_append, hrest]
    cases constructor <;> simp [hself]

theorem filterMap_childrenFirstAll : ∀ (templates : List Template) {first parent : NodeId},
    t.Matches Node.call? first (Template.nodesAll first parent templates) →
      (Template.childrenFirstAll first templates).filterMap t.call? =
        Template.constructorsAll templates
  | [], first, parent, h => rfl
  | template :: templates, first, parent, h => by
    rw [Template.nodesAll] at h
    have hright := h.right
    rw [Template.length_nodes] at hright
    rw [Template.childrenFirstAll, Template.constructorsAll, List.filterMap_append,
      filterMap_childrenFirst template h.left, filterMap_childrenFirstAll templates hright]

end

end Construct

end DisplayTree

section Mount

/-- The playhead of a fresh copy is at the beginning. -/
theorem Template.reset_of_mem_nodes (t : Template) {first : NodeId} {parent : Option NodeId}
    (n : Node) (hn : n ∈ t.nodes first parent) : n.timeline.reset = n.timeline := by
  obtain ⟨-, total, htotal⟩ := t.fresh_of_mem_nodes hn
  rw [htotal]
  rfl

theorem DisplayTree.matches_of_nodes {α : Type} {t : DisplayTree} {f : Node → α}
    {front nodes : List Node} (h : t.nodes = front ++ nodes) : t.Matches f front.length nodes := by
  intro k n hn
  rw [node?, h, List.getElem?_append_right (Nat.le_add_right _ _), Nat.add_sub_cancel_left, hn]
  rfl

theorem DisplayTree.setTimeline_eq_self {t : DisplayTree} {id : NodeId} {f : Timeline → Timeline}
    (h : ∀ n, t.node? id = some n → f n.timeline = n.timeline) : t.setTimeline id f = t := by
  have hnodes : t.nodes.modify id (fun n => { n with timeline := f n.timeline }) = t.nodes := by
    refine List.ext_getElem? fun k => ?_
    rw [List.getElem?_modify]
    cases hnode : t.nodes[k]? with
    | none => rfl
    | some n =>
      by_cases hk : id = k
      · subst hk
        simp [h n hnode]
      · simp [hk]
  simp only [setTimeline, modify, hnodes]

/-- Nothing changes where all playheads are at the beginning. -/
theorem DisplayTree.resetSubtree_eq_self {t : DisplayTree} {root : NodeId}
    (h : ∀ id ∈ t.preOrder root, ∀ n, t.node? id = some n → n.timeline.reset = n.timeline) :
    t.resetSubtree root = t := by
  rw [resetSubtree]
  generalize t.preOrder root = ids at h
  induction ids with
  | nil => rfl
  | cons id ids ih =>
    rw [List.foldl_cons, setTimeline_eq_self (h id (List.mem_cons_self ..))]
    exact ih fun k hk => h k (List.mem_cons_of_mem _ hk)

/-- The tree with an object stamped, if there is something to stamp it with. -/
def DisplayTree.stamped (t : DisplayTree) (id : NodeId) : Option LoaderInfo → DisplayTree
  | some info => t.stamp id info
  | none => t

/-- The root takes the content behind its other children; the content is a copy, at its starting
frame, and stamped. -/
theorem Stage.nodes_mount (s : Stage) (hroot : s.root < s.tree.size) (template : Template)
    (loader : Option LoaderInfo) :
    (s.mount template loader).1.tree.nodes =
      (s.tree.nodes.modify s.root fun n => { n with children := n.children ++ [s.tree.size] }) ++
        (template.nodes s.tree.size (some s.root)).modifyHead fun n =>
          { n with timeline := { n.timeline with first := true }, loader } := by
  obtain ⟨n, rest, hloader, hcopy⟩ := template.nodes_eq_cons s.tree.size
  let t : DisplayTree := (s.tree.instantiate template).1.stamped s.tree.size loader
  have hnodes : t.nodes = s.tree.nodes ++ { n with parent := none, loader } :: rest := by
    have hfresh := s.tree.nodes_instantiate template
    rw [hcopy] at hfresh
    cases loader with
    | none =>
      refine hfresh.trans ?_
      rw [← hloader]
    | some info =>
      simp only [t, DisplayTree.stamped, DisplayTree.stamp, DisplayTree.modify, hfresh]
      exact DisplayTree.modify_append_length rfl _ _ _
  have hreset : t.resetSubtree s.tree.size = t := by
    have hcovers : t.Covers s.tree.size (template.nodes s.tree.size none) := by
      refine (DisplayTree.matches_of_nodes hnodes).congr ?_
      rw [hcopy]
      rfl
    refine DisplayTree.resetSubtree_eq_self ?_
    rw [DisplayTree.preOrder_copy hcovers]
    intro id hid m hm
    obtain ⟨k, hk, rfl⟩ := List.mem_range'.mp hid
    have htimeline : t.Matches Node.timeline s.tree.size (template.nodes s.tree.size none) := by
      refine (DisplayTree.matches_of_nodes hnodes).congr ?_
      rw [hcopy]
      rfl
    rw [← template.length_nodes s.tree.size none] at hk
    have hseen := htimeline k _ (List.getElem?_eq_getElem hk)
    rw [Nat.one_mul] at hm
    rw [hm, Option.map_some, Option.some_inj] at hseen
    rw [hseen]
    exact template.reset_of_mem_nodes _ (List.getElem_mem hk)
  have hmount : (s.mount template loader).1.tree =
      ((t.setTimeline s.tree.size fun l => { l with first := true }).addChild s.root
        s.tree.size).1 := by
    rw [← hreset]
    simp only [mount, s.tree.snd_instantiate template]
    rfl
  have hstarted : (t.setTimeline s.tree.size fun l => { l with first := true }).nodes =
      s.tree.nodes ++ { n with
        parent := none, timeline := { n.timeline with first := true }, loader } :: rest := by
    simp only [DisplayTree.setTimeline, DisplayTree.modify, hnodes]
    exact DisplayTree.modify_append_length rfl _ _ _
  rw [hmount, hcopy]
  exact DisplayTree.nodes_addChild hstarted rfl hroot

end Mount

section Graft

namespace Stage

/-- The content of a stage is a copy of a template, as far as `f` sees, which does not look at
playheads and stamps. -/
theorem matches_mount {α : Type} {f : Node → α}
    (hf : ∀ n timeline loader, f { n with timeline, loader } = f n) (s : Stage)
    (hroot : s.root < s.tree.size) (template : Template) (loader : Option LoaderInfo) :
    (s.mount template loader).1.tree.Matches f s.tree.size
      (template.nodes s.tree.size (some s.root)) := by
  have hmatches := DisplayTree.matches_of_nodes (f := f) (s.nodes_mount hroot template loader)
  rw [List.length_modify] at hmatches
  refine hmatches.congr ?_
  obtain ⟨n, rest, -, hcopy⟩ := template.nodes_eq_cons s.tree.size
  rw [hcopy, List.modifyHead_cons, List.map_cons, List.map_cons, hf]

theorem snd_mount (s : Stage) (template : Template) (loader : Option LoaderInfo) :
    (s.mount template loader).2 = s.tree.size := by
  obtain ⟨t, -, hmount⟩ := s.mount_eq template loader
  exact congrArg Prod.snd hmount

variable {ω : Type} (run : ω → ConstructorCall → ω × Except ScriptError Unit)

/-- What a graft does outside is what the constructors of its template do one after the other. -/
theorem fst_graft (w : ω) (s : Stage) (hroot : s.root < s.tree.size) (template : Template)
    (loader : Option LoaderInfo) :
    (s.graft run w template loader).1 =
      template.constructors.foldl (fun w call => (run w call).1) w := by
  have hcovers := s.matches_mount (f := Node.children) (fun _ _ _ => rfl) hroot template loader
  have hcalls := s.matches_mount (f := Node.call?) (fun _ _ _ => rfl) hroot template loader
  have hgraft : (s.graft run w template loader).1 = (DisplayTree.runConstructors run w
      (s.mount template loader).1.tree (s.mount template loader).2).1 := rfl
  rw [hgraft, snd_mount, DisplayTree.runConstructors, DisplayTree.postOrder_copy hcovers,
    (DisplayTree.runPending_calls run (template.nodup_childrenFirst _) _ _ _).1,
    DisplayTree.filterMap_childrenFirst template hcalls]

end Stage

end Graft

end ContentPlayer
