import ContentPlayer.Proofs.Display.Frames
import ContentPlayer.Proofs.Display.Reading

namespace ContentPlayer

namespace Template

mutual

/-- A template whose constructors have run. -/
def spent : Template → Template
  | ⟨name, frames, _, children⟩ => ⟨name, frames, none, spentAll children⟩

def spentAll : List Template → List Template
  | [] => []
  | t :: ts => t.spent :: spentAll ts

end

mutual

theorem nodeCount_spent : ∀ t : Template, t.spent.nodeCount = t.nodeCount
  | ⟨name, frames, constructor, children⟩ => by
    rw [spent, nodeCount, nodeCount, countAll_spentAll children]

theorem countAll_spentAll : ∀ ts : List Template, countAll (spentAll ts) = countAll ts
  | [] => rfl
  | t :: ts => by
    rw [spentAll, countAll, countAll, nodeCount_spent t, countAll_spentAll ts]

end

theorem places_spentAll (first : NodeId) (ts : List Template) :
    places first (spentAll ts) = places first ts := by
  induction ts generalizing first with
  | nil => rfl
  | cons t ts ih => rw [spentAll, places, places, nodeCount_spent, ih]

mutual

/-- A copy whose constructors have run is a copy of the template without them. -/
theorem nodes_spent (first : NodeId) (parent : Option NodeId) : ∀ t : Template,
    t.spent.nodes first parent = (t.nodes first parent).map Node.spent
  | ⟨name, frames, constructor, children⟩ => by
    rw [spent, nodes, nodes, List.map_cons, nodesAll_spentAll, places_spentAll]
    rfl

theorem nodesAll_spentAll (first parent : NodeId) : ∀ ts : List Template,
    nodesAll first parent (spentAll ts) = (nodesAll first parent ts).map Node.spent
  | [] => rfl
  | t :: ts => by
    rw [spentAll, nodesAll, nodesAll, List.map_append, nodes_spent first (some parent) t,
      nodeCount_spent, nodesAll_spentAll (first + t.nodeCount) parent ts]

end

end Template

namespace Stage

variable {ω : Type} (run : ω → ConstructorCall → ω × Except ScriptError Unit) (w : ω) {s : Stage}
  (template : Template) (loader : Option LoaderInfo)

theorem snd_graft : (s.graft run w template loader).2.2.1 = s.tree.size :=
  s.snd_mount template loader

/-- Running the constructors is all that a graft does to objects once the content is mounted. -/
theorem node?_graft (hroot : s.root < s.tree.size) (id : NodeId) :
    (s.graft run w template loader).2.1.tree.node? id =
      if id ∈ template.childrenFirst s.tree.size then
        ((s.mount template loader).1.tree.node? id).map Node.spent
      else (s.mount template loader).1.tree.node? id := by
  have hcovers := s.matches_mount (f := Node.children) (fun _ _ _ => rfl) hroot template loader
  have hgraft : (s.graft run w template loader).2.1.tree =
      (DisplayTree.runConstructors run w (s.mount template loader).1.tree
        (s.mount template loader).2).2.1.announce (s.mount template loader).2 := rfl
  rw [hgraft, DisplayTree.announce_eq, snd_mount, DisplayTree.runConstructors,
    DisplayTree.postOrder_copy hcovers]
  exact DisplayTree.node?_runPending run _ w _ {} id

/-- A graft puts the content behind the other children of the root, and leaves all else that was
there as it was. -/
theorem node?_graft_of_lt (hroot : s.root < s.tree.size) {id : NodeId} (hid : id < s.tree.size) :
    (s.graft run w template loader).2.1.tree.node? id = (s.tree.node? id).map fun n =>
      if id = s.root then { n with children := n.children ++ [s.tree.size] } else n := by
  have hnot : id ∉ template.childrenFirst s.tree.size := by
    rw [(template.childrenFirst_perm _).mem_iff, List.mem_range'_1]
    exact fun hnew => Nat.not_le.mpr hid hnew.1
  rw [node?_graft run w template loader hroot, if_neg hnot, DisplayTree.node?,
    s.nodes_mount hroot template loader,
    List.getElem?_append_left (by rw [List.length_modify]; exact hid), List.getElem?_modify]
  by_cases hself : id = s.root
  · simp [hself, DisplayTree.node?]
  · simp [hself, Ne.symm hself, DisplayTree.node?]

/-- The content is a copy that is at its starting frame, stamped and spent. -/
theorem node?_graft_add (hroot : s.root < s.tree.size) (k : Nat) :
    (s.graft run w template loader).2.1.tree.node? (s.tree.size + k) =
      ((template.nodes s.tree.size (some s.root))[k]?).map fun n =>
        { n.spent with
          timeline := { n.timeline with first := decide (k = 0) }
          loader := if k = 0 then loader else none } := by
  have hmounted : (s.mount template loader).1.tree.node? (s.tree.size + k) =
      ((template.nodes s.tree.size (some s.root)).modifyHead fun n =>
        { n with timeline := { n.timeline with first := true }, loader })[k]? := by
    have hlength : (s.tree.nodes.modify s.root fun n =>
        { n with children := n.children ++ [s.tree.size] }).length = s.tree.size :=
      List.length_modify ..
    rw [DisplayTree.node?, s.nodes_mount hroot template loader,
      List.getElem?_append_right (by rw [hlength]; exact Nat.le_add_right ..), hlength,
      Nat.add_sub_cancel_left]
  have hfresh : ∀ n ∈ template.nodes s.tree.size (some s.root),
      n.timeline.first = false ∧ n.loader = none := by
    intro n hn
    obtain ⟨hloader, total, htotal⟩ := template.fresh_of_mem_nodes hn
    rw [htotal]
    exact ⟨rfl, hloader⟩
  have hlength := template.length_nodes s.tree.size (some s.root)
  have hmem : s.tree.size + k ∈ template.childrenFirst s.tree.size ↔ k < template.nodeCount := by
    rw [(template.childrenFirst_perm _).mem_iff, List.mem_range'_1]
    omega
  rw [node?_graft run w template loader hroot, hmounted]
  by_cases hk : k < template.nodeCount
  · obtain ⟨n, rest, -, hcopy⟩ := template.nodes_eq_cons s.tree.size
    rw [if_pos (hmem.mpr hk)]
    rw [hcopy] at hfresh hlength ⊢
    cases k with
    | zero => rfl
    | succ k =>
      rw [List.modifyHead_cons, List.getElem?_cons_succ, List.getElem?_cons_succ]
      rw [List.length_cons] at hlength
      have hk' : k < rest.length := by omega
      obtain ⟨hfirst, hloader⟩ := hfresh rest[k] (List.mem_cons_of_mem _ (List.getElem_mem hk'))
      rw [List.getElem?_eq_getElem hk', Option.map_some, Option.map_some]
      generalize rest[k] = m at hfirst hloader
      obtain ⟨name, ⟨current, total, playing, first⟩, parent, children, pending, stamp⟩ := m
      cases hfirst
      cases hloader
      simp [Node.spent]
  · rw [if_neg (mt hmem.mp hk), List.getElem?_eq_none, List.getElem?_eq_none]
    · rfl
    · omega
    · rw [List.length_modifyHead]
      omega

end Stage

end ContentPlayer
