import ContentPlayer.Proofs.Display.Content
import ContentPlayer.Proofs.Display.Order

open Relation

namespace ContentPlayer

namespace Timeline

/-- A playhead that plays, and has gone on from the beginning a number of times. -/
structure At (l : Timeline) (steps : Nat) : Prop where
  total_pos : 0 < l.total.toNat
  playing : l.playing = true
  current_eq : l.current.toNat = steps % l.total.toNat

variable {l : Timeline} {steps : Nat}

theorem at_ofTotal (total : UInt32) (first : Bool) :
    Timeline.At { ofTotal total with first } 0 := by
  refine ⟨?_, rfl, (Nat.zero_mod _).symm⟩
  rw [ofTotal, UInt32.toNat_max]
  exact Nat.lt_of_lt_of_le Nat.one_pos (Nat.le_max_right _ _)

theorem At.reset (h : l.At steps) : l.reset.At 0 := ⟨h.total_pos, rfl, (Nat.zero_mod _).symm⟩

theorem At.current_lt (h : l.At steps) : l.current.toNat < l.total.toNat :=
  h.current_eq ▸ Nat.mod_lt steps h.total_pos

/-- The frame after the current one can be counted up to before it wraps around. -/
theorem At.succ_lt_size (h : l.At steps) : l.current.toNat + 1 < UInt32.size :=
  Nat.lt_of_le_of_lt h.current_lt l.total.toNat_lt_size

/-- A playhead that plays goes on to the next of several frames, and from the last to the first. -/
theorem toNat_next (hplaying : l.playing = true) (htotal : 1 < l.total.toNat)
    (hlt : l.current.toNat + 1 < UInt32.size) :
    l.next.toNat = (l.current.toNat + 1) % l.total.toNat := by
  have hsucc : (l.current + 1).toNat = l.current.toNat + 1 := by
    rw [UInt32.toNat_add]
    exact Nat.mod_eq_of_lt hlt
  have hseveral : 1 < l.total := UInt32.lt_iff_toNat_lt.mpr htotal
  rw [next, hplaying, Bool.true_and, if_pos (decide_eq_true hseveral), UInt32.toNat_mod, hsucc]

/-- A playhead that is stopped, or has one frame only, stays. -/
theorem next_eq_current (h : l.playing = false ∨ l.total.toNat ≤ 1) : l.next = l.current := by
  refine if_neg fun hmoves => ?_
  obtain ⟨hplaying, hseveral⟩ := (Bool.and_eq_true _ _).mp hmoves
  have htotal : 1 < l.total.toNat := UInt32.lt_iff_toNat_lt.mp (of_decide_eq_true hseveral)
  rcases h with hstopped | hsingle
  · simp [hstopped] at hplaying
  · omega

theorem At.next (h : l.At steps) : l.next.toNat = (steps + 1) % l.total.toNat := by
  rcases Nat.lt_or_ge 1 l.total.toNat with htotal | htotal
  · rw [toNat_next h.playing htotal h.succ_lt_size, h.current_eq, Nat.mod_add_mod]
  · have hone : l.total.toNat = 1 := Nat.le_antisymm htotal h.total_pos
    rw [next_eq_current (.inr htotal), h.current_eq, hone, Nat.mod_one, Nat.mod_one]

theorem first_advance (l : Timeline) : l.advance.1.first = false := by
  unfold advance
  split
  · rfl
  next hfirst => exact Bool.eq_false_iff.mpr hfirst

/-- A playhead goes on in a frame, but in a starting frame it stays. -/
theorem At.advance (h : l.At steps) :
    l.advance.1.At (steps + if l.first then 0 else 1) := by
  unfold Timeline.advance
  split
  next hfirst => exact ⟨h.total_pos, h.playing, h.current_eq⟩
  next hfirst => exact ⟨h.total_pos, h.playing, h.next⟩

theorem At.iterate_advance (h : l.At steps) (n : Nat) :
    ((fun l : Timeline => l.advance.1)^[n + 1] l).At (steps + if l.first then n else n + 1) := by
  induction n generalizing l steps with
  | zero => simpa using h.advance
  | succ n ih =>
    have hrest := ih h.advance
    rw [l.first_advance, if_neg Bool.false_ne_true] at hrest
    have hcount : steps + (if l.first then n + 1 else n + 1 + 1) =
        steps + (if l.first then 0 else 1) + (n + 1) := by
      split
      · omega
      · omega
    rw [Function.iterate_succ_apply, hcount]
    exact hrest

end Timeline

/-- An object a frame later. -/
def Node.advanced (n : Node) : Node := { n with timeline := n.timeline.advance.1 }

namespace DisplayTree

variable {t : DisplayTree}

theorem timeline_modify (t : DisplayTree) (id k : NodeId) {f : Node → Node}
    (hf : ∀ n, (f n).timeline = n.timeline) : (t.modify id f).timeline k = t.timeline k :=
  t.map_node?_modify id k hf

theorem timeline_eq_none {id : NodeId} : t.timeline id = none ↔ t.size ≤ id := by
  rw [timeline, Option.map_eq_none_iff]
  exact List.getElem?_eq_none_iff

/-- Nodes of new objects, behind those that were there, leave playheads where they are. -/
theorem timeline_of_nodes {t t' : DisplayTree} {nodes : List Node}
    (ht : t'.nodes = t.nodes ++ nodes) (hnodes : ∀ n ∈ nodes, ∃ total, n.timeline = .ofTotal total)
    (id : NodeId) :
    t'.timeline id = t.timeline id ∨
      t.timeline id = none ∧ ∃ total, t'.timeline id = some (.ofTotal total) := by
  rw [timeline, node?, ht]
  rcases Nat.lt_or_ge id t.size with hid | hid
  · rw [List.getElem?_append_left hid]
    exact .inl rfl
  · rw [List.getElem?_append_right hid]
    have hnone : t.timeline id = none := timeline_eq_none.mpr hid
    cases hnode : nodes[id - t.nodes.length]? with
    | none => exact .inl hnone.symm
    | some n =>
      obtain ⟨total, htotal⟩ := hnodes n (List.mem_of_getElem? hnode)
      exact .inr ⟨hnone, total, congrArg some htotal⟩

/-- An edit leaves playheads where they are, and those of new objects are at the beginning. -/
theorem timeline_edit (t : DisplayTree) (e : Edit) (id : NodeId) :
    (t.edit e).timeline id = t.timeline id ∨
      t.timeline id = none ∧ ∃ total, (t.edit e).timeline id = some (.ofTotal total) := by
  cases e with
  | spawn name frames =>
    have hnew : ∀ n ∈ [({ name, timeline := .ofTotal frames } : Node)],
        ∃ total, n.timeline = .ofTotal total := by
      intro n hn
      rw [List.mem_singleton.mp hn]
      exact ⟨frames, rfl⟩
    exact timeline_of_nodes rfl hnew id
  | instantiate template =>
    exact timeline_of_nodes (t.nodes_instantiate template)
      (fun _ hn => (template.fresh_of_mem_nodes hn).2) id
  | addChild parent child => exact .inl (map_node?_addChild (fun _ _ _ => rfl) t parent child id)
  | detach child => exact .inl (map_node?_detach (fun _ _ _ => rfl) t child id)

theorem timeline_foldl_setTimeline {ids : List NodeId} (hids : ids.Nodup)
    (f : Timeline → Timeline) (t : DisplayTree) (k : NodeId) :
    (ids.foldl (fun t id => t.setTimeline id f) t).timeline k =
      if k ∈ ids then (t.timeline k).map f else t.timeline k := by
  induction ids generalizing t with
  | nil => rfl
  | cons id ids ih =>
    obtain ⟨hid, hids⟩ := List.nodup_cons.mp hids
    rw [List.foldl_cons, ih hids, timeline_setTimeline]
    by_cases hk : k = id
    · subst hk
      simp [hid]
    · simp [hk]

open Classical in
/-- A reset puts a playhead at the beginning exactly if its object is in the subtree. -/
theorem timeline_resetSubtree (ht : t.Linked) (hforest : t.Forest) (root k : NodeId) :
    (t.resetSubtree root).timeline k =
      if t.Within k root then (t.timeline k).map Timeline.reset else t.timeline k := by
  rw [resetSubtree, timeline_foldl_setTimeline (nodup_preOrder ht (hforest root))]
  by_cases hk : t.Within k root
  · rw [if_pos hk]
    split
    next => rfl
    next hmem =>
      have hge : t.size ≤ k := Nat.le_of_not_lt fun hlt =>
        hmem ((mem_preOrder ht (hforest root) k).mpr ⟨hlt, hk⟩)
      rw [timeline_eq_none.mpr hge, Option.map_none]
  · rw [if_neg hk, if_neg fun hmem => hk ((mem_preOrder ht (hforest root) k).mp hmem).2]

end DisplayTree

namespace Stage

/-- Every object is advanced once, and all others stay as they are. -/
theorem node?_advanceAll {ids : List NodeId} (hids : ids.Nodup) (t : DisplayTree) (k : NodeId) :
    (advanceAll ids t).1.node? k =
      if k ∈ ids then (t.node? k).map Node.advanced else t.node? k := by
  induction ids generalizing t with
  | nil => rfl
  | cons id ids ih =>
    obtain ⟨hid, hids⟩ := List.nodup_cons.mp hids
    cases hnode : t.node? id with
    | none =>
      have hstep : (advanceAll (id :: ids) t).1 = (advanceAll ids t).1 := by
        simp only [advanceAll, DisplayTree.timeline, hnode, Option.map_none]
      rw [hstep, ih hids]
      by_cases hk : k = id
      · subst hk
        simp [hid, hnode]
      · simp [hk]
    | some n =>
      have hstep : (advanceAll (id :: ids) t).1 =
          (advanceAll ids (t.setTimeline id fun _ => n.timeline.advance.1)).1 := by
        simp only [advanceAll, DisplayTree.timeline, hnode, Option.map_some]
        split <;> rfl
      rw [hstep, ih hids, DisplayTree.setTimeline, DisplayTree.node?_modify]
      by_cases hk : k = id
      · subst hk
        simp [hid, hnode, Node.advanced]
      · simp [hk]

variable {s : Stage}

section Frame

variable (ht : s.tree.Linked) (hroot : ¬ s.tree.Inside s.root s.root)

include ht hroot

theorem mem_cast (k : NodeId) : k ∈ s.cast ↔ s.tree.Inside k s.root := by
  rw [cast, List.mem_filter, DisplayTree.mem_preOrder ht hroot, DisplayTree.Within,
    reflTransGen_iff_eq_or_transGen]
  constructor
  · rintro ⟨⟨-, hself | hinside⟩, hne⟩
    · simp [hself] at hne
    · exact hinside
  · intro hinside
    refine ⟨⟨(ht.lt_size_of_inside hinside).1, .inr hinside⟩, ?_⟩
    have hne : k ≠ s.root := fun hself => hroot (hself ▸ hinside)
    simpa using hne

theorem nodup_cast : s.cast.Nodup := (DisplayTree.nodup_preOrder ht hroot).filter _

open Classical in
/-- A frame advances exactly what is inside the root, and changes nothing else about any object. -/
theorem node?_enterFrame (k : NodeId) :
    s.enterFrame.1.tree.node? k =
      if s.tree.Inside k s.root then (s.tree.node? k).map Node.advanced else s.tree.node? k := by
  have hframe : s.enterFrame.1.tree = (advanceAll s.cast s.tree.drainEvents.1).1 := by
    rw [cast, ← s.tree.preOrder_setEvents []]
    rfl
  rw [hframe, node?_advanceAll (nodup_cast ht hroot)]
  exact if_congr (mem_cast ht hroot k) rfl rfl

open Classical in
theorem timeline_enterFrame (k : NodeId) :
    s.enterFrame.1.tree.timeline k =
      if s.tree.Inside k s.root then (s.tree.timeline k).map fun l => l.advance.1
      else s.tree.timeline k := by
  rw [DisplayTree.timeline, node?_enterFrame ht hroot, apply_ite (Option.map Node.timeline),
    Option.map_map, DisplayTree.timeline, Option.map_map]
  rfl

end Frame

section Graft

variable {ω : Type} (run : ω → ConstructorCall → ω × Except ScriptError Unit) (w : ω)
  (template : Template) (loader : Option LoaderInfo)

/-- A graft leaves playheads where they are, and those of new objects are at the beginning, with
only that of the content at a starting frame. -/
theorem timeline_graft (hroot : s.root < s.tree.size) (id : NodeId) :
    (id ≠ s.tree.size ∧
        (s.graft run w template loader).2.1.tree.timeline id = s.tree.timeline id) ∨
      s.tree.timeline id = none ∧
        ∃ total, (s.graft run w template loader).2.1.tree.timeline id =
          some { Timeline.ofTotal total with first := decide (id = s.tree.size) } := by
  rcases Nat.lt_or_ge id s.tree.size with hid | hid
  · refine .inl ⟨Nat.ne_of_lt hid, ?_⟩
    rw [DisplayTree.timeline, node?_graft_of_lt run w template loader hroot hid, Option.map_map,
      DisplayTree.timeline]
    congr 1
    funext n
    simp only [Function.comp_apply]
    split <;> rfl
  · obtain ⟨k, rfl⟩ := Nat.exists_eq_add_of_le hid
    have hlength := template.length_nodes s.tree.size (some s.root)
    have hpos := template.nodeCount_pos
    have hnone : s.tree.timeline (s.tree.size + k) = none := DisplayTree.timeline_eq_none.mpr hid
    rw [DisplayTree.timeline, node?_graft_add run w template loader hroot, Option.map_map, hnone]
    cases hnode : (template.nodes s.tree.size (some s.root))[k]? with
    | none =>
      rw [List.getElem?_eq_none_iff, hlength] at hnode
      have hk : 0 < k := Nat.lt_of_lt_of_le hpos hnode
      exact .inl ⟨Nat.ne_of_gt (Nat.lt_add_of_pos_right hk), rfl⟩
    | some n =>
      obtain ⟨-, total, htotal⟩ := template.fresh_of_mem_nodes (List.mem_of_getElem? hnode)
      refine .inr ⟨rfl, total, ?_⟩
      simp [htotal]

end Graft

end Stage

end ContentPlayer
