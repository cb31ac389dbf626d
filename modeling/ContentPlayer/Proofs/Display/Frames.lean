import ContentPlayer.Proofs.Display.Copy
import ContentPlayer.Proofs.Display.Events
import ContentPlayer.Proofs.Display.Traversal

namespace ContentPlayer

namespace DisplayTree

/-- The next frame is a starting frame of an object. -/
def starts (t : DisplayTree) (id : NodeId) : Bool := (t.timeline id).any Timeline.first

theorem timeline_setTimeline (t : DisplayTree) (id k : NodeId) (f : Timeline → Timeline) :
    (t.setTimeline id f).timeline k =
      if k = id then (t.timeline k).map f else t.timeline k := by
  simp only [timeline, setTimeline, node?_modify]
  split
  · cases t.node? k <;> rfl
  · rfl

variable {ω : Type} (run : ω → ConstructorCall → ω × Except ScriptError Unit)

theorem timeline_runPending (ids : List NodeId) (w : ω) (t : DisplayTree)
    (report : ConstructorReport) (k : NodeId) :
    (runPending run ids (w, t, report)).2.1.timeline k = t.timeline k := by
  rw [timeline, node?_runPending, timeline]
  split
  · rw [Option.map_map]
    rfl
  · rfl

/-- The links down are all that a copy needs to be covered. -/
theorem SameLinks.covers {t t' : DisplayTree} (h : t.SameLinks t') {first : NodeId}
    {nodes : List Node} (ht : t.Covers first nodes) : t'.Covers first nodes := by
  intro k n hn
  obtain ⟨m, hnode, hm⟩ := Option.map_eq_some_iff.mp (ht k n hn)
  have hlt : first + k < t'.size := h.size_eq ▸ (List.getElem?_eq_some_iff.mp hnode).1
  obtain ⟨m', hnode'⟩ := exists_node hlt
  have hchildren := h.children_eq (first + k)
  rw [DisplayTree.children_eq hnode, DisplayTree.children_eq hnode', hm] at hchildren
  rw [hnode', Option.map_some, hchildren]

end DisplayTree

namespace Stage

/-- Every object is taken on once: it starts, or it advances. -/
theorem advanceAll_eq {ids : List NodeId} (hids : ids.Nodup) {t : DisplayTree}
    (hmem : ∀ id ∈ ids, id < t.size) :
    (advanceAll ids t).2 = (ids.filter t.starts, ids.countP fun id => !t.starts id) := by
  induction ids generalizing t with
  | nil => rfl
  | cons id ids ih =>
    obtain ⟨hid, hids⟩ := List.nodup_cons.mp hids
    obtain ⟨n, hnode⟩ := DisplayTree.exists_node (hmem id (List.mem_cons_self ..))
    have htimeline : t.timeline id = some n.timeline := by simp [DisplayTree.timeline, hnode]
    let t' := t.setTimeline id fun _ => n.timeline.advance.1
    have hstarts : ∀ k ∈ ids, t'.starts k = t.starts k := by
      intro k hk
      have hne : k ≠ id := ne_of_mem_of_not_mem hk hid
      rw [DisplayTree.starts, DisplayTree.timeline_setTimeline, if_neg hne, DisplayTree.starts]
    have hrest : (advanceAll ids t').2 =
        (ids.filter t.starts, ids.countP fun id => !t.starts id) := by
      have hsize : t'.size = t.size := t.size_modify id _
      have hlt : ∀ k ∈ ids, k < t'.size := fun k hk => hsize ▸ hmem k (List.mem_cons_of_mem _ hk)
      rw [ih hids hlt, List.filter_congr hstarts]
      refine congrArg (Prod.mk _) (List.countP_congr fun k hk => ?_)
      rw [hstarts k hk]
    cases hfirst : n.timeline.first with
    | true =>
      have hphase : n.timeline.advance.2 = .start := by simp [Timeline.advance, hfirst]
      have hstep : (advanceAll (id :: ids) t).2 =
          (id :: (advanceAll ids t').2.1, (advanceAll ids t').2.2) := by
        simp only [advanceAll, htimeline, hphase, t']
      have hself : t.starts id = true := by simp [DisplayTree.starts, htimeline, hfirst]
      simp [hstep, hrest, hself]
    | false =>
      have hphase : n.timeline.advance.2 = .advanced n.timeline.next := by
        simp [Timeline.advance, hfirst]
      have hstep : (advanceAll (id :: ids) t).2 =
          ((advanceAll ids t').2.1, (advanceAll ids t').2.2 + 1) := by
        simp only [advanceAll, htimeline, hphase, t']
      have hself : t.starts id = false := by simp [DisplayTree.starts, htimeline, hfirst]
      simp [hstep, hrest, hself]

/-- What is on stage, but the root. -/
def cast (s : Stage) : List NodeId := (s.tree.preOrder s.root).filter (· != s.root)

theorem enterFrame_eq {s : Stage} (hcast : s.cast.Nodup) (hlt : ∀ id ∈ s.cast, id < s.tree.size) :
    s.enterFrame.2 =
      { frame := s.frame + 1
        started := s.cast.filter s.tree.starts
        advanced := s.cast.countP fun id => !s.tree.starts id
        events := s.tree.events } := by
  have hadvanced : (advanceAll s.cast s.tree.drainEvents.1).2 =
      (s.cast.filter s.tree.starts, s.cast.countP fun id => !s.tree.starts id) :=
    advanceAll_eq hcast hlt
  have htick : s.enterFrame.2 =
      { frame := s.frame + 1
        started := (advanceAll s.cast s.tree.drainEvents.1).2.1
        advanced := (advanceAll s.cast s.tree.drainEvents.1).2.2
        events := s.tree.events } := by
    rw [cast, ← s.tree.preOrder_setEvents []]
    rfl
  rw [htick, hadvanced]

section Graft

variable {ω : Type} (run : ω → ConstructorCall → ω × Except ScriptError Unit) (w : ω) {s : Stage}
  (template : Template) (loader : Option LoaderInfo)

theorem covers_graft (hroot : s.root < s.tree.size) :
    (s.graft run w template loader).2.1.tree.Covers s.tree.size
      (template.nodes s.tree.size (some s.root)) := by
  have hmounted := s.matches_mount (f := Node.children) (fun _ _ _ => rfl) hroot template loader
  have hran := DisplayTree.sameLinks_runConstructors run w (s.mount template loader).1.tree
    (s.mount template loader).2
  exact (hran.trans (DisplayTree.sameLinks_announce _ _)).covers hmounted

/-- Only the content itself is at a starting frame. -/
theorem starts_graft (hroot : s.root < s.tree.size) {k : Nat} (hk : k < template.nodeCount) :
    (s.graft run w template loader).2.1.tree.starts (s.tree.size + k) = decide (k = 0) := by
  have hmounted := DisplayTree.matches_of_nodes (f := fun n => n.timeline.first)
    (s.nodes_mount hroot template loader)
  have htimeline : (s.graft run w template loader).2.1.tree.timeline (s.tree.size + k) =
      (s.mount template loader).1.tree.timeline (s.tree.size + k) := by
    have hgraft : (s.graft run w template loader).2.1.tree =
        (DisplayTree.runConstructors run w (s.mount template loader).1.tree
          (s.mount template loader).2).2.1.announce (s.mount template loader).2 := rfl
    rw [hgraft, DisplayTree.announce_eq]
    exact DisplayTree.timeline_runPending run _ w _ {} _
  have hsize : s.tree.nodes.length = s.tree.size := rfl
  rw [List.length_modify, hsize] at hmounted
  rw [DisplayTree.starts, htimeline, DisplayTree.timeline]
  obtain ⟨n, rest, -, hcopy⟩ := template.nodes_eq_cons s.tree.size
  rw [hcopy, List.modifyHead_cons] at hmounted
  cases k with
  | zero =>
    obtain ⟨m, hnode, hm⟩ := Option.map_eq_some_iff.mp (hmounted 0 _ rfl)
    have hfirst : m.timeline.first = true := hm
    rw [hnode, Option.map_some, Option.any_some, hfirst]
    rfl
  | succ k =>
    have hlength := template.length_nodes s.tree.size (some s.root)
    rw [hcopy, List.length_cons] at hlength
    have hk' : k < rest.length := by omega
    obtain ⟨m, hnode, hm⟩ := Option.map_eq_some_iff.mp
      (hmounted (k + 1) rest[k] (by simp [List.getElem?_eq_getElem hk']))
    have hmem : rest[k] ∈ template.nodes s.tree.size (some s.root) := by
      rw [hcopy]
      exact List.mem_cons_of_mem _ (List.getElem_mem hk')
    have hfirst : rest[k].timeline.first = false := by
      rw [← template.reset_of_mem_nodes _ hmem]
      rfl
    simp [hnode, hm, hfirst]

/-- On a stage with nothing else on it, the content is what comes behind the root. -/
theorem preOrder_graft (hs : s.tree.Linked) (hroot : s.root < s.tree.size)
    (hbare : s.tree.children s.root = []) :
    (s.graft run w template loader).2.1.tree.preOrder s.root =
      s.root :: List.range' s.tree.size template.nodeCount := by
  let g := (s.graft run w template loader).2.1.tree
  have hcovers : g.Covers s.tree.size (template.nodes s.tree.size (some s.root)) :=
    covers_graft run w template loader hroot
  have hle := DisplayTree.nodeCount_le_of_covers hcovers
  have hpos := template.nodeCount_pos
  have hlt : s.root < g.size :=
    Nat.lt_of_lt_of_le hroot (s.extends_graft run w template loader hroot).1.tree.size_le
  obtain ⟨n, hnode⟩ := DisplayTree.exists_node hlt
  have hchildren : n.children = [s.tree.size] := by
    rw [← DisplayTree.children_eq hnode, children_graft run w hs hroot, hbare]
    exact congrArg (fun id => [id]) (s.snd_mount template loader)
  obtain ⟨k, hk⟩ := Nat.exists_eq_add_of_le hle
  have hwalk := DisplayTree.walk_copy template hcovers k []
  rw [← hk] at hwalk
  have hstep : g.walk (g.size + 1) [s.root] =
      (g.walk g.size (n.children ++ [])).map (s.root :: ·) := by
    rw [DisplayTree.walk, hnode]
  rw [DisplayTree.preOrder, hstep, hchildren, List.singleton_append, hwalk]
  simp [DisplayTree.walk]

theorem cast_graft (hs : s.tree.Linked) (hroot : s.root < s.tree.size)
    (hbare : s.tree.children s.root = []) :
    (s.graft run w template loader).2.1.cast =
      List.range' s.tree.size template.nodeCount := by
  have horder := preOrder_graft run w template loader hs hroot hbare
  have hsame : (s.graft run w template loader).2.1.root = s.root := rfl
  rw [cast, hsame, horder, List.filter_cons_of_neg (by simp), List.filter_eq_self]
  intro id hid
  have hle := (List.mem_range'_1.mp hid).1
  have hne : id ≠ s.root := Nat.ne_of_gt (Nat.lt_of_lt_of_le hroot hle)
  simpa using hne

/-- Of a content the first object starts, and the others do not. -/
theorem starts_range' (hroot : s.root < s.tree.size) :
    let g := (s.graft run w template loader).2.1.tree
    (List.range' s.tree.size template.nodeCount).filter g.starts = [s.tree.size] ∧
      (List.range' s.tree.size template.nodeCount).countP (fun id => !g.starts id) =
        template.nodeCount - 1 := by
  intro g
  obtain ⟨m, hm⟩ := Nat.exists_eq_add_of_le' template.nodeCount_pos
  have hself : g.starts s.tree.size = true :=
    starts_graft run w template loader hroot template.nodeCount_pos
  have hinside : ∀ id ∈ List.range' (s.tree.size + 1) m, g.starts id = false := by
    intro id hid
    obtain ⟨k, hk, rfl⟩ := List.mem_range'.mp hid
    have hnot := starts_graft run w template loader hroot (k := k + 1) (by omega)
    rw [Nat.one_mul, Nat.add_assoc, Nat.add_comm 1]
    exact hnot
  have hcount : (List.range' (s.tree.size + 1) m).countP (fun id => !g.starts id) = m := by
    rw [List.countP_eq_length.mpr, List.length_range']
    intro id hid
    simp [hinside id hid]
  rw [hm, List.range'_succ, List.filter_cons_of_pos hself,
    List.countP_cons_of_neg (by simp [hself]), hcount, List.filter_eq_nil_iff.mpr]
  · exact ⟨rfl, rfl⟩
  · intro id hid
    simp [hinside id hid]

/-- The first frame after a graft on an empty stage: the content starts, all that is inside it
advances, and the events are those of the graft. -/
theorem enterFrame_graft (hs : s.tree.Linked) (hroot : s.root < s.tree.size)
    (hbare : s.tree.children s.root = []) :
    (s.graft run w template loader).2.1.enterFrame.2 =
      { frame := s.frame + 1
        started := [s.tree.size]
        advanced := template.nodeCount - 1
        events := s.tree.events ++ ⟨s.tree.size, .added⟩ ::
          (List.range' s.tree.size template.nodeCount).map (⟨·, .addedToStage⟩) } := by
  have hcovers := covers_graft run w template loader hroot
  have hcast := cast_graft run w template loader hs hroot hbare
  have hevents := s.events_graft run w template loader
  have hcontent : (s.graft run w template loader).2.2.1 = s.tree.size := s.snd_mount template loader
  rw [hcontent, DisplayTree.announcement, DisplayTree.preOrder_copy hcovers] at hevents
  have hlt : ∀ id ∈ (s.graft run w template loader).2.1.cast,
      id < (s.graft run w template loader).2.1.tree.size := by
    rw [hcast]
    intro id hid
    have hlength := template.length_nodes s.tree.size (some s.root)
    have hle := hcovers.le_size (List.length_pos_iff.mp (hlength ▸ template.nodeCount_pos))
    rw [hlength] at hle
    exact Nat.lt_of_lt_of_le (List.mem_range'_1.mp hid).2 hle
  obtain ⟨hstarted, hadvanced⟩ := starts_range' run w template loader hroot
  rw [enterFrame_eq (hcast ▸ List.nodup_range') hlt, hcast, hstarted, hadvanced, hevents]
  rfl

end Graft

end Stage

end ContentPlayer
