import ContentPlayer.Proofs.Display.Forest
import ContentPlayer.Session.Graft

namespace ContentPlayer

namespace DisplayTree

theorem sameLinks_setTimeline (t : DisplayTree) (id : NodeId) (f : Timeline → Timeline) :
    t.SameLinks (t.setTimeline id f) :=
  t.sameLinks_modify id (fun _ => rfl) fun _ => rfl

theorem sameLinks_stamp (t : DisplayTree) (id : NodeId) (info : LoaderInfo) :
    t.SameLinks (t.stamp id info) :=
  t.sameLinks_modify id (fun _ => rfl) fun _ => rfl

theorem sameLinks_resetSubtree (t : DisplayTree) (root : NodeId) :
    t.SameLinks (t.resetSubtree root) :=
  .foldl (fun t id => t.sameLinks_setTimeline id _) _ t

theorem sameLinks_dispatch (t : DisplayTree) (target : NodeId) (kind : EventKind) :
    t.SameLinks (t.dispatch target kind) :=
  ⟨rfl, fun _ => rfl, fun _ => rfl⟩

theorem sameLinks_drainEvents (t : DisplayTree) : t.SameLinks t.drainEvents.1 :=
  ⟨rfl, fun _ => rfl, fun _ => rfl⟩

theorem sameLinks_announce (t : DisplayTree) (content : NodeId) :
    t.SameLinks (t.announce content) :=
  (t.sameLinks_dispatch content .added).trans
    (.foldl (fun t id => t.sameLinks_dispatch id _) _ _)

theorem sameLinks_runPending {ω : Type} (run : ω → ConstructorCall → ω × Except ScriptError Unit)
    (ids : List NodeId) (w : ω) (t : DisplayTree) (report : ConstructorReport) :
    t.SameLinks (runPending run ids (w, t, report)).2.1 := by
  induction ids generalizing w t report with
  | nil => exact .refl t
  | cons id ids ih =>
    rw [runPending]
    split
    · exact (t.sameLinks_setPending id none).trans (ih _ _ _)
    · exact ih w t report

theorem sameLinks_runConstructors {ω : Type}
    (run : ω → ConstructorCall → ω × Except ScriptError Unit) (w : ω) (t : DisplayTree)
    (root : NodeId) : t.SameLinks (runConstructors run w t root).2.1 :=
  sameLinks_runPending run _ w t {}

/-- A tree to which something leads from the empty one. -/
inductive Reachable : DisplayTree → Prop where
  | empty : Reachable {}
  | edit {t : DisplayTree} (ht : Reachable t) (e : Edit) : Reachable (t.edit e)
  | timeline {t : DisplayTree} (ht : Reachable t) (id : NodeId) (f : Timeline → Timeline) :
      Reachable (t.setTimeline id f)
  | stamp {t : DisplayTree} (ht : Reachable t) (id : NodeId) (info : LoaderInfo) :
      Reachable (t.stamp id info)
  | reset {t : DisplayTree} (ht : Reachable t) (root : NodeId) : Reachable (t.resetSubtree root)
  | construct {t : DisplayTree} {ω : Type} (ht : Reachable t)
      (run : ω → ConstructorCall → ω × Except ScriptError Unit) (w : ω) (root : NodeId) :
      Reachable (runConstructors run w t root).2.1
  | dispatch {t : DisplayTree} (ht : Reachable t) (target : NodeId) (kind : EventKind) :
      Reachable (t.dispatch target kind)
  | addedToStage {t : DisplayTree} (ht : Reachable t) (target : NodeId) (broadcast : Bool) :
      Reachable (t.dispatchAddedToStage target broadcast)
  | drainEvents {t : DisplayTree} (ht : Reachable t) : Reachable t.drainEvents.1

/-- Only edits change the links, so that they always agree. -/
theorem Reachable.linked {t : DisplayTree} (ht : t.Reachable) : t.Linked := by
  induction ht with
  | empty => exact linked_empty
  | edit _ e ih => exact ih.edit e
  | timeline _ id f ih => exact (sameLinks_setTimeline _ id f).linked ih
  | stamp _ id info ih => exact (sameLinks_stamp _ id info).linked ih
  | reset _ root ih => exact (sameLinks_resetSubtree _ root).linked ih
  | construct _ run w root ih => exact (sameLinks_runConstructors run w _ root).linked ih
  | dispatch _ target kind ih => exact (sameLinks_dispatch _ target kind).linked ih
  | addedToStage _ target broadcast ih =>
    exact (SameLinks.foldl (fun t id => t.sameLinks_dispatch id _) _ _).linked ih
  | drainEvents _ ih => exact (sameLinks_drainEvents _).linked ih

end DisplayTree

namespace Stage

/-- A stage later: with the same root, and with all that was in its tree where it was. -/
structure Extends (s s' : Stage) : Prop where
  root_eq : s'.root = s.root
  tree : s.tree.Extends s'.tree

theorem Extends.refl (s : Stage) : s.Extends s := ⟨rfl, .refl s.tree⟩

theorem Extends.trans {a b c : Stage} (hab : a.Extends b) (hbc : b.Extends c) : a.Extends c where
  root_eq := hbc.root_eq.trans hab.root_eq
  tree := hab.tree.trans hbc.tree

/-- The content is on the stage, directly below its root. -/
def Bears (s : Stage) (content : NodeId) : Prop := s.tree.parent content = some s.root

theorem Extends.bears {s s' : Stage} (h : s.Extends s') {content : NodeId} (hs : s.Bears content) :
    s'.Bears content := by
  rw [Bears, h.tree.parent_eq content (DisplayTree.lt_size_of_parent hs), h.root_eq]
  exact hs

theorem sameLinks_advanceAll (ids : List NodeId) (t : DisplayTree) :
    t.SameLinks (advanceAll ids t).1 := by
  induction ids generalizing t with
  | nil => exact .refl t
  | cons id ids ih =>
    rw [advanceAll]
    split
    next => exact ih t
    next timeline _ =>
      have hnext := (t.sameLinks_setTimeline id fun _ => timeline.advance.1).trans (ih _)
      dsimp only
      split <;> exact hnext

theorem sameLinks_enterFrame (s : Stage) : s.tree.SameLinks s.enterFrame.1.tree :=
  s.tree.sameLinks_drainEvents.trans (sameLinks_advanceAll _ _)

theorem sameLinks_resize (s : Stage) : s.tree.SameLinks s.resize.1.tree := by
  unfold resize
  split
  · exact .refl s.tree
  · exact s.tree.sameLinks_dispatch s.root .resize

theorem extends_enterFrame (s : Stage) : s.Extends s.enterFrame.1 :=
  ⟨rfl, s.sameLinks_enterFrame.extends⟩

theorem extends_resize (s : Stage) : s.Extends s.resize.1 := by
  refine ⟨?_, s.sameLinks_resize.extends⟩
  unfold resize
  split <;> rfl

/-- The content is a copy of the template, to which nothing but being added happens. -/
theorem mount_eq (s : Stage) (template : Template) (loader : Option LoaderInfo) :
    ∃ t, (s.tree.instantiate template).1.SameLinks t ∧
      s.mount template loader =
        ({ s with tree := (t.addChild s.root s.tree.size).1 }, s.tree.size) := by
  unfold mount
  rw [← s.tree.snd_instantiate template]
  refine ⟨_, ?_, rfl⟩
  refine .trans ?_ ((DisplayTree.sameLinks_resetSubtree _ _).trans
    (DisplayTree.sameLinks_setTimeline _ _ _))
  cases loader with
  | none => exact .refl _
  | some info => exact DisplayTree.sameLinks_stamp _ _ info

theorem extends_mount (s : Stage) (template : Template) (loader : Option LoaderInfo)
    (hroot : s.root < s.tree.size) :
    s.Extends (s.mount template loader).1 ∧
      (s.mount template loader).1.Bears (s.mount template loader).2 := by
  obtain ⟨hcopy, hlt⟩ := s.tree.extends_instantiate template
  obtain ⟨t, hsame, hmount⟩ := s.mount_eq template loader
  rw [hmount]
  refine ⟨⟨rfl, (hcopy.trans hsame.extends).addChild (Nat.le_refl _)⟩, ?_⟩
  rw [← hsame.size_eq] at hlt
  rw [Bears, DisplayTree.parent_addChild (Nat.ne_of_lt hroot) (Nat.lt_trans hroot hlt) hlt,
    if_pos rfl]

/-- The stage of a graft extends the one before it, and bears the content. -/
theorem extends_graft {ω : Type} (run : ω → ConstructorCall → ω × Except ScriptError Unit) (w : ω)
    (s : Stage) (template : Template) (loader : Option LoaderInfo) (hroot : s.root < s.tree.size) :
    s.Extends (s.graft run w template loader).2.1 ∧
      (s.graft run w template loader).2.1.Bears (s.graft run w template loader).2.2.1 := by
  obtain ⟨hmount, hbears⟩ := s.extends_mount template loader hroot
  have hran := DisplayTree.sameLinks_runConstructors run w (s.mount template loader).1.tree
    (s.mount template loader).2
  have hshown : (s.mount template loader).1.Extends (s.graft run w template loader).2.1 :=
    ⟨rfl, (hran.trans (DisplayTree.sameLinks_announce _ _)).extends⟩
  exact ⟨hmount.trans hshown, hshown.bears hbears⟩

theorem linked_graft {ω : Type} (run : ω → ConstructorCall → ω × Except ScriptError Unit) (w : ω)
    {s : Stage} (hs : s.tree.Linked) (template : Template) (loader : Option LoaderInfo) :
    (s.graft run w template loader).2.1.tree.Linked := by
  have hmounted : (s.mount template loader).1.tree.Linked := by
    obtain ⟨t, hsame, hmount⟩ := s.mount_eq template loader
    rw [hmount]
    exact (hsame.linked (hs.instantiate template)).addChild s.root s.tree.size
  have hran := DisplayTree.sameLinks_runConstructors run w (s.mount template loader).1.tree
    (s.mount template loader).2
  exact (hran.trans (DisplayTree.sameLinks_announce _ _)).linked hmounted

theorem children_mount {s : Stage} (hs : s.tree.Linked) (hroot : s.root < s.tree.size)
    (template : Template) (loader : Option LoaderInfo) :
    (s.mount template loader).1.tree.children s.root = s.tree.children s.root ++ [s.tree.size] := by
  obtain ⟨t, hsame, hmount⟩ := s.mount_eq template loader
  obtain ⟨-, hlt⟩ := s.tree.extends_instantiate template
  have hcopied : t.children s.root = s.tree.children s.root := by
    rw [hsame.children_eq, hs.children_instantiate hroot]
  have hfresh : s.tree.size ∉ s.tree.children s.root := by
    rw [hs.mem_children]
    intro hparent
    exact Nat.lt_irrefl _ (DisplayTree.lt_size_of_parent hparent)
  rw [← hsame.size_eq] at hlt
  rw [hmount, DisplayTree.children_addChild (hsame.linked (hs.instantiate template))
    (Nat.ne_of_lt hroot) (Nat.lt_trans hroot hlt) hlt, if_pos rfl, hcopied, List.filter_eq_self.mpr]
  intro a ha
  simpa using ne_of_mem_of_not_mem ha hfresh

/-- A graft puts the content behind the other children of the root, and nothing else there. -/
theorem children_graft {ω : Type} (run : ω → ConstructorCall → ω × Except ScriptError Unit) (w : ω)
    {s : Stage} (hs : s.tree.Linked) (hroot : s.root < s.tree.size) (template : Template)
    (loader : Option LoaderInfo) :
    (s.graft run w template loader).2.1.tree.children s.root =
      s.tree.children s.root ++ [(s.graft run w template loader).2.2.1] := by
  have hran := DisplayTree.sameLinks_runConstructors run w (s.mount template loader).1.tree
    (s.mount template loader).2
  have hshown := hran.trans (DisplayTree.sameLinks_announce _ (s.mount template loader).2)
  have hcontent : (s.graft run w template loader).2.2.1 = s.tree.size := by
    obtain ⟨t, -, hmount⟩ := s.mount_eq template loader
    exact congrArg Prod.snd hmount
  rw [hcontent, ← children_mount hs hroot template loader]
  exact hshown.children_eq s.root

end Stage

end ContentPlayer
