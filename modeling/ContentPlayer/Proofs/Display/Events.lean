import ContentPlayer.Proofs.Display.Growth

namespace ContentPlayer

/-- The events of a graft: the content was added, and it is on stage with all that is inside it. -/
def DisplayTree.announcement (t : DisplayTree) (content : NodeId) : List DisplayEvent :=
  ⟨content, .added⟩ :: (t.preOrder content).map (⟨·, .addedToStage⟩)

namespace DisplayTree

section Quiet

/-! What happens to a tree without a word to anybody. -/

variable (t : DisplayTree)

@[simp] theorem events_modify (id : NodeId) (f : Node → Node) : (t.modify id f).events = t.events :=
  rfl

@[simp] theorem events_spawn (name : String) (frames : UInt32) :
    (t.spawn name frames).1.events = t.events := rfl

@[simp] theorem events_setPending (id : NodeId) (source : Option String) :
    (t.setPending id source).events = t.events := rfl

@[simp] theorem events_setTimeline (id : NodeId) (f : Timeline → Timeline) :
    (t.setTimeline id f).events = t.events := rfl

@[simp] theorem events_stamp (id : NodeId) (info : LoaderInfo) :
    (t.stamp id info).events = t.events := rfl

@[simp] theorem events_detach (child : NodeId) : (t.detach child).events = t.events := by
  unfold detach
  split <;> rfl

@[simp] theorem events_addChild (parent child : NodeId) :
    (t.addChild parent child).1.events = t.events := by
  unfold addChild
  split
  · rfl
  · simp

mutual

@[simp] theorem events_instantiate (t : DisplayTree) : ∀ template : Template,
    (t.instantiate template).1.events = t.events
  | ⟨name, frames, constructor, children⟩ => by
    rw [instantiate]
    exact events_instantiateAll ((t.spawn name frames).1.setPending t.size constructor) t.size
      children

theorem events_instantiateAll (t : DisplayTree) (parent : NodeId) : ∀ templates : List Template,
    (t.instantiateAll parent templates).events = t.events
  | [] => by rw [instantiateAll]
  | template :: templates => by
    rw [instantiateAll]
    have hrest := events_instantiateAll
      ((t.instantiate template).1.addChild parent (t.instantiate template).2).1 parent templates
    simpa [events_instantiate t template] using hrest

end

@[simp] theorem events_edit (e : Edit) : (t.edit e).events = t.events := by
  cases e <;> simp [edit]

theorem events_foldl {α : Type} {f : DisplayTree → α → DisplayTree}
    (hf : ∀ (t : DisplayTree) (a : α), (f t a).events = t.events) (as : List α) (t : DisplayTree) :
    (as.foldl f t).events = t.events := by
  induction as generalizing t with
  | nil => rfl
  | cons a rest ih => exact (ih (f t a)).trans (hf t a)

@[simp] theorem events_resetSubtree (root : NodeId) : (t.resetSubtree root).events = t.events :=
  events_foldl (fun t id => t.events_setTimeline id _) _ t

variable {ω : Type} (run : ω → ConstructorCall → ω × Except ScriptError Unit)

theorem events_runPending (ids : List NodeId) (w : ω) (t : DisplayTree)
    (report : ConstructorReport) : (runPending run ids (w, t, report)).2.1.events = t.events := by
  induction ids generalizing w t report with
  | nil => rfl
  | cons id ids ih =>
    rw [runPending]
    split
    · simpa using ih _ (t.setPending id none) _
    · exact ih w t report

@[simp] theorem events_runConstructors (w : ω) (root : NodeId) :
    (runConstructors run w t root).2.1.events = t.events :=
  events_runPending run _ w t {}

end Quiet

section Announce

theorem walk_setEvents (t : DisplayTree) (events : List DisplayEvent) (bound : Nat)
    (stack : List NodeId) : { t with events }.walk bound stack = t.walk bound stack := by
  induction bound generalizing stack with
  | zero => cases stack <;> rfl
  | succ bound ih =>
    cases stack with
    | nil => rfl
    | cons id stack =>
      have hnode : { t with events }.node? id = t.node? id := rfl
      simp only [walk, hnode, ih]

/-- Events have no part in the order of the objects. -/
theorem preOrder_setEvents (t : DisplayTree) (events : List DisplayEvent) (id : NodeId) :
    { t with events }.preOrder id = t.preOrder id := by
  have hsize : { t with events }.size = t.size := rfl
  rw [preOrder, preOrder, walk_setEvents, hsize]

theorem foldl_dispatch (kind : EventKind) (ids : List NodeId) (t : DisplayTree) :
    ids.foldl (·.dispatch · kind) t = { t with events := t.events ++ ids.map (⟨·, kind⟩) } := by
  induction ids generalizing t with
  | nil => simp
  | cons id ids ih =>
    rw [List.foldl_cons, ih]
    simp [dispatch]

theorem announce_eq (t : DisplayTree) (content : NodeId) :
    t.announce content = { t with events := t.events ++ t.announcement content } := by
  have horder : (t.dispatch content .added).preOrder content = t.preOrder content :=
    t.preOrder_setEvents _ content
  simp only [announce, dispatchAddedToStage, if_true, horder, foldl_dispatch]
  simp [dispatch, announcement]

theorem announcement_announce (t : DisplayTree) (content : NodeId) :
    (t.announce content).announcement content = t.announcement content := by
  rw [announce_eq, announcement, announcement, preOrder_setEvents]

end Announce

end DisplayTree

namespace Stage

variable (s : Stage)

theorem events_mount (template : Template) (loader : Option LoaderInfo) :
    (s.mount template loader).1.tree.events = s.tree.events := by
  cases loader <;> simp [mount]

theorem events_graft {ω : Type} (run : ω → ConstructorCall → ω × Except ScriptError Unit) (w : ω)
    (template : Template) (loader : Option LoaderInfo) :
    (s.graft run w template loader).2.1.tree.events = s.tree.events ++
      (s.graft run w template loader).2.1.tree.announcement
        (s.graft run w template loader).2.2.1 := by
  simp only [graft, DisplayTree.announcement_announce]
  rw [DisplayTree.announce_eq, DisplayTree.events_runConstructors, events_mount]

theorem events_advanceAll (ids : List NodeId) (t : DisplayTree) :
    (advanceAll ids t).1.events = t.events := by
  induction ids generalizing t with
  | nil => rfl
  | cons id ids ih =>
    rw [advanceAll]
    split
    next => exact ih t
    next timeline _ =>
      have hnext := ih (t.setTimeline id fun _ => timeline.advance.1)
      dsimp only
      split <;> simpa using hnext

/-- A frame takes all events, and nothing that it does brings new ones. -/
theorem events_enterFrame :
    s.enterFrame.1.tree.events = [] ∧ s.enterFrame.2.events = s.tree.events :=
  ⟨events_advanceAll _ _, rfl⟩

theorem events_resize : s.resize.1.tree.events =
    s.tree.events ++ if s.surface.viewport = s.viewport then [] else [⟨s.root, .resize⟩] := by
  unfold resize
  split
  · simp
  · rfl

end Stage

end ContentPlayer
