import ContentPlayer.Proofs.Display.Events
import ContentPlayer.Proofs.Display.Moves
import ContentPlayer.Proofs.Display.Order

namespace ContentPlayer.Stage

/-- What can happen to a stage. -/
inductive Step (ω : Type) where
  | graft (run : ω → ConstructorCall → ω × Except ScriptError Unit) (template : Template)
      (loader : Option LoaderInfo)
  | enterFrame
  | resize
  /-- The surface gets another size. -/
  | viewport (v : Viewport)
  | edit (e : DisplayTree.Edit)
  | timeline (id : NodeId) (f : Timeline → Timeline)
  | stamp (id : NodeId) (info : LoaderInfo)
  | reset (root : NodeId)
  | construct (run : ω → ConstructorCall → ω × Except ScriptError Unit) (root : NodeId)

/-- What a step gives back, if anything. -/
inductive Answer where
  | none
  | grafted (content : NodeId)
  | ticked (tick : FrameTick)
  | resized (changed : Bool)

/-- A stage, and the outside on which constructors act. -/
structure Setting (ω : Type) where
  outside : ω
  stage : Stage

/-- One step, with the stage before and after it, and what it gave back. -/
structure Turn (ω : Type) where
  before : Setting ω
  step : Step ω
  after : Setting ω
  answer : Answer

variable {ω : Type}

namespace Setting

def modifyTree (m : Setting ω) (f : DisplayTree → DisplayTree) : Setting ω :=
  { m with stage := m.stage.modifyTree f }

def act (m : Setting ω) : Step ω → Setting ω × Answer
  | .graft run template loader =>
    let (w, s, content, _) := m.stage.graft run m.outside template loader
    (⟨w, s⟩, .grafted content)
  | .enterFrame => ({ m with stage := m.stage.enterFrame.1 }, .ticked m.stage.enterFrame.2)
  | .resize => ({ m with stage := m.stage.resize.1 }, .resized m.stage.resize.2)
  | .viewport v => ({ m with stage := m.stage.setViewport v }, .none)
  | .edit e => (m.modifyTree (·.edit e), .none)
  | .timeline id f => (m.modifyTree (·.setTimeline id f), .none)
  | .stamp id info => (m.modifyTree (·.stamp id info), .none)
  | .reset root => (m.modifyTree (·.resetSubtree root), .none)
  | .construct run root =>
    let (w, tree, _) := DisplayTree.runConstructors run m.outside m.stage.tree root
    (⟨w, { m.stage with tree }⟩, .none)

def turn (m : Setting ω) (s : Step ω) : Turn ω := ⟨m, s, (m.act s).1, (m.act s).2⟩

def turns (m : Setting ω) : List (Step ω) → List (Turn ω)
  | [] => []
  | s :: rest => m.turn s :: (m.turn s).after.turns rest

def run (m : Setting ω) : List (Step ω) → Setting ω
  | [] => m
  | s :: rest => (m.turn s).after.run rest

end Setting

/-- The surface's size, and the size that the stage saw when it last looked. -/
structure Sizes where
  shown : Viewport
  seen : Viewport

def Sizes.after (z : Sizes) : Step ω → Sizes
  | .viewport v => { z with shown := v }
  | .resize => { z with seen := z.shown }
  | _ => z

namespace Turn

def tick? (t : Turn ω) : Option FrameTick :=
  match t.answer with
  | .ticked tick => some tick
  | _ => none

/-- The events that a turn hands over. -/
def delivered (t : Turn ω) : List DisplayEvent := (t.tick?.map FrameTick.events).getD []

/-- The events that a turn brings about: a graft announces its content, and a look at the surface
tells the root when there is another size. -/
def dispatched (z : Sizes) (t : Turn ω) : List DisplayEvent :=
  match t.answer with
  | .grafted content => t.after.stage.tree.announcement content
  | .resized _ => if z.shown = z.seen then [] else [⟨t.before.stage.root, .resize⟩]
  | _ => []

end Turn

/-- All that was brought about in some turns, the oldest first. -/
def chronicle (z : Sizes) : List (Turn ω) → List DisplayEvent
  | [] => []
  | t :: rest => t.dispatched z ++ chronicle (z.after t.step) rest

/-- The sizes are those that the stage and its surface have. -/
structure Fits (z : Sizes) (s : Stage) : Prop where
  shown_eq : s.surface.viewport = z.shown
  seen_eq : s.viewport = z.seen

theorem Fits.resize {z : Sizes} {s : Stage} (hs : Fits z s) :
    Fits { z with seen := z.shown } s.resize.1 ∧
      s.resize.2 = decide (z.shown ≠ z.seen) ∧ (z.shown = z.seen → s.resize.1 = s) := by
  unfold Stage.resize
  rw [hs.shown_eq, hs.seen_eq]
  split
  next heq => exact ⟨⟨hs.shown_eq, hs.seen_eq.trans heq.symm⟩, by simp [heq], fun _ => rfl⟩
  next hne => exact ⟨⟨hs.shown_eq, rfl⟩, by simp [hne], fun heq => absurd heq hne⟩

theorem Fits.act {m : Setting ω} {z : Sizes} (hm : Fits z m.stage) (s : Step ω) :
    Fits (z.after s) (m.act s).1.stage := by
  cases s with
  | resize => exact hm.resize.1
  | viewport v => exact ⟨rfl, hm.seen_eq⟩
  | _ => exact ⟨hm.shown_eq, hm.seen_eq⟩

/-- What waits after a turn is what was waiting before it and what the turn brought about, less what
it handed over. -/
theorem delivered_append_events {m : Setting ω} {z : Sizes} (hm : Fits z m.stage) (s : Step ω) :
    (m.turn s).delivered ++ (m.turn s).after.stage.tree.events =
      m.stage.tree.events ++ (m.turn s).dispatched z := by
  have hquiet {t : DisplayTree} (h : t.events = m.stage.tree.events) :
      [] ++ t.events = m.stage.tree.events ++ [] := by
    rw [h, List.nil_append, List.append_nil]
  cases s with
  | graft run template loader => exact m.stage.events_graft run m.outside template loader
  | enterFrame =>
    obtain ⟨hempty, htaken⟩ := m.stage.events_enterFrame
    have htick : (m.turn .enterFrame).delivered = m.stage.enterFrame.2.events := rfl
    have hafter : (m.turn .enterFrame).after.stage.tree.events = [] := hempty
    rw [htick, hafter, htaken]
    rfl
  | resize =>
    have hresize := m.stage.events_resize
    rw [hm.shown_eq, hm.seen_eq] at hresize
    exact hresize
  | viewport v => exact hquiet rfl
  | edit e => exact hquiet (m.stage.tree.events_edit e)
  | timeline id f => exact hquiet (m.stage.tree.events_setTimeline id f)
  | stamp id info => exact hquiet (m.stage.tree.events_stamp id info)
  | reset root => exact hquiet (m.stage.tree.events_resetSubtree root)
  | construct run root =>
    exact hquiet (m.stage.tree.events_runConstructors run m.outside root)

theorem delivered_append_events_run {m : Setting ω} {z : Sizes} (hm : Fits z m.stage)
    (steps : List (Step ω)) :
    (m.turns steps).flatMap Turn.delivered ++ (m.run steps).stage.tree.events =
      m.stage.tree.events ++ chronicle z (m.turns steps) := by
  induction steps generalizing m z with
  | nil => exact (List.append_nil _).symm
  | cons s rest ih =>
    have hturn := delivered_append_events hm s
    have hrest := ih (hm.act s)
    calc (m.turns (s :: rest)).flatMap Turn.delivered ++ (m.run (s :: rest)).stage.tree.events
        = (m.turn s).delivered ++ (((m.turn s).after.turns rest).flatMap Turn.delivered ++
            ((m.turn s).after.run rest).stage.tree.events) := by
          simp [Setting.turns, Setting.run]
      _ = ((m.turn s).delivered ++ (m.turn s).after.stage.tree.events) ++
            chronicle (z.after s) ((m.turn s).after.turns rest) := by
          rw [List.append_assoc]
          exact congrArg _ hrest
      _ = m.stage.tree.events ++ chronicle z (m.turns (s :: rest)) := by
          rw [hturn, List.append_assoc]
          rfl

theorem tick_cases (m : Setting ω) (s : Step ω) :
    ((m.turn s).tick? = none ∧ (m.turn s).after.stage.frame = m.stage.frame) ∨
      ∃ tick, (m.turn s).tick? = some tick ∧ tick.frame = m.stage.frame + 1 ∧
        (m.turn s).after.stage.frame = m.stage.frame + 1 := by
  cases s with
  | enterFrame => exact .inr ⟨_, rfl, rfl, rfl⟩
  | resize =>
    refine .inl ⟨rfl, ?_⟩
    simp only [Setting.turn, Setting.act, Stage.resize]
    split <;> rfl
  | _ => exact .inl ⟨rfl, rfl⟩

/-- The frames of a run are numbered one after the other. -/
theorem frames_run (m : Setting ω) (steps : List (Step ω)) :
    ((m.turns steps).filterMap Turn.tick?).map FrameTick.frame =
      List.range' (m.stage.frame + 1) ((m.turns steps).filterMap Turn.tick?).length := by
  induction steps generalizing m with
  | nil => rfl
  | cons s rest ih =>
    have hrest := ih (m.turn s).after
    rcases tick_cases m s with ⟨hnone, hframe⟩ | ⟨tick, hsome, htick, hframe⟩
    · rw [Setting.turns, List.filterMap_cons_none hnone, hrest, hframe]
    · rw [Setting.turns, List.filterMap_cons_some hsome, List.map_cons, hrest, hframe, htick]
      rfl

section Sizes

variable {m : Setting ω} {z : Sizes}

theorem Fits.run (hm : Fits z m.stage) (steps : List (Step ω)) :
    Fits (steps.foldl Sizes.after z) (m.run steps).stage := by
  induction steps generalizing m z with
  | nil => exact hm
  | cons s rest ih => exact ih (hm.act s)

/-- The surface's size after some steps. -/
def shown (v : Viewport) (steps : List (Step ω)) : Viewport :=
  steps.foldl (fun v s => match s with | .viewport v' => v' | _ => v) v

theorem shown_foldl (z : Sizes) (steps : List (Step ω)) :
    (steps.foldl Sizes.after z).shown = shown z.shown steps := by
  induction steps generalizing z with
  | nil => rfl
  | cons s rest ih =>
    rw [List.foldl_cons, ih]
    cases s <;> rfl

theorem seen_foldl {steps : List (Step ω)} (hsteps : ∀ s ∈ steps, s ≠ .resize) (z : Sizes) :
    (steps.foldl Sizes.after z).seen = z.seen := by
  induction steps generalizing z with
  | nil => rfl
  | cons s rest ih =>
    rw [List.foldl_cons, ih fun s' hs' => hsteps s' (List.mem_cons_of_mem s hs')]
    cases s with
    | resize => exact absurd rfl (hsteps .resize List.mem_cons_self)
    | _ => rfl

/-- The stage has seen the size that was there when it was attached or last looked. -/
theorem seen_of_looked (v : Viewport) {front middle : List (Step ω)}
    (hfront : front = [] ∨ ∃ earlier, front = earlier ++ [.resize])
    (hmiddle : ∀ s ∈ middle, s ≠ .resize) :
    ((front ++ middle).foldl Sizes.after ⟨v, v⟩).seen = shown v front := by
  rw [List.foldl_append, seen_foldl hmiddle]
  rcases hfront with rfl | ⟨earlier, rfl⟩
  · rfl
  · have hshown : shown v (earlier ++ [.resize]) = shown v earlier := by
      rw [shown, List.foldl_append]
      rfl
    rw [hshown, List.foldl_append, ← shown_foldl ⟨v, v⟩]
    rfl

end Sizes

/-- A tree with a root in it in which the links agree and nothing is inside itself. -/
structure Sound (s : Stage) : Prop where
  root_lt : s.root < s.tree.size
  linked : s.tree.Linked
  forest : s.tree.Forest

theorem Sound.sameLinks {s s' : Stage} (hs : s.Sound) (hroot : s'.root = s.root)
    (h : s.tree.SameLinks s'.tree) : s'.Sound :=
  ⟨by simpa only [hroot, h.size_eq] using hs.root_lt, h.linked hs.linked, h.forest hs.forest⟩

theorem sound_ofSurface (surface : Surface) : (ofSurface surface).Sound :=
  ⟨Nat.zero_lt_one, DisplayTree.linked_empty.spawn "stage" 1,
    DisplayTree.forest_empty.spawn "stage" 1⟩

theorem sound_attach (surface : Surface) : (attach surface).Sound := sound_ofSurface _

theorem Sound.mount {s : Stage} (hs : s.Sound) (template : Template) (loader : Option LoaderInfo) :
    (s.mount template loader).1.Sound := by
  obtain ⟨t, hsame, hmount⟩ := s.mount_eq template loader
  obtain ⟨hcopy, _⟩ := s.tree.extends_instantiate template
  have hlinked := hsame.linked (hs.linked.instantiate template)
  have hforest := hsame.forest (DisplayTree.Forest.instantiate hs.linked hs.forest template)
  -- the root was there before the content
  have hinside : ¬ t.Inside s.root s.tree.size := by
    have hcopied := hs.linked.not_inside_instantiate hs.root_lt template
    rwa [DisplayTree.snd_instantiate, ← hsame.inside_eq] at hcopied
  rw [hmount]
  refine ⟨?_, hlinked.addChild s.root _,
    (DisplayTree.forest_addChild_iff hlinked hforest _ _).mpr hinside⟩
  rw [DisplayTree.size_addChild, hsame.size_eq]
  exact Nat.lt_of_lt_of_le hs.root_lt hcopy.size_le

theorem Sound.graft {s : Stage} (hs : s.Sound)
    (run : ω → ConstructorCall → ω × Except ScriptError Unit) (w : ω) (template : Template)
    (loader : Option LoaderInfo) : (s.graft run w template loader).2.1.Sound := by
  have hran := DisplayTree.sameLinks_runConstructors run w (s.mount template loader).1.tree
    (s.mount template loader).2
  exact (hs.mount template loader).sameLinks rfl (hran.trans (DisplayTree.sameLinks_announce _ _))

/-- A step keeps the stage sound, if only an edit does not put an object into itself. -/
theorem Sound.act {m : Setting ω} (hm : m.stage.Sound) (s : Step ω)
    (hedit : ∀ e, s = .edit e → (m.stage.tree.edit e).Forest) : (m.act s).1.stage.Sound := by
  cases s with
  | graft run template loader => exact hm.graft run m.outside template loader
  | enterFrame => exact hm.sameLinks rfl m.stage.sameLinks_enterFrame
  | resize => exact hm.sameLinks m.stage.extends_resize.root_eq m.stage.sameLinks_resize
  | viewport v => exact ⟨hm.root_lt, hm.linked, hm.forest⟩
  | edit e =>
    refine ⟨?_, hm.linked.edit e, hedit e rfl⟩
    exact Nat.lt_of_lt_of_le hm.root_lt (m.stage.tree.size_le_edit e)
  | timeline id f => exact hm.sameLinks rfl (m.stage.tree.sameLinks_setTimeline id f)
  | stamp id info => exact hm.sameLinks rfl (m.stage.tree.sameLinks_stamp id info)
  | reset root => exact hm.sameLinks rfl (m.stage.tree.sameLinks_resetSubtree root)
  | construct run root =>
    exact hm.sameLinks rfl (m.stage.tree.sameLinks_runConstructors run m.outside root)

/-- No edit on the way puts an object into what is inside it. -/
def Setting.Acyclic (m : Setting ω) (steps : List (Step ω)) : Prop :=
  ∀ front e rest, steps = front ++ .edit e :: rest → ((m.run front).stage.tree.edit e).Forest

theorem Setting.acyclic_cons {m : Setting ω} {s : Step ω} {rest : List (Step ω)} :
    m.Acyclic (s :: rest) ↔
      (∀ e, s = .edit e → (m.stage.tree.edit e).Forest) ∧ (m.turn s).after.Acyclic rest := by
  constructor
  · intro h
    refine ⟨?_, fun front e later hsplit => h (s :: front) e later (congrArg _ hsplit)⟩
    rintro e rfl
    exact h [] e rest rfl
  · rintro ⟨hs, hrest⟩ front e later hsplit
    rcases List.cons_eq_append_iff.mp hsplit with ⟨rfl, heq⟩ | ⟨front, rfl, heq⟩
    · exact hs e (List.cons.inj heq).1.symm
    · exact hrest front e later heq

theorem Setting.Acyclic.left {m : Setting ω} {front rest : List (Step ω)}
    (h : m.Acyclic (front ++ rest)) : m.Acyclic front := by
  rintro earlier e later rfl
  exact h earlier e (later ++ rest) (by simp)

theorem Setting.run_append (m : Setting ω) (front rest : List (Step ω)) :
    m.run (front ++ rest) = (m.run front).run rest := by
  induction front generalizing m with
  | nil => rfl
  | cons s front ih => exact ih (m.turn s).after

theorem Sound.run {m : Setting ω} (hm : m.stage.Sound) {steps : List (Step ω)}
    (hsteps : m.Acyclic steps) : (m.run steps).stage.Sound := by
  induction steps generalizing m with
  | nil => exact hm
  | cons s rest ih =>
    obtain ⟨hs, hrest⟩ := Setting.acyclic_cons.mp hsteps
    exact ih (hm.act s hs) hrest

/-- Whether no edit on the way puts an object into what is inside it. -/
def Setting.keepsForest (m : Setting ω) : List (Step ω) → Bool
  | [] => true
  | .edit e :: rest => !e.closes m.stage.tree && (m.turn (.edit e)).after.keepsForest rest
  | s :: rest => (m.turn s).after.keepsForest rest

theorem Sound.acyclic_iff {m : Setting ω} (hm : m.stage.Sound) (steps : List (Step ω)) :
    m.Acyclic steps ↔ m.keepsForest steps = true := by
  induction steps generalizing m with
  | nil => exact iff_of_true (fun front e rest hsplit => by simp at hsplit) rfl
  | cons s rest ih =>
    rw [Setting.acyclic_cons]
    cases s with
    | edit e =>
      have hkeeps : (!e.closes m.stage.tree) = true ↔ (m.stage.tree.edit e).Forest := by
        rw [DisplayTree.forest_edit_iff hm.linked hm.forest, ← e.closes_iff hm.linked hm.forest,
          Bool.not_eq_true', Bool.not_eq_true]
      have hfirst : (∀ e', Step.edit (ω := ω) e = .edit e' → (m.stage.tree.edit e').Forest) ↔
          (m.stage.tree.edit e).Forest :=
        ⟨fun h => h e rfl, fun h e' heq => Step.edit.inj heq ▸ h⟩
      rw [Setting.keepsForest, Bool.and_eq_true, hkeeps, hfirst]
      exact and_congr_right fun h => ih (hm.act (.edit e) (hfirst.mpr h))
    | _ => exact (and_iff_right nofun).trans (ih (hm.act _ nofun))

/-- Events are delivered once and in order: those that frames have taken, and then those that still
wait, are all that were brought about, and a frame takes all that wait. A look at the surface brings
one about exactly when there is another size than at the look before, a graft one for the content
and then one for each object in it, in pre-order; and frames are numbered from one. -/
theorem events_delivered (w : ω) (surface : Surface) (steps : List (Step ω)) :
    let m : Setting ω := ⟨w, attach surface⟩
    let turns := m.turns steps
    let ticks := turns.filterMap Turn.tick?
    turns.flatMap Turn.delivered ++ (m.run steps).stage.tree.events =
      chronicle ⟨surface.viewport, surface.viewport⟩ turns ∧
    (∀ front rest, steps = front ++ .enterFrame :: rest →
      let t := (m.run front).turn .enterFrame
      ∃ tick, t.answer = .ticked tick ∧ tick.events = t.before.stage.tree.events ∧
        t.after.stage.tree.events = []) ∧
    ticks.map FrameTick.frame = List.range' 1 ticks.length ∧
    (∀ front middle rest, steps = front ++ middle ++ .resize :: rest →
      (front = [] ∨ ∃ earlier, front = earlier ++ [.resize]) → (∀ s ∈ middle, s ≠ .resize) →
      let changed := shown surface.viewport (front ++ middle) ≠ shown surface.viewport front
      let t := (m.run (front ++ middle)).turn .resize
      t.answer = .resized (decide changed) ∧ (¬ changed → t.after = t.before)) ∧
    ∀ front run template loader rest, steps = front ++ .graft run template loader :: rest →
      m.Acyclic front →
      let t := (m.run front).turn (.graft run template loader)
      ∃ content, t.answer = .grafted content ∧ t.after.stage.Bears content ∧
        t.after.stage.tree.PreOrdered content := by
  intro m turns ticks
  have hattached : Fits ⟨surface.viewport, surface.viewport⟩ m.stage := ⟨rfl, rfl⟩
  refine ⟨?_, ?_, ?_, ?_, ?_⟩
  · exact delivered_append_events_run hattached steps
  · intro front rest _ t
    obtain ⟨hempty, htaken⟩ := (m.run front).stage.events_enterFrame
    exact ⟨_, rfl, htaken, hempty⟩
  · exact frames_run m steps
  · intro front middle rest _ hfront hmiddle changed t
    obtain ⟨_, hanswer, hsame⟩ := (hattached.run (front ++ middle)).resize
    rw [shown_foldl, seen_of_looked surface.viewport hfront hmiddle] at hanswer hsame
    refine ⟨congrArg Answer.resized hanswer, ?_⟩
    intro hunchanged
    exact congrArg (Setting.mk (m.run (front ++ middle)).outside) (hsame (not_not.mp hunchanged))
  · intro front run template loader rest _ hacyclic t
    have hsound := (sound_attach surface).run (m := m) hacyclic
    have hbears := (extends_graft run (m.run front).outside (m.run front).stage template loader
      hsound.root_lt).2
    have hafter := hsound.graft run (m.run front).outside template loader
    exact ⟨_, rfl, hbears,
      hafter.forest.preOrdered hafter.linked (DisplayTree.lt_size_of_parent hbears)⟩

/-- A size that is there and gone between two looks is not seen, and one that stays is seen once. -/
example :
    let m : Setting Unit := ⟨(), attach { viewport := ⟨550, 400⟩ }⟩
    let movie : Template := ⟨"movie", 1, none, [⟨"child", 1, none, []⟩]⟩
    let steps : List (Step Unit) := [.viewport ⟨1, 1⟩, .viewport ⟨550, 400⟩, .resize,
      .viewport ⟨1, 1⟩, .resize, .resize, .graft (fun w _ => (w, .ok ())) movie none, .enterFrame,
      .viewport ⟨2, 2⟩, .resize]
    (m.turns steps).flatMap Turn.delivered =
        [⟨0, .resize⟩, ⟨1, .added⟩, ⟨1, .addedToStage⟩, ⟨2, .addedToStage⟩] ∧
      (m.run steps).stage.tree.events = [⟨0, .resize⟩] :=
  ⟨rfl, rfl⟩

end ContentPlayer.Stage
