import ContentPlayer.Proofs.Display.Playheads
import ContentPlayer.Proofs.Session.Content
import ContentPlayer.Proofs.Session.Delivery

open Relation

namespace ContentPlayer.Stage

variable {ω : Type}

namespace Turn

/-- A frame that reaches an object: it is on stage, and not the root. -/
def Ticks (t : Turn ω) (id : NodeId) : Prop :=
  t.step = .enterFrame ∧ t.before.stage.tree.Inside id t.before.stage.root

/-- A reset of a subtree that an object is in. -/
def Resets (t : Turn ω) (id : NodeId) : Prop :=
  ∃ root, t.step = .reset root ∧ t.before.stage.tree.Within id root

end Turn

open Classical in
/-- How many frames have reached an object since it was made or last reset, less those that were
starting frames for it. -/
noncomputable def framesSeen (id : NodeId) (turns : List (Turn ω)) : Nat :=
  (turns.reverse.takeWhile fun t => ¬ t.Resets id).countP fun t =>
    t.Ticks id ∧ t.before.stage.tree.starts id = false

/-- An object is the content of a graft since which no frame has reached it and no reset. -/
def Marked (id : NodeId) (turns : List (Turn ω)) : Prop :=
  ∃ front t rest, turns = front ++ t :: rest ∧ t.answer = .grafted id ∧
    ∀ u ∈ rest, ¬ u.Ticks id ∧ ¬ u.Resets id

section History

variable {id : NodeId} {t : Turn ω} (turns : List (Turn ω))

theorem framesSeen_concat_of_resets (ht : t.Resets id) : framesSeen id (turns ++ [t]) = 0 := by
  simp [framesSeen, ht]

open Classical in
theorem framesSeen_concat (ht : ¬ t.Resets id) :
    framesSeen id (turns ++ [t]) = framesSeen id turns +
      if t.Ticks id ∧ t.before.stage.tree.starts id = false then 1 else 0 := by
  simp [framesSeen, ht, List.countP_cons]

theorem marked_concat : Marked id (turns ++ [t]) ↔
    t.answer = .grafted id ∨ Marked id turns ∧ ¬ t.Ticks id ∧ ¬ t.Resets id := by
  constructor
  · rintro ⟨front, u, rest, hsplit, hanswer, hrest⟩
    rcases List.eq_nil_or_concat rest with rfl | ⟨rest, v, rfl⟩
    · obtain ⟨-, heq⟩ := List.append_inj' hsplit rfl
      obtain rfl := List.singleton_inj.mp heq
      exact .inl hanswer
    · rw [List.concat_eq_append, ← List.cons_append, ← List.append_assoc] at hsplit
      obtain ⟨rfl, heq⟩ := List.append_inj' hsplit rfl
      obtain rfl := List.singleton_inj.mp heq
      simp only [List.concat_eq_append, List.forall_mem_append, List.forall_mem_singleton] at hrest
      exact .inr ⟨⟨front, u, rest, rfl, hanswer, hrest.1⟩, hrest.2⟩
  · rintro (hanswer | ⟨⟨front, u, rest, rfl, hanswer, hrest⟩, ht⟩)
    · exact ⟨turns, t, [], rfl, hanswer, by simp⟩
    · refine ⟨front, u, rest ++ [t], by simp, hanswer, ?_⟩
      rw [List.forall_mem_append, List.forall_mem_singleton]
      exact ⟨hrest, ht⟩

end History

/-- What a turn does to the playhead of one object. -/
inductive Turn.Moves (t : Turn ω) (id : NodeId) : Prop where
  | kept (hticks : ¬ t.Ticks id) (hresets : ¬ t.Resets id) (hanswer : t.answer ≠ .grafted id)
      (hafter : t.after.stage.tree.timeline id = t.before.stage.tree.timeline id)
  | made (hticks : ¬ t.Ticks id) (hresets : ¬ t.Resets id) (l : Timeline) (hl : l.At 0)
      (hfirst : l.first = true ↔ t.answer = .grafted id)
      (hbefore : t.before.stage.tree.timeline id = none)
      (hafter : t.after.stage.tree.timeline id = some l)
  | reset (hresets : t.Resets id) (hanswer : t.answer ≠ .grafted id)
      (hafter : t.after.stage.tree.timeline id =
        (t.before.stage.tree.timeline id).map Timeline.reset)
  | ticked (hticks : t.Ticks id) (hresets : ¬ t.Resets id) (hanswer : t.answer ≠ .grafted id)
      (l : Timeline) (hbefore : t.before.stage.tree.timeline id = some l)
      (hafter : t.after.stage.tree.timeline id = some l.advance.1)

/-- Only a graft answers with its content. -/
theorem Setting.answer_ne_grafted (m : Setting ω) {s : Step ω}
    (hs : ∀ run template loader, s ≠ .graft run template loader) (id : NodeId) :
    (m.turn s).answer ≠ .grafted id := by
  intro hanswer
  cases s with
  | graft run template loader => exact hs run template loader rfl
  | _ => cases hanswer

/-- Every turn moves a playhead in one of these ways, if it is not set by hand. -/
theorem Sound.moves {m : Setting ω} (hm : m.stage.Sound) {s : Step ω}
    (hs : ∀ id f, s ≠ .timeline id f) (id : NodeId) : (m.turn s).Moves id := by
  have hticks (hstep : s ≠ .enterFrame) : ¬ (m.turn s).Ticks id := fun h => hstep h.1
  have hresets (hstep : ∀ root, s ≠ .reset root) : ¬ (m.turn s).Resets id :=
    fun ⟨root, h, _⟩ => hstep root h
  cases s with
  | graft run template loader =>
    have hanswer : (m.turn (.graft run template loader)).answer = .grafted m.stage.tree.size :=
      congrArg Answer.grafted (snd_graft run m.outside template loader)
    rcases timeline_graft run m.outside template loader hm.root_lt id with
      ⟨hid, hafter⟩ | ⟨hbefore, total, hafter⟩
    · refine .kept (hticks (by simp)) (hresets (by simp)) ?_ hafter
      rw [hanswer]
      intro heq
      exact hid (Answer.grafted.inj heq).symm
    · refine .made (hticks (by simp)) (hresets (by simp)) _ (Timeline.at_ofTotal total _) ?_
        hbefore hafter
      rw [hanswer]
      simp [eq_comm]
  | enterFrame =>
    have hanswer := m.answer_ne_grafted (s := .enterFrame) (by simp) id
    have hafter := timeline_enterFrame hm.linked (hm.forest _) id
    by_cases hid : m.stage.tree.Inside id m.stage.root
    · obtain ⟨n, hnode⟩ := DisplayTree.exists_node (hm.linked.lt_size_of_inside hid).1
      have hbefore : m.stage.tree.timeline id = some n.timeline := congrArg _ hnode
      rw [if_pos hid, hbefore] at hafter
      exact .ticked ⟨rfl, hid⟩ (hresets (by simp)) hanswer n.timeline hbefore hafter
    · rw [if_neg hid] at hafter
      exact .kept (fun h => hid h.2) (hresets (by simp)) hanswer hafter
  | resize =>
    refine .kept (hticks (by simp)) (hresets (by simp)) (m.answer_ne_grafted (by simp) id) ?_
    simp only [Setting.turn, Setting.act, Stage.resize]
    split <;> rfl
  | viewport v =>
    exact .kept (hticks (by simp)) (hresets (by simp)) (m.answer_ne_grafted (by simp) id) rfl
  | edit e =>
    have hanswer := m.answer_ne_grafted (s := .edit e) (by simp) id
    rcases m.stage.tree.timeline_edit e id with hafter | ⟨hbefore, total, hafter⟩
    · exact .kept (hticks (by simp)) (hresets (by simp)) hanswer hafter
    · exact .made (hticks (by simp)) (hresets (by simp)) _ (Timeline.at_ofTotal total false)
        (iff_of_false Bool.false_ne_true hanswer) hbefore hafter
  | timeline id f => exact absurd rfl (hs id f)
  | stamp k info =>
    exact .kept (hticks (by simp)) (hresets (by simp)) (m.answer_ne_grafted (by simp) id)
      (m.stage.tree.timeline_modify k id fun _ => rfl)
  | reset root =>
    have hanswer := m.answer_ne_grafted (s := .reset root) (by simp) id
    have hafter := m.stage.tree.timeline_resetSubtree hm.linked hm.forest root id
    by_cases hid : m.stage.tree.Within id root
    · rw [if_pos hid] at hafter
      exact .reset ⟨root, rfl, hid⟩ hanswer hafter
    · rw [if_neg hid] at hafter
      refine .kept (hticks (by simp)) ?_ hanswer hafter
      rintro ⟨root', hstep, hid'⟩
      obtain rfl := Step.reset.inj hstep
      exact hid hid'
  | construct run root =>
    exact .kept (hticks (by simp)) (hresets (by simp)) (m.answer_ne_grafted (by simp) id)
      (DisplayTree.timeline_runPending run _ m.outside _ {} id)

/-- What turns tell of the playhead of an object: it has gone on once for each frame that the object
has seen, and is at a starting frame if the object is marked. Before there is an object, nothing has
happened to it. -/
inductive Told (turns : List (Turn ω)) (id : NodeId) : Option Timeline → Prop where
  | absent (hseen : framesSeen id turns = 0) (hmarked : ¬ Marked id turns) : Told turns id none
  | present (l : Timeline) (hseen : l.At (framesSeen id turns))
      (hmarked : l.first = true ↔ Marked id turns) : Told turns id (some l)

theorem Told.congr {turns turns' : List (Turn ω)} {id : NodeId} {l? : Option Timeline}
    (h : Told turns id l?) (hseen : framesSeen id turns' = framesSeen id turns)
    (hmarked : Marked id turns' ↔ Marked id turns) : Told turns' id l? := by
  cases h with
  | absent hs hm => exact .absent (hseen.trans hs) (mt hmarked.mp hm)
  | present l hs hm => exact .present l (hseen ▸ hs) (hm.trans hmarked.symm)

theorem Told.concat {turns : List (Turn ω)} {t : Turn ω} {id : NodeId}
    (h : Told turns id (t.before.stage.tree.timeline id)) (ht : t.Moves id) :
    Told (turns ++ [t]) id (t.after.stage.tree.timeline id) := by
  cases ht with
  | kept hticks hresets hanswer hafter =>
    rw [hafter]
    refine h.congr ?_ ?_
    · simp [framesSeen_concat turns hresets, hticks]
    · simp [marked_concat, hanswer, hticks, hresets]
  | made hticks hresets l hl hfirst hbefore hafter =>
    rw [hbefore] at h
    obtain ⟨hseen, hmarked⟩ := h
    rw [hafter]
    refine .present l ?_ ?_
    · simpa [framesSeen_concat turns hresets, hticks, hseen] using hl
    · simpa [marked_concat, hmarked] using hfirst
  | reset hresets hanswer hafter =>
    have hseen := framesSeen_concat_of_resets turns hresets
    have hmarked : ¬ Marked id (turns ++ [t]) := by simp [marked_concat, hanswer, hresets]
    rw [hafter]
    generalize t.before.stage.tree.timeline id = l? at h
    cases h with
    | absent => exact .absent hseen hmarked
    | present l hl => exact .present _ (hseen ▸ hl.reset) (iff_of_false Bool.false_ne_true hmarked)
  | ticked hticks hresets hanswer l hbefore hafter =>
    rw [hbefore] at h
    obtain _ | ⟨_, hl, -⟩ := h
    have hstarts : t.before.stage.tree.starts id = l.first := by
      rw [DisplayTree.starts, hbefore, Option.any_some]
    have hmarked : ¬ Marked id (turns ++ [t]) := by simp [marked_concat, hanswer, hticks]
    rw [hafter]
    refine .present _ ?_ (iff_of_false (by simp [l.first_advance]) hmarked)
    rw [framesSeen_concat turns hresets, hstarts]
    cases hfirst : l.first <;> simpa [hfirst, hticks] using hl.advance

theorem Told.run {m : Setting ω} (hm : m.stage.Sound) {steps : List (Step ω)}
    (hsteps : ∀ id f, .timeline id f ∉ steps) (hacyclic : m.Acyclic steps)
    {turns : List (Turn ω)} {id : NodeId} (h : Told turns id (m.stage.tree.timeline id)) :
    Told (turns ++ m.turns steps) id ((m.run steps).stage.tree.timeline id) := by
  induction steps generalizing m turns with
  | nil =>
    rw [Setting.turns, List.append_nil]
    exact h
  | cons s rest ih =>
    obtain ⟨hs, hrest⟩ := Setting.acyclic_cons.mp hacyclic
    have hmoves := hm.moves (fun id f heq => hsteps id f (heq ▸ List.mem_cons_self ..)) id
    have hnext := ih (hm.act s hs) (fun id f hmem => hsteps id f (List.mem_cons_of_mem _ hmem))
      hrest (h.concat hmoves)
    rw [Setting.turns, ← List.singleton_append, ← List.append_assoc]
    exact hnext

theorem told_ofSurface (surface : Surface) (id : NodeId) :
    Told ([] : List (Turn ω)) id ((ofSurface surface).tree.timeline id) := by
  have hunmarked : ¬ Marked id ([] : List (Turn ω)) := by
    rintro ⟨front, t, rest, hsplit, -⟩
    simp at hsplit
  have htree : (ofSurface surface).tree = ({} : DisplayTree).edit (.spawn "stage" 1) := rfl
  rcases ({} : DisplayTree).timeline_edit (.spawn "stage" 1) id with h | ⟨-, total, h⟩
  · rw [htree, h]
    exact .absent rfl hunmarked
  · rw [htree, h]
    exact .present _ (Timeline.at_ofTotal total false) (iff_of_false Bool.false_ne_true hunmarked)

section Frames

variable {m : Setting ω} (n : Nat)

theorem sameLinks_frames (m : Setting ω) :
    m.stage.tree.SameLinks (m.run (List.replicate n .enterFrame)).stage.tree := by
  induction n generalizing m with
  | zero => exact .refl _
  | succ n ih => exact m.stage.sameLinks_enterFrame.trans (ih (m.turn .enterFrame).after)

/-- Frames with nothing in between take all that is on stage on alike. -/
theorem timeline_frames (hm : m.stage.Sound) {id : NodeId}
    (hid : m.stage.tree.Inside id m.stage.root) :
    (m.run (List.replicate n .enterFrame)).stage.tree.timeline id =
      (m.stage.tree.timeline id).map (fun l => l.advance.1)^[n] := by
  induction n generalizing m with
  | zero => simp [Setting.run]
  | succ n ih =>
    let after := (m.turn .enterFrame).after
    have hafter : after.stage.Sound := hm.act .enterFrame (by simp)
    have hinside : after.stage.tree.Inside id after.stage.root :=
      m.stage.sameLinks_enterFrame.inside_eq ▸ hid
    have hframe : after.stage.tree.timeline id =
        (m.stage.tree.timeline id).map fun l => l.advance.1 :=
      (timeline_enterFrame hm.linked (hm.forest _) id).trans (if_pos hid)
    rw [List.replicate_succ, Setting.run, ih hafter hinside, hframe, Option.map_map]
    rfl

/-- After a graft, frames take on what is inside the content each time, and the content itself each
time but the first. -/
theorem timeline_frames_graft (hm : m.stage.Sound)
    (run : ω → ConstructorCall → ω × Except ScriptError Unit) (template : Template)
    (loader : Option LoaderInfo) {id : NodeId} :
    let grafted := (m.turn (.graft run template loader)).after
    grafted.stage.tree.Within id m.stage.tree.size →
      ∃ l, (grafted.run (List.replicate (n + 1) .enterFrame)).stage.tree.timeline id = some l ∧
        l.At (if id = m.stage.tree.size then n else n + 1) := by
  intro grafted hid
  have hsound : grafted.stage.Sound := hm.graft run m.outside template loader
  have hgains : m.stage.Gains grafted.stage template loader m.stage.tree.size :=
    gains_graft run m.outside template loader hm.root_lt
  have hcontent : grafted.stage.tree.ChildOf m.stage.tree.size grafted.stage.root :=
    hgains.parent_eq
  have hinside : grafted.stage.tree.Inside id grafted.stage.root := TransGen.tail' hid hcontent
  have hlt := (hsound.linked.lt_size_of_inside hinside).1
  -- what is in the content was not there before
  have hnew : m.stage.tree.timeline id = none := by
    have hsize := (hsound.linked.lt_size_of_inside (TransGen.single hcontent)).1
    have hmem := ((hsound.forest.preOrdered hsound.linked hsize).mem_iff id).mpr hid
    rw [hgains.order, List.mem_range'_1] at hmem
    exact DisplayTree.timeline_eq_none.mpr hmem.1
  obtain ⟨l, hstart, hl, hfirst⟩ : ∃ l, grafted.stage.tree.timeline id = some l ∧ l.At 0 ∧
      l.first = decide (id = m.stage.tree.size) := by
    rcases timeline_graft run m.outside template loader hm.root_lt id with
      ⟨-, hsame⟩ | ⟨-, total, hstart⟩
    · rw [hnew, DisplayTree.timeline_eq_none] at hsame
      exact absurd hlt (Nat.not_lt.mpr hsame)
    · exact ⟨_, hstart, Timeline.at_ofTotal total _, rfl⟩
  have hframes := hl.iterate_advance n
  rw [hfirst, Nat.zero_add] at hframes
  refine ⟨(fun l => l.advance.1)^[n + 1] l, ?_, by simpa using hframes⟩
  rw [timeline_frames _ hsound hinside, hstart, Option.map_some]

end Frames

/-- Every playhead tells the frames that its object has seen. At any moment of a run in which no
object is put into itself and no playhead set by hand, an object has at least one frame and plays,
and is at the frame that it comes to when it goes on once for each frame that reached it since it
was made or last reset, less a starting frame. It is at a starting frame only as the content of a
graft, until the first frame or the first reset that reaches it. So it never leaves its frames, nor
does counting up to the next one overflow; and frames right after a graft take on the content each
time but the first, and what is inside it each time. -/
theorem playheads_told {m : Setting ω} {surface : Surface} (hm : m.stage = ofSurface surface)
    {steps : List (Step ω)} (hsteps : ∀ id f, .timeline id f ∉ steps)
    (hacyclic : m.Acyclic steps) :
    let turns := m.turns steps
    let tree := (m.run steps).stage.tree
    (∀ id l, tree.timeline id = some l →
      1 ≤ l.total.toNat ∧ l.playing = true ∧
      l.current.toNat = framesSeen id turns % l.total.toNat ∧
      (l.first = true ↔ Marked id turns) ∧
      l.current.toNat < l.total.toNat ∧ l.current.toNat + 1 < UInt32.size) ∧
    ∀ front run template loader n,
      steps = front ++ .graft run template loader :: List.replicate (n + 1) .enterFrame →
        ∃ content l,
          ((m.run front).turn (.graft run template loader)).answer = .grafted content ∧
          tree.timeline content = some l ∧ l.current.toNat = n % l.total.toNat ∧
          ∀ id, tree.Inside id content → ∃ l, tree.timeline id = some l ∧
            l.current.toNat = (n + 1) % l.total.toNat := by
  intro turns tree
  have hattached : m.stage.Sound := hm ▸ sound_ofSurface surface
  constructor
  · intro id l hl
    have htold := Told.run hattached hsteps hacyclic (hm ▸ told_ofSurface surface id)
    rw [List.nil_append, hl] at htold
    obtain _ | ⟨_, hat, hfirst⟩ := htold
    exact ⟨hat.total_pos, hat.playing, hat.current_eq, hfirst, hat.current_lt, hat.succ_lt_size⟩
  · rintro front run template loader n rfl
    let before := m.run front
    have hbefore : before.stage.Sound := hattached.run hacyclic.left
    let grafted := (before.turn (.graft run template loader)).after
    have htree : tree = (grafted.run (List.replicate (n + 1) .enterFrame)).stage.tree :=
      congrArg (·.stage.tree) (m.run_append front _)
    have hanswer : (before.turn (.graft run template loader)).answer =
        .grafted before.stage.tree.size :=
      congrArg Answer.grafted (snd_graft run before.outside template loader)
    have hlinks : tree.Inside = grafted.stage.tree.Inside := by
      rw [htree]
      exact (sameLinks_frames (n + 1) grafted).inside_eq
    obtain ⟨l, htimeline, hl⟩ := timeline_frames_graft n hbefore run template loader .refl
    rw [if_pos rfl] at hl
    refine ⟨before.stage.tree.size, l, hanswer, htree ▸ htimeline, hl.current_eq, ?_⟩
    intro id hid
    rw [hlinks] at hid
    have hne : id ≠ before.stage.tree.size := by
      rintro rfl
      exact (hbefore.graft run before.outside template loader).forest _ hid
    obtain ⟨l, htimeline, hl⟩ :=
      timeline_frames_graft n hbefore run template loader hid.to_reflTransGen
    rw [if_neg hne] at hl
    exact ⟨l, htree ▸ htimeline, hl.current_eq⟩

/-- An object is made, put on stage, taken off, put back and reset, before a scene is grafted. -/
theorem playheads_told_moving :
    let m : Setting Unit := ⟨(), ofSurface { viewport := ⟨550, 400⟩ }⟩
    let scene : Template := ⟨"scene", 2, none, [⟨"hero", 5, none, [⟨"hat", 0, none, []⟩]⟩]⟩
    let front : List (Step Unit) :=
      [.edit (.instantiate ⟨"logo", 4, none, []⟩), .enterFrame, .edit (.addChild 0 1), .enterFrame,
        .edit (.detach 1), .enterFrame, .edit (.addChild 0 1), .reset 1, .enterFrame, .enterFrame]
    let graft : Step Unit := .graft (fun w _ => (w, .ok ())) scene none
    let steps := front ++ graft :: [.enterFrame, .enterFrame, .enterFrame]
    let turns := m.turns steps
    let tree := (m.run steps).stage.tree
    (m.stage = ofSurface { viewport := ⟨550, 400⟩ } ∧ (∀ id f, .timeline id f ∉ steps) ∧
        m.Acyclic steps) ∧
      framesSeen 1 turns % 4 = 1 ∧ framesSeen 2 turns % 2 = 0 ∧ framesSeen 3 turns % 5 = 3 ∧
      ¬ Marked 2 turns ∧
      ∃ content l, ((m.run front).turn graft).answer = .grafted content ∧
        tree.timeline content = some l ∧ l.current.toNat = 2 % l.total.toNat ∧
        ∀ id, tree.Inside id content → ∃ l, tree.timeline id = some l ∧
          l.current.toNat = 3 % l.total.toNat := by
  intro m scene front graft steps turns tree
  have hsteps : ∀ id f, .timeline id f ∉ steps := by
    intro id f
    simp [steps, front, graft]
  have hkeeps : m.keepsForest steps = true := by decide +kernel
  have hm : m.stage = ofSurface { viewport := ⟨550, 400⟩ } := rfl
  have hsound : m.stage.Sound := sound_ofSurface _
  have hacyclic : m.Acyclic steps := (hsound.acyclic_iff steps).mpr hkeeps
  have hlogo : tree.timeline 1 = some ⟨1, 4, true, false⟩ := by decide +kernel
  have hscene : tree.timeline 2 = some ⟨0, 2, true, false⟩ := by decide +kernel
  have hhero : tree.timeline 3 = some ⟨3, 5, true, false⟩ := by decide +kernel
  obtain ⟨htold, hgrafted⟩ := playheads_told hm hsteps hacyclic
  refine ⟨⟨hm, hsteps, hacyclic⟩, ?_, ?_, ?_, ?_, hgrafted front _ scene none 2 rfl⟩
  · simpa using (htold 1 _ hlogo).2.2.1.symm
  · simpa using (htold 2 _ hscene).2.2.1.symm
  · simpa using (htold 3 _ hhero).2.2.1.symm
  · exact mt (htold 2 _ hscene).2.2.2.1.mpr Bool.false_ne_true

end ContentPlayer.Stage
