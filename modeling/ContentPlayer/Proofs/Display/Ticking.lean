import ContentPlayer.Proofs.Display.Playheads
import Mathlib.Data.Set.Card

open Relation

namespace ContentPlayer

namespace Timeline

variable {l : Timeline}

/-- A starting frame only takes the mark away. -/
theorem advance_of_first (hfirst : l.first = true) :
    l.advance = ({ l with first := false }, .start) :=
  if_pos hfirst

theorem advance_of_not_first (hfirst : l.first = false) :
    l.advance = ({ l with current := l.next }, .advanced l.next) :=
  if_neg (Bool.eq_false_iff.mp hfirst)

theorem current_advance_of_still (h : l.playing = false ∨ l.total.toNat ≤ 1) :
    l.advance.1.current = l.current := by
  cases hfirst : l.first with
  | true => rw [advance_of_first hfirst]
  | false => rw [advance_of_not_first hfirst, next_eq_current h]

theorem toNat_current_advance (hfirst : l.first = false) (hplaying : l.playing = true)
    (htotal : 1 < l.total.toNat) (hlt : l.current.toNat + 1 < UInt32.size) :
    l.advance.1.current.toNat = (l.current.toNat + 1) % l.total.toNat := by
  rw [advance_of_not_first hfirst]
  exact toNat_next hplaying htotal hlt

end Timeline

namespace Stage

variable {s : Stage}

/-- A stage after a frame. What is inside the root is advanced, each object once, and nothing else
about any object changes; the starting ones are listed in pre-order, and the others counted. -/
structure Ticked (s s' : Stage) (tick : FrameTick) : Prop where
  advanced : ∀ id, s.tree.Inside id s.root → s'.tree.node? id = (s.tree.node? id).map Node.advanced
  kept : ∀ id, ¬ s.tree.Inside id s.root → s'.tree.node? id = s.tree.node? id
  started_sublist : tick.started.Sublist (s.tree.preOrder s.root)
  started_nodup : tick.started.Nodup
  mem_started : ∀ id, id ∈ tick.started ↔ s.tree.Inside id s.root ∧ s.tree.starts id = true
  advanced_eq : tick.advanced = {id | s.tree.Inside id s.root ∧ s.tree.starts id = false}.ncard
  all_counted : tick.started.length + tick.advanced = {id | s.tree.Inside id s.root}.ncard
  events_eq : s'.tree.events = [] ∧ tick.events = s.tree.events
  frame_eq : s'.frame = s.frame + 1 ∧ tick.frame = s.frame + 1
  rest_kept : { s' with tree := s.tree, frame := s.frame } = s

section Counts

variable (ht : s.tree.Linked) (hroot : ¬ s.tree.Inside s.root s.root)

include ht hroot

theorem tick_enterFrame : s.enterFrame.2 =
    { frame := s.frame + 1
      started := s.cast.filter s.tree.starts
      advanced := s.cast.countP fun id => !s.tree.starts id
      events := s.tree.events } :=
  enterFrame_eq (nodup_cast ht hroot) fun id hid =>
    (ht.lt_size_of_inside ((mem_cast ht hroot id).mp hid)).1

theorem ncard_cast (p : NodeId → Bool) :
    {id | s.tree.Inside id s.root ∧ p id = true}.ncard = s.cast.countP p := by
  have hset : {id | s.tree.Inside id s.root ∧ p id = true} =
      ((s.cast.filter p).toFinset : Set NodeId) := by
    ext id
    simp [mem_cast ht hroot]
  rw [hset, Set.ncard_coe_finset, List.toFinset_card_of_nodup ((nodup_cast ht hroot).filter p),
    List.countP_eq_length_filter]

theorem ticked_enterFrame : s.Ticked s.enterFrame.1 s.enterFrame.2 where
  advanced := by
    intro id hid
    rw [node?_enterFrame ht hroot, if_pos hid]
  kept := by
    intro id hid
    rw [node?_enterFrame ht hroot, if_neg hid]
  started_sublist := by
    rw [tick_enterFrame ht hroot]
    exact List.filter_sublist.trans List.filter_sublist
  started_nodup := by
    rw [tick_enterFrame ht hroot]
    exact (nodup_cast ht hroot).filter _
  mem_started := by
    intro id
    rw [tick_enterFrame ht hroot, List.mem_filter, mem_cast ht hroot]
  advanced_eq := by
    have hcount := ncard_cast ht hroot fun id => !s.tree.starts id
    simp only [Bool.not_eq_true'] at hcount
    rw [tick_enterFrame ht hroot, hcount]
  all_counted := by
    have hall := ncard_cast ht hroot fun _ => true
    have hsplit := s.cast.length_eq_countP_add_countP s.tree.starts
    simp only [and_true, List.countP_true] at hall
    rw [tick_enterFrame ht hroot, hall, ← List.countP_eq_length_filter]
    simpa using hsplit.symm
  events_eq := s.events_enterFrame
  frame_eq := ⟨rfl, rfl⟩
  rest_kept := rfl

end Counts

/-- A frame advances what is inside the root of a stage, each object once, and nothing else: not the
root, not what the root is in, and nothing that is off the stage. An object at a starting frame only
loses the mark; any other goes on to its next frame, and stays where it is if it is stopped or has
one frame only. -/
theorem enterFrame_advances_once (ht : s.tree.Reachable) (hroot : ¬ s.tree.Inside s.root s.root)
    (hcurrent : ∀ id l, s.tree.Inside id s.root → s.tree.timeline id = some l →
      l.current.toNat + 1 < UInt32.size) :
    s.Ticked s.enterFrame.1 s.enterFrame.2 ∧
    (∀ id, s.tree.Within s.root id → s.enterFrame.1.tree.node? id = s.tree.node? id) ∧
    ∀ id l, s.tree.Inside id s.root → s.tree.timeline id = some l →
      ∃ l', s.enterFrame.1.tree.timeline id = some l' ∧
        (l.first = true → l' = { l with first := false }) ∧
        (l.playing = false ∨ l.total.toNat ≤ 1 → l'.current = l.current) ∧
        (l.first = false → l.playing = true → 1 < l.total.toNat →
          l'.current.toNat = (l.current.toNat + 1) % l.total.toNat) := by
  have hticked := ticked_enterFrame ht.linked hroot
  refine ⟨hticked, ?_, ?_⟩
  · intro id hid
    apply hticked.kept
    intro hinside
    exact hroot (TransGen.trans_right hid hinside)
  · intro id l hid htimeline
    refine ⟨l.advance.1, ?_, ?_, Timeline.current_advance_of_still, ?_⟩
    · rw [timeline_enterFrame ht.linked hroot, if_pos hid, htimeline, Option.map_some]
    · intro hfirst
      rw [Timeline.advance_of_first hfirst]
    · intro hfirst hplaying htotal
      exact Timeline.toNat_current_advance hfirst hplaying htotal (hcurrent id l hid htimeline)

/-- A content at its starting frame, with something inside it, while something else is off the
stage. -/
theorem enterFrame_advances_once_content :
    let t := (((({} : DisplayTree).edit (.spawn "stage" 1)).edit
      (.instantiate ⟨"content", 3, none, [⟨"hat", 2, none, []⟩]⟩)).edit (.spawn "off" 5)).edit
      (.addChild 0 1)
    let s : Stage := ⟨t.setTimeline 1 ({ · with first := true }), 0, ⟨⟨8, 6⟩, false⟩, ⟨8, 6⟩, 0⟩
    s.tree.Reachable ∧ ¬ s.tree.Inside s.root s.root ∧ s.enterFrame.2.started = [1] ∧
      {id | s.tree.Inside id s.root}.ncard = 2 ∧
      s.enterFrame.1.tree.node? 3 = s.tree.node? 3 ∧
      ∃ l, s.enterFrame.1.tree.timeline 2 = some l ∧ l.current.toNat = 1 := by
  intro t s
  have hedited : t.Reachable :=
    (((DisplayTree.Reachable.empty.edit _).edit _).edit _).edit _
  have ht : s.tree.Reachable := hedited.timeline 1 ({ · with first := true })
  have hroot : ¬ s.tree.Inside s.root s.root := DisplayTree.not_inside_of_parent_eq_none rfl
  have hbound : ∀ id < s.tree.size, ∀ l ∈ s.tree.timeline id,
      l.current.toNat + 1 < UInt32.size := by decide
  have hhat : s.tree.Inside 2 s.root :=
    .head (show s.tree.ChildOf 2 1 from rfl) (.single (show s.tree.ChildOf 1 0 from rfl))
  have hoff : ¬ s.tree.Inside 3 s.root := DisplayTree.not_inside_of_parent_eq_none rfl
  obtain ⟨hticked, -, htimelines⟩ := enterFrame_advances_once ht hroot fun id l hid htimeline =>
    hbound id (ht.linked.lt_size_of_inside hid).1 l htimeline
  obtain ⟨l, hl, -, -, hnext⟩ := htimelines 2 _ hhat rfl
  refine ⟨ht, hroot, by decide, ?_, hticked.kept 3 hoff, l, hl, ?_⟩
  · rw [← hticked.all_counted]
    decide
  · exact hnext rfl rfl (by decide)

end Stage

end ContentPlayer
