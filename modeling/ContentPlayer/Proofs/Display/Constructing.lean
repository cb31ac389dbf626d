import ContentPlayer.Proofs.Display.Copy
import ContentPlayer.Proofs.Display.Order
import ContentPlayer.Proofs.Display.Placement

open Relation

namespace ContentPlayer.DisplayTree

variable {t : DisplayTree}

/-- The calls of a subtree's pending constructors, each with its object. -/
def pendingCalls (t : DisplayTree) (root : NodeId) : List (NodeId × ConstructorCall) :=
  (t.postOrder root).filterMap fun id => (t.call? id).map (id, ·)

theorem map_snd_pendingCalls (t : DisplayTree) (root : NodeId) :
    (t.pendingCalls root).map Prod.snd = (t.postOrder root).filterMap t.call? := by
  rw [pendingCalls, List.map_filterMap]
  simp [Function.comp_def]

theorem mem_map_fst_pendingCalls {root id : NodeId} :
    id ∈ (t.pendingCalls root).map Prod.fst ↔ id ∈ t.postOrder root ∧ t.call? id ≠ none := by
  simp [pendingCalls, Option.ne_none_iff_exists']

theorem nodup_pendingCalls (ht : t.Linked) (root : NodeId) :
    ((t.pendingCalls root).map Prod.fst).Nodup := by
  have hsublist : ((t.pendingCalls root).map Prod.fst).Sublist (t.postOrder root) := by
    rw [pendingCalls]
    induction t.postOrder root with
    | nil => exact .slnil
    | cons id ids ih =>
      cases hcall : t.call? id with
      | none => simpa [hcall] using ih.cons id
      | some call => simpa [hcall] using ih.cons_cons id
  exact (nodup_postOrder ht root).sublist hsublist

theorem call?_of_size_le {id : NodeId} (hid : t.size ≤ id) : t.call? id = none := by
  have hnone : t.node? id = none := List.getElem?_eq_none hid
  rw [call?, hnone, Option.bind_none]

/-- The constructors of a subtree, those of an object's children before its own, and child after
child. -/
structure ChildrenFirst (t : DisplayTree) (root : NodeId) : Prop where
  mem_iff : ∀ id call,
    (id, call) ∈ t.pendingCalls root ↔ t.Within id root ∧ t.call? id = some call
  nodup : ((t.pendingCalls root).map Prod.fst).Nodup
  eq : ∀ x, t.Within x root → t.pendingCalls x =
    (t.children x).flatMap t.pendingCalls ++ ((t.call? x).map (x, ·)).toList
  behind : ∀ x y a b, t.Within y root → t.Inside x y → t.call? x = some a → t.call? y = some b →
    [(x, a), (y, b)].Sublist (t.pendingCalls root)

section Order

variable (ht : t.Linked) {root : NodeId} (hroot : ¬ t.Inside root root)

include ht hroot

theorem mem_pendingCalls (id : NodeId) (call : ConstructorCall) :
    (id, call) ∈ t.pendingCalls root ↔ t.Within id root ∧ t.call? id = some call := by
  have hmem : (id, call) ∈ t.pendingCalls root ↔
      id ∈ t.postOrder root ∧ t.call? id = some call := by
    rw [pendingCalls, List.mem_filterMap]
    constructor
    · rintro ⟨x, hx, hmap⟩
      obtain ⟨c, hc, hpair⟩ := Option.map_eq_some_iff.mp hmap
      cases hpair
      exact ⟨hx, hc⟩
    · rintro ⟨hid, hcall⟩
      exact ⟨id, hid, by rw [hcall, Option.map_some]⟩
  have hlt : t.call? id = some call → id < t.size := by
    intro hcall
    by_contra hge
    rw [call?_of_size_le (Nat.le_of_not_lt hge)] at hcall
    cases hcall
  rw [hmem, mem_postOrder ht hroot]
  exact and_congr_left fun hcall => and_iff_right (hlt hcall)

theorem pendingCalls_eq : t.pendingCalls root =
    (t.children root).flatMap t.pendingCalls ++ ((t.call? root).map (root, ·)).toList := by
  rcases Nat.lt_or_ge root t.size with hlt | hge
  · have hchildren : ((t.children root).flatMap t.postOrder).filterMap
        (fun id => (t.call? id).map (id, ·)) = (t.children root).flatMap t.pendingCalls :=
      List.filterMap_flatMap
    rw [pendingCalls, postOrder_eq ht hroot hlt, List.filterMap_append, hchildren]
    cases hcall : t.call? root <;> simp [hcall]
  · have hnone : t.node? root = none := List.getElem?_eq_none hge
    simp [pendingCalls, postOrder_of_size_le hge, call?_of_size_le hge, children, hnone]

/-- What is called for an object comes, together, among what is called for those it is inside of. -/
theorem pendingCalls_of_within {x : NodeId} (hx : t.Within x root) :
    t.pendingCalls x <:+: t.pendingCalls root := by
  refine infix_of_within ht ?_ hx
  intro y hy c hc
  have hself : ¬ t.Inside y y := fun h => hroot (inside_self_of_within h hy)
  rw [pendingCalls_eq ht hself]
  exact (infix_flatMap_of_mem hc).trans (List.prefix_append _ _).isInfix

theorem childrenFirst : t.ChildrenFirst root where
  mem_iff := mem_pendingCalls ht hroot
  nodup := nodup_pendingCalls ht root
  eq := by
    intro x hx
    apply pendingCalls_eq ht
    intro hself
    exact hroot (inside_self_of_within hself hx)
  behind := by
    intro x y a b hy hxy hx hcall
    have hself : ¬ t.Inside y y := fun h => hroot (inside_self_of_within h hy)
    obtain ⟨c, hxc, hcy⟩ := TransGen.tail'_iff.mp hxy
    have hc := (ht.mem_children y c).mpr hcy
    have hchild := not_inside_self_of_mem_children ht hself hc
    have hmem : (x, a) ∈ (t.children y).flatMap t.pendingCalls :=
      List.mem_flatMap.mpr ⟨c, hc, (mem_pendingCalls ht hchild x a).mpr ⟨hxc, hx⟩⟩
    apply List.Sublist.trans _ (pendingCalls_of_within ht hroot hy).sublist
    rw [pendingCalls_eq ht hself, hcall]
    exact (List.singleton_sublist.mpr hmem).append (.refl _)

end Order

section Noting

variable {ω : Type} (run : ω → ConstructorCall → ω × Except ScriptError Unit)

/-- A callback that notes each call and what it was answered. -/
def noting (s : ω × List (ConstructorCall × Except ScriptError Unit)) (call : ConstructorCall) :
    (ω × List (ConstructorCall × Except ScriptError Unit)) × Except ScriptError Unit :=
  (((run s.1 call).1, s.2 ++ [(call, (run s.1 call).2)]), (run s.1 call).2)

theorem answers_noting (w : ω) (notes : List (ConstructorCall × Except ScriptError Unit))
    (calls : List ConstructorCall) :
    answers (noting run) (w, notes) calls = answers run w calls := by
  induction calls generalizing w notes with
  | nil => rfl
  | cons call calls ih =>
    rw [answers, answers]
    exact congrArg _ (ih _ _)

theorem foldl_noting (w : ω) (notes : List (ConstructorCall × Except ScriptError Unit))
    (calls : List ConstructorCall) :
    calls.foldl (fun s call => (noting run s call).1) (w, notes) =
      (calls.foldl (fun w call => (run w call).1) w, notes ++ answers run w calls) := by
  induction calls generalizing w notes with
  | nil => simp [answers]
  | cons call calls ih =>
    rw [List.foldl_cons, List.foldl_cons, answers, List.append_cons]
    exact ih (run w call).1 (notes ++ [(call, (run w call).2)])

theorem call?_runPending (ids : List NodeId) (w : ω) (t : DisplayTree)
    (report : ConstructorReport) (k : NodeId) :
    (runPending run ids (w, t, report)).2.1.call? k = if k ∈ ids then none else t.call? k := by
  rw [call?, node?_runPending]
  split
  · cases t.node? k <;> rfl
  · rfl

theorem report_runConstructors (ht : t.Linked) (w : ω) (root : NodeId) :
    (runConstructors run w t root).2.2 = ⟨(t.pendingCalls root).length,
      (answers run w ((t.pendingCalls root).map Prod.snd)).filterMap
        fun note => note.1.failure? note.2⟩ := by
  have hreport := (runPending_calls run (nodup_postOrder ht root) w t {}).2
  rw [← map_snd_pendingCalls, List.length_map] at hreport
  rw [runConstructors, hreport]
  simp

/-- Which constructors are called, what came of them and what is left of the tree does not depend on
whether the calls are noted; and the tree not even on what they are answered. -/
theorem runConstructors_noting (ht : t.Linked) (w : ω)
    (notes : List (ConstructorCall × Except ScriptError Unit)) (root : NodeId) :
    runConstructors (noting run) (w, notes) t root =
      (((runConstructors run w t root).1,
        notes ++ answers run w ((t.pendingCalls root).map Prod.snd)),
        (runConstructors run w t root).2) := by
  have hids := nodup_postOrder ht root
  obtain ⟨houtside, hreport⟩ := runPending_calls run hids w t {}
  obtain ⟨hnoted, hreport'⟩ := runPending_calls (noting run) hids (w, notes) t {}
  have htree : (runConstructors (noting run) (w, notes) t root).2.1 =
      (runConstructors run w t root).2.1 := by
    apply ext_node?
    · intro k
      rw [runConstructors, runConstructors, node?_runPending, node?_runPending]
    · simp
  rw [foldl_noting] at hnoted
  rw [answers_noting] at hreport'
  rw [map_snd_pendingCalls]
  refine Prod.ext ?_ (Prod.ext htree (hreport'.trans hreport.symm))
  rw [runConstructors, runConstructors, hnoted, houtside]

/-- What running the constructors of a subtree comes to: the calls that were made, each with its
answer, the report on them, and the tree without the constructors. -/
structure Constructed (t t' : DisplayTree) (root : NodeId)
    (notes : List (ConstructorCall × Except ScriptError Unit)) (report : ConstructorReport) :
    Prop where
  calls_eq : notes.map Prod.fst = (t.pendingCalls root).map Prod.snd
  executed_eq : report.executed = notes.length
  failures_eq : report.failures = notes.filterMap fun note => note.1.failure? note.2
  spent : ∀ id, t.Within id root → t'.node? id = (t.node? id).map Node.spent
  kept : ∀ id, ¬ t.Within id root → t'.node? id = t.node? id
  events_eq : t'.events = t.events

theorem constructed (ht : t.Linked) {root : NodeId} (hroot : ¬ t.Inside root root) (w : ω) :
    t.Constructed (runConstructors run w t root).2.1 root
      (answers run w ((t.pendingCalls root).map Prod.snd)) (runConstructors run w t root).2.2 where
  calls_eq := map_fst_answers run w _
  executed_eq := by
    have hlength := congrArg List.length
      (map_fst_answers run w ((t.pendingCalls root).map Prod.snd))
    rw [report_runConstructors run ht]
    simpa using hlength.symm
  failures_eq := by rw [report_runConstructors run ht]
  spent := by
    intro id hid
    rw [runConstructors, node?_runPending]
    split
    next => rfl
    next hmem =>
      have hge : t.size ≤ id :=
        Nat.le_of_not_lt fun hlt => hmem ((mem_postOrder ht hroot id).mpr ⟨hlt, hid⟩)
      have hnone : t.node? id = none := List.getElem?_eq_none hge
      rw [hnone, Option.map_none]
  kept := by
    intro id hid
    rw [runConstructors, node?_runPending, if_neg]
    intro hmem
    exact hid ((mem_postOrder ht hroot id).mp hmem).2
  events_eq := events_runConstructors t run w root

end Noting

section Changes

/-- What is done to a tree but for running constructors. -/
inductive Change where
  | edit (e : Edit)
  | timeline (id : NodeId) (f : Timeline → Timeline)
  | stamp (id : NodeId) (info : LoaderInfo)
  | reset (root : NodeId)
  | dispatch (target : NodeId) (kind : EventKind)
  | addedToStage (target : NodeId) (broadcast : Bool)
  | drainEvents

def change (t : DisplayTree) : Change → DisplayTree
  | .edit e => t.edit e
  | .timeline id f => t.setTimeline id f
  | .stamp id info => t.stamp id info
  | .reset root => t.resetSubtree root
  | .dispatch target kind => t.dispatch target kind
  | .addedToStage target broadcast => t.dispatchAddedToStage target broadcast
  | .drainEvents => t.drainEvents.1

theorem Reachable.change (ht : t.Reachable) : ∀ c : Change, (t.change c).Reachable
  | .edit e => ht.edit e
  | .timeline id f => ht.timeline id f
  | .stamp id info => ht.stamp id info
  | .reset root => ht.reset root
  | .dispatch target kind => ht.dispatch target kind
  | .addedToStage target broadcast => ht.addedToStage target broadcast
  | .drainEvents => ht.drainEvents

/-- All objects are still there, with the constructors that each had to run. -/
structure KeepsCalls (t t' : DisplayTree) : Prop where
  size_le : t.size ≤ t'.size
  call?_eq : ∀ id < t.size, t'.call? id = t.call? id

theorem KeepsCalls.refl (t : DisplayTree) : t.KeepsCalls t := ⟨Nat.le_refl _, fun _ _ => rfl⟩

theorem KeepsCalls.trans {a b c : DisplayTree} (hab : a.KeepsCalls b) (hbc : b.KeepsCalls c) :
    a.KeepsCalls c where
  size_le := hab.size_le.trans hbc.size_le
  call?_eq := fun id hid =>
    (hbc.call?_eq id (Nat.lt_of_lt_of_le hid hab.size_le)).trans (hab.call?_eq id hid)

theorem KeepsCalls.foldl {α : Type} {f : DisplayTree → α → DisplayTree}
    (hf : ∀ (t : DisplayTree) (a : α), t.KeepsCalls (f t a)) (as : List α) (t : DisplayTree) :
    t.KeepsCalls (as.foldl f t) := by
  induction as generalizing t with
  | nil => exact .refl t
  | cons a as ih => exact (hf t a).trans (ih (f t a))

/-- The call of an object depends on its name and its constructor only. -/
theorem keepsCalls_of_map {t t' : DisplayTree} (hsize : t'.size = t.size)
    (hmap : ∀ id, (t'.node? id).map Node.call? = (t.node? id).map Node.call?) :
    t.KeepsCalls t' where
  size_le := hsize.ge
  call?_eq := by
    intro id _
    have hbind := congrArg (fun c : Option (Option ConstructorCall) => c.bind fun x => x) (hmap id)
    simp only [Option.bind_map] at hbind
    exact hbind

theorem keepsCalls_modify (t : DisplayTree) (id : NodeId) {f : Node → Node}
    (hf : ∀ n, (f n).call? = n.call?) : t.KeepsCalls (t.modify id f) :=
  keepsCalls_of_map (t.size_modify id f) fun k => t.map_node?_modify id k hf

/-- Objects behind those that were there leave them alone. -/
theorem keepsCalls_of_nodes {t t' : DisplayTree} {nodes : List Node}
    (ht : t'.nodes = t.nodes ++ nodes) : t.KeepsCalls t' where
  size_le := by simp [size, ht]
  call?_eq := by
    intro id hid
    rw [call?, node?, ht, List.getElem?_append_left hid]
    rfl

theorem keepsCalls_edit (t : DisplayTree) : ∀ e : Edit, t.KeepsCalls (t.edit e)
  | .spawn _ _ => keepsCalls_of_nodes rfl
  | .instantiate template => keepsCalls_of_nodes (t.nodes_instantiate template)
  | .addChild p c =>
    keepsCalls_of_map (t.size_addChild p c) (map_node?_addChild (fun _ _ _ => rfl) t p c)
  | .detach c => keepsCalls_of_map (t.size_detach c) (map_node?_detach (fun _ _ _ => rfl) t c)

theorem keepsCalls_change (t : DisplayTree) (c : Change) : t.KeepsCalls (t.change c) := by
  have htimeline (t : DisplayTree) (id : NodeId) (f : Timeline → Timeline) :
      t.KeepsCalls (t.setTimeline id f) := t.keepsCalls_modify id fun _ => rfl
  have hdispatch (t : DisplayTree) (target : NodeId) (kind : EventKind) :
      t.KeepsCalls (t.dispatch target kind) := keepsCalls_of_nodes (List.append_nil _).symm
  cases c with
  | edit e => exact t.keepsCalls_edit e
  | timeline id f => exact htimeline t id f
  | stamp id info => exact t.keepsCalls_modify id fun _ => rfl
  | reset root => exact .foldl (fun t id => htimeline t id _) _ t
  | dispatch target kind => exact hdispatch t target kind
  | addedToStage target broadcast => exact .foldl (fun t id => hdispatch t id _) _ t
  | drainEvents => exact keepsCalls_of_nodes (List.append_nil _).symm

end Changes

section History

variable {ω : Type}

inductive Act (ω : Type) where
  | construct (run : ω → ConstructorCall → ω × Except ScriptError Unit) (root : NodeId)
  | change (c : Change)

/-- A tree and what is outside of it after some acts. -/
structure History (ω : Type) where
  tree : DisplayTree
  outside : ω
  /-- What the callbacks noted. -/
  notes : List (ConstructorCall × Except ScriptError Unit) := []
  /-- The calls with their objects. -/
  called : List (NodeId × ConstructorCall) := []

namespace History

def act (h : History ω) : Act ω → History ω
  | .construct run root =>
    let ((outside, notes), tree, _) :=
      runConstructors (noting run) (h.outside, h.notes) h.tree root
    { tree, outside, notes, called := h.called ++ h.tree.pendingCalls root }
  | .change c => { h with tree := h.tree.change c }

/-- The notes are on the calls, no two of which are of one object; and what was called is spent. -/
structure Sound (h : History ω) : Prop where
  reachable : h.tree.Reachable
  notes_eq : h.notes.map Prod.fst = h.called.map Prod.snd
  nodup : (h.called.map Prod.fst).Nodup
  spent : ∀ id ∈ h.called.map Prod.fst, id < h.tree.size ∧ h.tree.call? id = none

variable {h : History ω}

theorem Sound.construct (hh : h.Sound)
    (run : ω → ConstructorCall → ω × Except ScriptError Unit) (root : NodeId) :
    (h.act (.construct run root)).Sound := by
  have hlinked := hh.reachable.linked
  have hcall (id : NodeId) : (runConstructors run h.outside h.tree root).2.1.call? id =
      if id ∈ h.tree.postOrder root then none else h.tree.call? id :=
    call?_runPending run _ h.outside h.tree {} id
  have hsize := (sameLinks_runConstructors run h.outside h.tree root).size_eq
  have hact : h.act (.construct run root) =
      { tree := (runConstructors run h.outside h.tree root).2.1
        outside := (runConstructors run h.outside h.tree root).1
        notes := h.notes ++ answers run h.outside ((h.tree.pendingCalls root).map Prod.snd)
        called := h.called ++ h.tree.pendingCalls root } := by
    simp only [act, runConstructors_noting run hlinked]
  rw [hact]
  refine ⟨hh.reachable.construct run h.outside root, ?_, ?_, ?_⟩
  · rw [List.map_append, List.map_append, map_fst_answers, hh.notes_eq]
  · have hpending := nodup_pendingCalls hlinked root
    rw [List.map_append]
    apply hh.nodup.append hpending
    intro id hcalled hmem
    exact (mem_map_fst_pendingCalls.mp hmem).2 (hh.spent id hcalled).2
  · intro id hid
    rw [hsize, hcall]
    rw [List.map_append, List.mem_append] at hid
    rcases hid with hcalled | hmem
    · obtain ⟨hlt, hnone⟩ := hh.spent id hcalled
      exact ⟨hlt, by rw [hnone, ite_self]⟩
    · obtain ⟨hpost, hsome⟩ := mem_map_fst_pendingCalls.mp hmem
      refine ⟨?_, if_pos hpost⟩
      by_contra hge
      exact hsome (call?_of_size_le (Nat.le_of_not_lt hge))

theorem Sound.act (hh : h.Sound) (a : Act ω) : (h.act a).Sound := by
  cases a with
  | construct run root => exact hh.construct run root
  | change c =>
    have hkeeps := h.tree.keepsCalls_change c
    refine ⟨hh.reachable.change c, hh.notes_eq, hh.nodup, ?_⟩
    intro id hid
    obtain ⟨hlt, hnone⟩ := hh.spent id hid
    exact ⟨Nat.lt_of_lt_of_le hlt hkeeps.size_le, (hkeeps.call?_eq id hlt).trans hnone⟩

theorem Sound.run (hh : h.Sound) (acts : List (Act ω)) : (acts.foldl History.act h).Sound := by
  induction acts generalizing h with
  | nil => exact hh
  | cons a acts ih => exact ih (hh.act a)

end History

end History

/-- To run the constructors of a subtree calls those that are pending there, of an object's children
before its own and child after child, whatever each is answered; it reports how many there were and
which of them failed, and leaves all else as it was. Whatever happens to a tree, the constructor of
no object is called twice. -/
theorem constructors_run_once (ht : t.Reachable) :
    (∀ root, ¬ t.Inside root root → t.ChildrenFirst root ∧
      ∀ (ω : Type) (run : ω → ConstructorCall → ω × Except ScriptError Unit) (w : ω),
        let noted := runConstructors (noting run) (w, []) t root
        t.Constructed noted.2.1 root noted.1.2 noted.2.2 ∧
          runConstructors run w t root = (noted.1.1, noted.2)) ∧
    ∀ (ω : Type) (w : ω) (acts : List (Act ω)),
      let h := acts.foldl History.act { tree := t, outside := w }
      h.notes.map Prod.fst = h.called.map Prod.snd ∧ (h.called.map Prod.fst).Nodup := by
  constructor
  · intro root hroot
    refine ⟨childrenFirst ht.linked hroot, ?_⟩
    intro ω run w
    rw [runConstructors_noting run ht.linked]
    exact ⟨constructed run ht.linked hroot w, rfl⟩
  · intro ω w acts
    have hstart : History.Sound { tree := t, outside := w } := ⟨ht, rfl, .nil, nofun⟩
    have hend := hstart.run acts
    exact ⟨hend.notes_eq, hend.nodup⟩

/-- One constructor of a scene fails, and the others run; so they do, once each, when the object
goes somewhere else after its own has run. -/
theorem constructors_run_once_scene :
    let t := ({} : DisplayTree).edit (.instantiate ⟨"scene", 3, some "root()",
      [⟨"hero", 1, some "hero()", [⟨"hat", 1, some "hat()", []⟩]⟩, ⟨"ground", 1, none, []⟩]⟩)
    let run (w : Nat) (call : ConstructorCall) : Nat × Except ScriptError Unit :=
      (w + 1, if call.target = "hero" then .error (.runtime "boom") else .ok ())
    let h := [.construct run 1, .change (.edit (.addChild 3 1)), .construct run 0].foldl
      History.act { tree := t, outside := 0 }
    t.Reachable ∧ ¬ t.Inside 0 0 ∧
      (runConstructors run 0 t 0).2.2 = ⟨3, [⟨"hero", .runtime "boom"⟩]⟩ ∧
      (∀ id, t.Within id 0 → (runConstructors run 0 t 0).2.1.call? id = none) ∧
      h.notes.map Prod.fst = [⟨"hat", "hat()"⟩, ⟨"hero", "hero()"⟩, ⟨"scene", "root()"⟩] ∧
      (h.called.map Prod.fst).Nodup := by
  intro t run h
  have ht : t.Reachable := Reachable.empty.edit _
  have hroot : ¬ t.Inside 0 0 := forest_empty.instantiate linked_empty _ 0
  obtain ⟨hsubtree, hruns⟩ := constructors_run_once ht
  obtain ⟨-, hran⟩ := hsubtree 0 hroot
  obtain ⟨hconstructed, hplain⟩ := hran Nat run 0
  obtain ⟨hnotes, hnodup⟩ := hruns Nat 0
    [.construct run 1, .change (.edit (.addChild 3 1)), .construct run 0]
  refine ⟨ht, hroot, by decide, ?_, ?_, hnodup⟩
  · intro id hid
    rw [hplain, call?, hconstructed.spent id hid]
    cases t.node? id <;> rfl
  · rw [hnotes]
    decide

end ContentPlayer.DisplayTree
