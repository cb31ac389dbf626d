import ContentPlayer.Domain.Recording
import ContentPlayer.Proofs.Display.Content
import ContentPlayer.Proofs.Domain.Operation
import ContentPlayer.Proofs.Session.Grafting

namespace ContentPlayer

/-- A stage that has gained a copy of a template as content, and is what it was besides: the copy is
new and comes behind what was on the stage, it is at the beginning with only itself at a starting
frame, its constructors have run, and it was announced. -/
structure Stage.Gains (before after : Stage) (template : Template) (loader : Option LoaderInfo)
    (content : NodeId) : Prop where
  order : after.tree.preOrder content = List.range' before.tree.size template.nodeCount
  size_eq : after.tree.size = before.tree.size + template.nodeCount
  fresh : ∀ id ∈ after.tree.preOrder content,
    before.tree.contains id = false ∧ after.tree.contains id = true
  reads_iff : ∀ x, after.tree.Reads content x ↔ x = template.spent.clamped
  parent_eq : after.tree.parent content = some before.root
  children_eq : after.tree.children before.root = before.tree.children before.root ++ [content]
  kept : ∀ id, before.tree.contains id = true →
    after.tree.node? id = (before.tree.node? id).map fun n =>
      if id = before.root then { n with children := n.children ++ [content] } else n
  start : ∀ id ∈ after.tree.preOrder content, ∀ l, after.tree.timeline id = some l →
    l.current = 0 ∧ l.playing = true ∧ l.first = decide (id = content)
  spent : ∀ id ∈ after.tree.preOrder content, ∀ n, after.tree.node? id = some n → n.pending = none
  stamped : ∀ id ∈ after.tree.preOrder content, ∀ n, after.tree.node? id = some n →
    n.loader = if id = content then loader else none
  events_eq : after.tree.events = before.tree.events ++ ⟨content, .added⟩ ::
    (after.tree.preOrder content).map (⟨·, .addedToStage⟩)
  rest_eq : after = { before with tree := after.tree }

namespace Stage

variable {ω : Type} (run : ω → ConstructorCall → ω × Except ScriptError Unit) (w : ω) {s : Stage}
  (template : Template) (loader : Option LoaderInfo)

theorem reads_graft (hroot : s.root < s.tree.size) :
    (s.graft run w template loader).2.1.tree.Reads s.tree.size template.spent.clamped := by
  have hcopy : (s.graft run w template loader).2.1.tree.Matches Node.face s.tree.size
      (template.spent.nodes s.tree.size (some s.root)) := by
    intro k n hn
    rw [Template.nodes_spent, List.getElem?_map] at hn
    obtain ⟨m, hm, rfl⟩ := Option.map_eq_some_iff.mp hn
    rw [node?_graft_add run w template loader hroot, hm]
    rfl
  exact DisplayTree.reads_copy template.spent hcopy

theorem size_graft (hroot : s.root < s.tree.size) :
    (s.graft run w template loader).2.1.tree.size = s.tree.size + template.nodeCount := by
  have hran := DisplayTree.sameLinks_runConstructors run w (s.mount template loader).1.tree
    (s.mount template loader).2
  have hshown := hran.trans (DisplayTree.sameLinks_announce _ (s.mount template loader).2)
  refine hshown.size_eq.trans ?_
  rw [DisplayTree.size, s.nodes_mount hroot template loader, List.length_append,
    List.length_modify, List.length_modifyHead, template.length_nodes]
  rfl

/-- An object of the content, with its place in it. -/
theorem exists_node_of_mem_content (hroot : s.root < s.tree.size) {id : NodeId}
    (hid : id ∈ List.range' s.tree.size template.nodeCount) :
    ∃ n ∈ template.nodes s.tree.size (some s.root),
      (s.graft run w template loader).2.1.tree.node? id = some { n.spent with
        timeline := { n.timeline with first := decide (id = s.tree.size) }
        loader := if id = s.tree.size then loader else none } := by
  obtain ⟨k, hk, rfl⟩ := List.mem_range'.mp hid
  rw [← template.length_nodes s.tree.size (some s.root)] at hk
  refine ⟨_, List.getElem_mem hk, ?_⟩
  rw [Nat.one_mul, node?_graft_add run w template loader hroot, List.getElem?_eq_getElem hk]
  simp

/-- A graft brings a stage a copy of its template. -/
theorem gains_graft (hroot : s.root < s.tree.size) :
    s.Gains (s.graft run w template loader).2.1 template loader s.tree.size := by
  let g := (s.graft run w template loader).2.1.tree
  have horder : g.preOrder s.tree.size = List.range' s.tree.size template.nodeCount :=
    DisplayTree.preOrder_copy (covers_graft run w template loader hroot)
  have hreads := reads_graft run w template loader hroot
  have hnode : ∀ id ∈ g.preOrder s.tree.size, ∀ n, g.node? id = some n →
      n.pending = none ∧ (n.loader = if id = s.tree.size then loader else none) ∧
        n.timeline.current = 0 ∧ n.timeline.playing = true ∧
        n.timeline.first = decide (id = s.tree.size) := by
    intro id hid n hn
    rw [horder] at hid
    obtain ⟨m, hm, hnode⟩ := exists_node_of_mem_content run w template loader hroot hid
    obtain rfl := Option.some.inj (hn.symm.trans hnode)
    obtain ⟨-, total, htotal⟩ := template.fresh_of_mem_nodes hm
    rw [htotal]
    exact ⟨rfl, rfl, rfl, rfl, rfl⟩
  have hkept {id : NodeId} (hid : id < s.tree.size) := node?_graft_of_lt run w template loader hroot
    hid
  constructor
  case order => exact horder
  case size_eq => exact size_graft run w template loader hroot
  case fresh =>
    intro id hid
    exact DisplayTree.new_of_mem_preOrder horder hid
  case reads_iff => exact hreads.iff_eq
  case parent_eq =>
    have hhead := node?_graft_add run w template loader hroot 0
    obtain ⟨n, rest, -, hcopy⟩ := template.nodes_eq_cons s.tree.size
    rw [Nat.add_zero, hcopy] at hhead
    simp [DisplayTree.parent, hhead, Node.spent]
  case children_eq =>
    obtain ⟨n, hn⟩ := DisplayTree.exists_node hroot
    simp [DisplayTree.children, hkept hroot, hn]
  case kept =>
    intro id hid
    exact hkept (DisplayTree.contains_iff.mp hid)
  case start =>
    intro id hid l hl
    obtain ⟨n, hn, rfl⟩ := Option.map_eq_some_iff.mp hl
    exact (hnode id hid n hn).2.2
  case spent =>
    intro id hid n hn
    exact (hnode id hid n hn).1
  case stamped =>
    intro id hid n hn
    exact (hnode id hid n hn).2.1
  case events_eq =>
    rw [s.events_graft run w template loader, snd_graft run w template loader]
    rfl
  case rest_eq => rfl

/-- The report on a graft counts the constructors of the template, and lists those that failed. -/
theorem report_graft (hroot : s.root < s.tree.size) :
    (s.graft run w template loader).2.2.2 = ⟨template.constructors.length,
      (DisplayTree.answers run w template.constructors).filterMap fun a => a.1.failure? a.2⟩ := by
  have hcovers := s.matches_mount (f := Node.children) (fun _ _ _ => rfl) hroot template loader
  have hcalls := s.matches_mount (f := Node.call?) (fun _ _ _ => rfl) hroot template loader
  have hgraft : (s.graft run w template loader).2.2.2 = (DisplayTree.runConstructors run w
      (s.mount template loader).1.tree (s.mount template loader).2).2.2 := rfl
  rw [hgraft, snd_mount, DisplayTree.runConstructors, DisplayTree.postOrder_copy hcovers,
    (DisplayTree.runPending_calls run (template.nodup_childrenFirst _) _ _ _).2,
    DisplayTree.filterMap_childrenFirst template hcalls]
  simp

end Stage

variable {ω : Type}

/-- The same world, with executors that note their calls. -/
def World.traced (world : World ω) : World (ω × List Executor.Call) where
  session := world.session
  domains := world.domains.map fun d => { d with executor := d.executor.traced }
  stages := world.stages
  nextApplication := world.nextApplication

/-- The calls that a graft makes of the executor. -/
def GraftState.graftCalls (w : ω) (world : World ω) (state : GraftState) (template : Template) :
    List Executor.Call :=
  (state.graft (w, []) world.traced template).1.2

theorem Executor.foldl_traced (x : Executor ω) (w : ω) (log : List Executor.Call)
    (calls : List ConstructorCall) :
    calls.foldl (fun s call => (x.traced.construct s call).1) (w, log) =
      (calls.foldl (fun w call => (x.construct w call).1) w,
        log ++ (DisplayTree.answers x.construct w calls).map fun a => .construct a.1 a.2) := by
  induction calls generalizing w log with
  | nil => simp [DisplayTree.answers]
  | cons call calls ih =>
    rw [List.foldl_cons, List.foldl_cons, DisplayTree.answers, List.map_cons,
      List.append_cons]
    exact ih (x.construct w call).1 (log ++ [.construct call (x.construct w call).2])

theorem GraftState.graftCalls_eq (w : ω) {world : World ω} {did : DomainId} {d : Domain ω}
    {id : StageId} {s : Stage} (hdomain : world.sessionDomain? = some (did, d))
    (hstage : world.sessionStage? = some (id, s)) (hroot : s.root < s.tree.size)
    (template : Template) :
    idle.graftCalls w world template =
      (DisplayTree.answers d.executor.construct w template.constructors).map
        fun a => .construct a.1 a.2 := by
  have hdomain' : world.traced.sessionDomain? =
      some (did, { d with executor := d.executor.traced }) := by
    obtain ⟨hid, hd⟩ := World.sessionDomain?_eq_some.mp hdomain
    refine World.sessionDomain?_eq_some.mpr ⟨hid, ?_⟩
    rw [World.traced, List.getElem?_map, hd, Option.map_some]
  have hstage' : world.traced.sessionStage? = some (id, s) := hstage
  have hran := d.executor.foldl_traced w [] template.constructors
  rw [graftCalls, graft_eq (w, []) hdomain' hstage' template]
  dsimp only
  rw [Stage.fst_graft _ _ _ hroot]
  exact congrArg Prod.snd hran

/-- A graft does all of its job, whatever the constructors of the template are answered. It leaves
the stage with a fresh copy of the template as content, calls the executor for the template's
constructors, each once and children first, and reports how many there were and which of them
failed. Constructors are allowed from then on, and the graft remembers its content. -/
theorem GraftState.graft_complete (w : ω) {world : World ω} {did : DomainId} {d : Domain ω}
    {id : StageId} {s : Stage} (hdomain : world.sessionDomain? = some (did, d))
    (hstage : world.sessionStage? = some (id, s)) (hroot : s.root < s.tree.size)
    (template : Template) :
    let answers := DisplayTree.answers d.executor.construct w template.constructors
    ∃ s' content report,
      idle.graft w world template =
        (template.constructors.foldl (fun w call => (d.executor.construct w call).1) w,
          { world.setStage id s' with
            session := { world.session with constructorsAllowed := true } },
          .grafted content, .ok (.grafted content report)) ∧
      s.Gains s' template world.session.loader content ∧
      idle.graftCalls w world template = answers.map (fun a => .construct a.1 a.2) ∧
      answers.map Prod.fst = template.constructors ∧
      report.executed = template.constructors.length ∧
      report.failures = answers.filterMap fun a => a.1.failure? a.2 := by
  intro answers
  let g := s.graft d.executor.construct w template world.session.loader
  have hcontent : g.2.2.1 = s.tree.size := Stage.snd_graft ..
  have hreport : g.2.2.2 = ⟨template.constructors.length,
      answers.filterMap fun a => a.1.failure? a.2⟩ := Stage.report_graft _ _ _ _ hroot
  have houtside : g.1 = template.constructors.foldl
      (fun w call => (d.executor.construct w call).1) w := Stage.fst_graft _ _ _ hroot _ _
  refine ⟨g.2.1, s.tree.size, g.2.2.2, ?_, Stage.gains_graft _ _ _ _ hroot,
    graftCalls_eq w hdomain hstage hroot template, DisplayTree.map_fst_answers _ _ _, ?_, ?_⟩
  · rw [graft_eq w hdomain hstage template, ← houtside, ← hcontent]
    rfl
  · rw [hreport]
  · rw [hreport]

/-- A scene with a constructor that fails, on a stage that is not empty. -/
theorem GraftState.graft_complete_failing :
    let s := (Stage.ofSurface { viewport := ⟨550, 400⟩ }).modifyTree fun t =>
      (t.edit (.spawn "logo" 1)).edit (.addChild 0 1)
    let d : Domain (List String) :=
      { executor := .recording fun line log => log ++ [line], version := 10 }
    let world : World (List String) :=
      { session := { loader := some ⟨"file:///movie.swf", 10⟩, domain := some 0, stage := some 0 }
        domains := [d]
        stages := [s] }
    let scene : Template := ⟨"scene", 0, some "scene()", [⟨"hero", 5, some "fail", []⟩]⟩
    (world.sessionDomain? = some (0, d) ∧ world.sessionStage? = some (0, s) ∧
        s.root < s.tree.size) ∧
      ∃ s' content report world',
        idle.graft [] world scene = (["construct hero", "construct scene"], world',
          .grafted content, .ok (.grafted content report)) ∧
        s.Gains s' scene world.session.loader content ∧
        s'.tree.children s.root = [1, content] ∧
        report.executed = 2 ∧
        report.failures = [⟨"hero", .runtime "constructor of hero failed"⟩] := by
  intro s d world scene
  have hdomain : world.sessionDomain? = some (0, d) := rfl
  have hstage : world.sessionStage? = some (0, s) := rfl
  have hroot : s.root < s.tree.size := by decide
  obtain ⟨s', content, report, hgraft, hgains, -, -, hexecuted, hfailures⟩ :=
    graft_complete [] hdomain hstage hroot scene
  have hchildren := hgains.children_eq
  exact ⟨⟨hdomain, hstage, hroot⟩, s', content, report, _, hgraft, hgains, hchildren, hexecuted,
    hfailures⟩

end ContentPlayer
