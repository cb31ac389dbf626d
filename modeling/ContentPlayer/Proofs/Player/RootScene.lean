import ContentPlayer.Proofs.Bootstrap.Call
import ContentPlayer.Proofs.Player.Life
import ContentPlayer.Proofs.Session.Grafting

namespace ContentPlayer

variable {ω : Type}

namespace Turn

def grafted? (t : Turn ω) : Option NodeId :=
  match t.reply with
  | some (.ok (.rootGrafted content _)) => some content
  | _ => none

/-- A dispatch that offers a root scene to a session that is ready. -/
def OffersRoot (t : Turn ω) : Prop :=
  match t.step with
  | .dispatch asset candidate =>
    t.before.player.world.session.isReady = true ∧ candidate = true ∧ asset.isRootScene = true ∧
      ∃ template, asset.payload = .scene template
  | _ => False

/-- The scene that a dispatch offers is what its name stands for afterwards. -/
def RegistersScene (t : Turn ω) : Prop :=
  ∀ asset candidate template, t.step = .dispatch asset candidate →
    asset.payload = .scene template → ∃ id d,
      t.after.player.world.sessionDomain? = some (id, d) ∧
        d.registries.definitions.get? asset.name =
          some ⟨.scene template, t.before.player.world.session.loader⟩

/-- A turn that changes nothing, but for what is registered in the session's domain. -/
def Quiet (t : Turn ω) : Prop :=
  t.after = t.before ∨ ∃ id d registries, t.before.player.world.sessionDomain? = some (id, d) ∧
    t.after = t.before.setWorld (t.before.player.world.setDomain id { d with registries })

theorem Quiet.keeps {t : Turn ω} (ht : t.Quiet) :
    t.before.player.world.Continues t.after.player.world ∧
      t.after.player.graft = t.before.player.graft := by
  rcases ht with hsame | ⟨id, d, registries, _, hafter⟩
  · rw [hsame]
    exact ⟨.refl _, rfl⟩
  · rw [hafter]
    exact ⟨.inl (World.sameShape_setDomain _ id { d with registries }), rfl⟩

end Turn

theorem Player.keep_graft (p : Player ω) (progress : Progress ω Factory) :
    (p.keep progress).graft = p.graft := by
  unfold keep
  split <;> rfl

theorem Player.keep_world (p : Player ω) (progress : Progress ω Factory) :
    (p.keep progress).world = p.world := by
  unfold keep
  split <;> rfl

namespace Life

/-- What is no dispatch leaves the graft alone, and the world goes on. -/
theorem act_of_not_dispatch (l : Life ω) (s : Step ω)
    (hs : ∀ asset candidate, s ≠ .dispatch asset candidate) :
    (l.act s).1.player.graft = l.player.graft ∧ (l.act s).2 = none ∧
      l.player.world.Continues (l.act s).1.player.world := by
  cases s with
  | start info flags =>
    refine ⟨Player.keep_graft _ _, rfl, ?_⟩
    have hstart := Bootstrapper.start_continues l.outside l.player.world l.player.bootstrapper info
      flags
    simpa only [act, Player.start, Player.keep_world] using hstart
  | resume =>
    rw [act]
    split
    next => exact ⟨rfl, rfl, .refl _⟩
    next a _ =>
      refine ⟨Player.keep_graft _ _, rfl, ?_⟩
      have hresume := Bootstrapper.resume_continues l.outside l.player.world l.player.bootstrapper a
      simpa only [Player.resume, Player.keep_world] using hresume
  | abandon => exact ⟨rfl, rfl, .refl _⟩
  | dispatch asset candidate => exact absurd rfl (hs asset candidate)
  | enterFrame => exact ⟨rfl, rfl, .inl l.player.world.sameShape_enterFrame⟩
  | resize => exact ⟨rfl, rfl, .inl l.player.world.sameShape_resize⟩
  | createInstance name =>
    rw [act]
    split
    next => exact ⟨rfl, rfl, .refl _⟩
    next f _ =>
      have hmade := World.sameShape_createInstance l.outside l.player.world f name
      exact ⟨rfl, rfl, .inl hmade⟩
  | createSprite name =>
    rw [act]
    split
    next => exact ⟨rfl, rfl, .refl _⟩
    next f _ =>
      have hmade := World.sameShape_createSprite l.player.world f name
      exact ⟨rfl, rfl, .inl hmade⟩
  | viewport v =>
    rw [act]
    split
    next => exact ⟨rfl, rfl, .refl _⟩
    next id s _ =>
      have hset := World.sameShape_setStage l.player.world id (s.setViewport v)
      exact ⟨rfl, rfl, .inl hset⟩
  | elapse f => exact ⟨rfl, rfl, .refl _⟩

variable {l : Life ω} {asset : Asset} {candidate : Bool}

theorem rootTemplate?_eq_some {template : Template} :
    asset.rootTemplate? candidate = some template ↔
      candidate = true ∧ asset.isRootScene = true ∧ asset.payload = .scene template := by
  unfold Asset.rootTemplate?
  split
  next t heq => simp [heq, and_assoc]
  next hne =>
    constructor
    · intro h
      cases h
    · rintro ⟨_, _, hscene⟩
      exact absurd hscene (hne template)

/-- A dispatch that offers no root to a ready session registers something at most. -/
theorem turn_of_not_offers (hoffers : ¬ (l.turn (.dispatch asset candidate)).OffersRoot) :
    (l.turn (.dispatch asset candidate)).grafted? = none ∧
      (l.turn (.dispatch asset candidate)).Quiet := by
  cases hdomain : l.player.world.sessionDomain? with
  | none =>
    have hact : l.act (.dispatch asset candidate) =
        (l, some (.error (.domainNotReady asset.name))) := by
      simp [act, Player.dispatch, GraftState.dispatch_of_not_ready _ hdomain]
    simp only [turn, hact]
    exact ⟨rfl, .inl rfl⟩
  | some p =>
    obtain ⟨id, d⟩ := p
    have hready : l.player.world.session.isReady = true := by
      have hid := (World.sessionDomain?_eq_some.mp hdomain).1
      simp [Session.isReady, hid]
    have hroot : asset.rootTemplate? candidate = none := by
      rw [Option.eq_none_iff_forall_ne_some]
      intro template htemplate
      obtain ⟨hcandidate, hflag, hscene⟩ := rootTemplate?_eq_some.mp htemplate
      exact hoffers ⟨hready, hcandidate, hflag, template, hscene⟩
    have hact : l.act (.dispatch asset candidate) =
        (l.setWorld (l.player.world.setDomain id (d.taking asset l.player.world.session.loader)),
          some (.ok (d.registries.accept asset.name asset.payload
            l.player.world.session.loader).2)) := by
      simp [act, Player.dispatch, GraftState.dispatch_of_no_root _ hdomain hroot, setWorld]
    simp only [turn, hact]
    refine ⟨?_, .inr ⟨id, d, _, hdomain, rfl⟩⟩
    rw [Turn.grafted?]
    split
    next content report heq =>
      have houtcome : (d.registries.accept asset.name asset.payload
          l.player.world.session.loader).2 = .rootGrafted content report := by simpa using heq
      exact absurd houtcome (Registries.accept_ne_rootGrafted _ _ _ _ content report)
    next => rfl

theorem offers_dispatch {s : Step ω} (hoffers : (l.turn s).OffersRoot) :
    ∃ asset candidate, s = .dispatch asset candidate := by
  cases s with
  | dispatch asset candidate => exact ⟨asset, candidate, rfl⟩
  | _ => exact hoffers.elim

theorem of_offers (hl : l.player.world.Sound)
    (hoffers : (l.turn (.dispatch asset candidate)).OffersRoot) :
    ∃ id d s template, l.player.world.sessionDomain? = some (id, d) ∧
      l.player.world.sessionStage? = some s ∧ asset.payload = .scene template ∧
      asset.rootTemplate? candidate = some template := by
  obtain ⟨hready, hcandidate, hflag, template, hscene⟩ := hoffers
  obtain ⟨⟨id, d⟩, s, hdomain, hstage⟩ := hl.ready hready
  exact ⟨id, d, s, template, hdomain, hstage, hscene,
    rootTemplate?_eq_some.mpr ⟨hcandidate, hflag, hscene⟩⟩

theorem turn_of_duplicate (hl : l.player.world.Sound)
    (hoffers : (l.turn (.dispatch asset candidate)).OffersRoot) (hgraft : l.player.graft ≠ .idle) :
    (l.turn (.dispatch asset candidate)).reply = some (.ok (.registered .definitions true)) ∧
      (l.turn (.dispatch asset candidate)).Quiet ∧
      (l.turn (.dispatch asset candidate)).RegistersScene := by
  obtain ⟨id, d, s, template, hdomain, hstage, hscene, hroot⟩ := of_offers hl hoffers
  have hact : l.act (.dispatch asset candidate) =
      (l.setWorld (l.player.world.setDomain id (d.taking asset l.player.world.session.loader)),
        some (.ok (.registered .definitions true))) := by
    simp [act, Player.dispatch, GraftState.dispatch_of_duplicate _ hdomain hroot hgraft, setWorld]
  simp only [turn, hact]
  refine ⟨trivial, .inr ⟨id, d, _, hdomain, rfl⟩, ?_⟩
  intro asset' candidate' template' hstep hscene'
  cases hstep
  exact ⟨id, _, World.sessionDomain?_setDomain hdomain _, d.taking_scene hscene' _⟩

theorem turn_of_first (hl : l.player.world.Sound)
    (hoffers : (l.turn (.dispatch asset candidate)).OffersRoot) (hgraft : l.player.graft = .idle) :
    ∃ content, (l.turn (.dispatch asset candidate)).grafted? = some content ∧
      (l.turn (.dispatch asset candidate)).after.player.graft = .grafted content ∧
      l.player.world.SameShape (l.turn (.dispatch asset candidate)).after.player.world ∧
      (l.turn (.dispatch asset candidate)).RegistersScene := by
  obtain ⟨id, d, s, template, hdomain, hstage, hscene, hroot⟩ := of_offers hl hoffers
  obtain ⟨w, world, content, report, hdispatch, hshape, hafter⟩ :=
    GraftState.dispatch_of_idle l.outside hdomain hstage hroot
  have hact : l.act (.dispatch asset candidate) =
      (⟨w, { l.player with world, graft := .grafted content }, l.attempt⟩,
        some (.ok (.rootGrafted content report))) := by
    simp [act, Player.dispatch, hgraft, hdispatch]
  simp only [turn, hact]
  refine ⟨content, rfl, rfl, hshape, ?_⟩
  intro asset' candidate' template' hstep hscene'
  cases hstep
  exact ⟨id, _, hafter, d.taking_scene hscene' _⟩

/-- What a turn does to the graft: it is left alone, or the turn is the first that offers a root. -/
theorem turn_cases (hl : l.player.world.Sound) (s : Step ω) :
    l.player.world.Continues (l.turn s).after.player.world ∧
      ((¬ ((l.turn s).OffersRoot ∧ l.player.graft = .idle) ∧ (l.turn s).grafted? = none ∧
          (l.turn s).after.player.graft = l.player.graft) ∨
        ((l.turn s).OffersRoot ∧ l.player.graft = .idle ∧ ∃ content,
          (l.turn s).grafted? = some content ∧
            (l.turn s).after.player.graft = .grafted content)) := by
  by_cases hdispatch : ∃ asset candidate, s = .dispatch asset candidate
  · obtain ⟨asset, candidate, rfl⟩ := hdispatch
    by_cases hoffers : (l.turn (.dispatch asset candidate)).OffersRoot
    · by_cases hgraft : l.player.graft = .idle
      · obtain ⟨content, hgrafted, hafter, hshape, _⟩ := turn_of_first hl hoffers hgraft
        exact ⟨.inl hshape, .inr ⟨hoffers, hgraft, content, hgrafted, hafter⟩⟩
      · obtain ⟨hreply, hquiet, _⟩ := turn_of_duplicate hl hoffers hgraft
        obtain ⟨hcontinues, hsame⟩ := hquiet.keeps
        refine ⟨hcontinues, .inl ⟨fun h => hgraft h.2, ?_, hsame⟩⟩
        simp [Turn.grafted?, hreply]
    · obtain ⟨hgrafted, hquiet⟩ := turn_of_not_offers hoffers
      obtain ⟨hcontinues, hsame⟩ := hquiet.keeps
      exact ⟨hcontinues, .inl ⟨fun h => hoffers h.1, hgrafted, hsame⟩⟩
  · have hs : ∀ asset candidate, s ≠ .dispatch asset candidate := by
      intro asset candidate h
      exact hdispatch ⟨asset, candidate, h⟩
    obtain ⟨hsame, hreply, hcontinues⟩ := l.act_of_not_dispatch s hs
    refine ⟨hcontinues, .inl ⟨?_, ?_, hsame⟩⟩
    · rintro ⟨hoffers, _⟩
      exact hdispatch (offers_dispatch hoffers)
    · simp [Turn.grafted?, turn, hreply]

theorem ne_idle_of_not_grafted (hl : l.player.world.Sound) {s : Step ω}
    (hoffers : (l.turn s).OffersRoot) (hnone : (l.turn s).grafted? = none) :
    l.player.graft ≠ .idle := by
  intro hidle
  rcases (turn_cases hl s).2 with ⟨hnot, _⟩ | ⟨_, _, content, hsome, _⟩
  · exact hnot ⟨hoffers, hidle⟩
  · rw [hnone] at hsome
    cases hsome

theorem run_sound (hl : l.player.world.Sound) (steps : List (Step ω)) :
    (l.run steps).player.world.Sound := by
  induction steps generalizing l with
  | nil => exact hl
  | cons s rest ih => exact ih ((turn_cases hl s).1.sound hl)

/-- The graft is idle as long as no turn does what ends that. -/
theorem run_idle_iff (ends : Turn ω → Prop) (hends : ∀ l : Life ω, l.player.world.Sound → ∀ s,
      ((l.turn s).after.player.graft = .idle ↔ l.player.graft = .idle ∧ ¬ ends (l.turn s)))
    (hl : l.player.world.Sound) (steps : List (Step ω)) :
    (l.run steps).player.graft = .idle ↔
      l.player.graft = .idle ∧ ∀ t ∈ l.turns steps, ¬ ends t := by
  induction steps generalizing l with
  | nil => simp [run, turns]
  | cons s rest ih =>
    have hafter := (turn_cases hl s).1.sound hl
    rw [run, ih hafter, hends l hl s, turns]
    simp [and_assoc]

theorem turn_idle_iff_offers (hl : l.player.world.Sound) (s : Step ω) :
    (l.turn s).after.player.graft = .idle ↔
      l.player.graft = .idle ∧ ¬ (l.turn s).OffersRoot := by
  rcases (turn_cases hl s).2 with ⟨hnot, _, hsame⟩ | ⟨hoffers, _, content, _, hafter⟩
  · rw [hsame]
    constructor
    · intro hidle
      exact ⟨hidle, fun hoffers => hnot ⟨hoffers, hidle⟩⟩
    · exact And.left
  · simp [hafter, hoffers]

theorem turn_idle_iff_grafted (hl : l.player.world.Sound) (s : Step ω) :
    (l.turn s).after.player.graft = .idle ↔
      l.player.graft = .idle ∧ ¬ (l.turn s).grafted? ≠ none := by
  rcases (turn_cases hl s).2 with ⟨_, hnone, hsame⟩ | ⟨_, _, content, hgrafted, hafter⟩
  · simp [hsame, hnone]
  · simp [hafter, hgrafted]

/-- Once a root has been grafted it stays, and no turn grafts another. -/
theorem turns_of_grafted {content : NodeId} (hl : l.player.world.Sound)
    (hgraft : l.player.graft = .grafted content) (steps : List (Step ω)) :
    ∀ t ∈ l.turns steps, t.grafted? = none ∧ t.after.player.graft = .grafted content := by
  induction steps generalizing l with
  | nil => simp [turns]
  | cons s rest ih =>
    obtain ⟨hcontinues, hcases⟩ := turn_cases hl s
    rcases hcases with ⟨_, hnone, hsame⟩ | ⟨_, hidle, _⟩
    · have hafter := hsame.trans hgraft
      intro t ht
      rcases List.mem_cons.mp ht with rfl | hrest
      · exact ⟨hnone, hafter⟩
      · exact ih (hcontinues.sound hl) hafter t hrest
    · rw [hgraft] at hidle
      cases hidle

end Life

/-- What holds of every turn of a life, with the turns before and after it. -/
structure Turn.RootedOnce (earlier : List (Turn ω)) (t : Turn ω) (later : List (Turn ω)) :
    Prop where
  /-- The first root scene that is offered is grafted, and nothing else is. -/
  grafts_iff : t.grafted? ≠ none ↔ t.OffersRoot ∧ ∀ u ∈ earlier, ¬ u.OffersRoot
  none_before : (∀ u ∈ earlier, u.grafted? = none) → t.before.player.content = none ∧
    (t.grafted? = none → t.after.player.content = none)
  kept : ∀ content, t.grafted? = some content → t.after.player.content = some content ∧
    ∀ u ∈ later, u.grafted? = none ∧ u.after.player.content = some content
  duplicate : t.OffersRoot → t.grafted? = none →
    t.reply = some (.ok (.registered .definitions true))
  registers : t.OffersRoot → t.RegistersScene
  quiet : ∀ asset candidate, t.step = .dispatch asset candidate → t.grafted? = none → t.Quiet

namespace Life

variable {l : Life ω}

/-- The turn of an idle graft or of one that is over, whatever the turns before it were. -/
theorem turn_rootedOnce (hl : l.player.world.Sound) {earlier : List (Turn ω)}
    (hoffered : l.player.graft = .idle ↔ ∀ u ∈ earlier, ¬ u.OffersRoot)
    (hgrafted : l.player.graft = .idle ↔ ∀ u ∈ earlier, u.grafted? = none) (s : Step ω)
    (rest : List (Step ω)) :
    (l.turn s).RootedOnce earlier ((l.turn s).after.turns rest) := by
  obtain ⟨hcontinues, hcases⟩ := turn_cases hl s
  constructor
  · rw [← hoffered]
    rcases hcases with ⟨hnot, hnone, _⟩ | ⟨hoffers, hidle, content, hsome, _⟩
    · simp [hnone, hnot]
    · simp [hsome, hoffers, hidle]
  · rw [← hgrafted]
    intro hidle
    refine ⟨congrArg GraftState.content? hidle, ?_⟩
    intro hnone
    have hafter := (turn_idle_iff_grafted hl s).mpr ⟨hidle, by simp [hnone]⟩
    exact congrArg GraftState.content? hafter
  · intro content hcontent
    rcases hcases with ⟨_, hnone, _⟩ | ⟨_, _, content', hsome, hafter⟩
    · rw [hnone] at hcontent
      cases hcontent
    · rw [hsome] at hcontent
      cases hcontent
      refine ⟨congrArg GraftState.content? hafter, ?_⟩
      intro u hu
      obtain ⟨hnone, hkept⟩ := turns_of_grafted (hcontinues.sound hl) hafter rest u hu
      exact ⟨hnone, congrArg GraftState.content? hkept⟩
  · intro hoffers hnone
    obtain ⟨asset, candidate, rfl⟩ := offers_dispatch hoffers
    exact (turn_of_duplicate hl hoffers (ne_idle_of_not_grafted hl hoffers hnone)).1
  · intro hoffers
    obtain ⟨asset, candidate, rfl⟩ := offers_dispatch hoffers
    by_cases hidle : l.player.graft = .idle
    · obtain ⟨_, _, _, _, hregisters⟩ := turn_of_first hl hoffers hidle
      exact hregisters
    · exact (turn_of_duplicate hl hoffers hidle).2.2
  · intro asset candidate hstep hnone
    obtain rfl : s = .dispatch asset candidate := hstep
    by_cases hoffers : (l.turn (.dispatch asset candidate)).OffersRoot
    · exact (turn_of_duplicate hl hoffers (ne_idle_of_not_grafted hl hoffers hnone)).2.1
    · exact (turn_of_not_offers hoffers).2

/-- At most one root scene is grafted in a life, and all else that is dispatched leaves the stage
alone: this holds of every step that a life takes, whatever was before and whatever comes. -/
theorem root_scene_once (w : ω) (host : Host ω) (config : BootstrapConfig) (executor : Executor ω)
    (front : List (Step ω)) (s : Step ω) (rest : List (Step ω)) :
    let l := ofParts w host config executor
    let t := (l.run front).turn s
    l.turns (front ++ s :: rest) = l.turns front ++ t :: t.after.turns rest ∧
      t.RootedOnce (l.turns front) (t.after.turns rest) := by
  intro l t
  have hl : l.player.world.Sound := .inl ⟨rfl, rfl⟩
  have hidle : l.player.graft = .idle := rfl
  have hoffered := run_idle_iff Turn.OffersRoot (fun l hl s => turn_idle_iff_offers hl s) hl front
  have hgrafted := run_idle_iff (fun t => t.grafted? ≠ none)
    (fun l hl s => turn_idle_iff_grafted hl s) hl front
  refine ⟨l.turns_append front (s :: rest), ?_⟩
  refine turn_rootedOnce (run_sound hl front) ?_ ?_ s rest
  · simpa [hidle] using hoffered
  · simpa [hidle] using hgrafted

/-- Neither a root that comes too early, nor a scene that is not marked, nor one that is no
candidate is grafted; the next one is, and the one after it is not. -/
example :
    let movie (isRootScene : Bool) : Asset :=
      { name := "movie", payload := .scene ⟨"movie", 1, none, []⟩, isRootScene }
    let info : HostInfo := ⟨"file:///movie.swf", 10, { viewport := ⟨550, 400⟩ }⟩
    ((ofParts 0 (.ticking 0 none) {} .willing).turns
      [.dispatch (movie true) true, .start info (.builtin ||| .playerglobal),
        .dispatch (movie false) true, .dispatch (movie true) false, .dispatch (movie true) true,
        .enterFrame, .dispatch (movie true) true]).map Turn.grafted? =
      [none, none, none, none, some 1, none, none] := rfl

end Life

end ContentPlayer
