import ContentPlayer.Proofs.Bootstrap.Call
import ContentPlayer.Proofs.Player.Life
import ContentPlayer.Proofs.Session.Grafting

namespace ContentPlayer

variable {ω : Type}

/-- What a player has of its domain and of what belongs to it. -/
structure Slots where
  factory : Option Factory := none
  loader : Option LoaderInfo := none
  application : Option ApplicationDomain := none
  context : Option LoaderContext := none
  domain : Option DomainId := none
  stage : Option StageId := none
  deriving DecidableEq, Repr

/-- A domain that was published, with its stage, the number of its application domain, and where the
content came from. -/
structure Publication where
  domain : DomainId
  stage : StageId
  application : Nat
  loader : LoaderInfo

/-- All slots are filled, about the one domain. -/
def Publication.slots (x : Publication) : Slots where
  factory := some ⟨x.domain⟩
  loader := some x.loader
  application := some ⟨x.application, x.domain⟩
  context := some ⟨false, ⟨x.application, x.domain⟩⟩
  domain := some x.domain
  stage := some x.stage

theorem Publication.slots_ne (x : Publication) : x.slots ≠ {} := by
  intro h
  cases congrArg Slots.domain h

/-- A graft that is not going on goes with a stage, and with the permission to run constructors. -/
def GraftState.Fits (state : GraftState) (s : Stage) (allowed : Bool) : Prop :=
  match state with
  | .idle => allowed = false
  | .grafting => False
  | .grafted content => allowed = true ∧ s.Bears content

theorem GraftState.Fits.extends {state : GraftState} {s s' : Stage} {allowed : Bool}
    (h : state.Fits s allowed) (hext : s.Extends s') : state.Fits s' allowed := by
  cases state with
  | idle => exact h
  | grafting => exact h
  | grafted content => exact ⟨h.1, hext.bears h.2⟩

theorem GraftState.Fits.allowed_iff {state : GraftState} {s : Stage} {allowed : Bool}
    (h : state.Fits s allowed) : allowed = true ↔ state.content? ≠ none := by
  cases state with
  | idle => simp [content?, show allowed = false from h]
  | grafting => exact h.elim
  | grafted content => simp [content?, h.1]

theorem GraftState.Fits.bears {state : GraftState} {s : Stage} {allowed : Bool}
    (h : state.Fits s allowed) {content : NodeId} (hcontent : state.content? = some content) :
    s.Bears content := by
  cases state with
  | grafted content' =>
    cases hcontent
    exact h.2
  | _ => cases hcontent

namespace Player

variable {p : Player ω} {x : Publication}

def slots (p : Player ω) : Slots where
  factory := p.factory
  loader := p.world.session.loader
  application := p.world.session.application
  context := p.world.session.context
  domain := p.world.session.domain
  stage := p.world.session.stage

structure Unpublished (p : Player ω) : Prop where
  session_eq : p.world.session = {}
  factory_eq : p.factory = none
  graft_eq : p.graft = .idle

/-- The domain is published, and no other can be. -/
structure Published (p : Player ω) (x : Publication) : Prop where
  executor_eq : p.bootstrapper.executor = none
  slots_eq : p.slots = x.slots
  domain : ∃ d, p.world.domain? x.domain = some d ∧ d.stage = some x.stage
  stage : ∃ s, p.world.stage? x.stage = some s ∧ s.root < s.tree.size ∧
    p.graft.Fits s p.world.session.constructorsAllowed

/-- The slots are all empty, or are all filled and about one domain and its stage; and all that can
be seen of the player agrees with that. -/
structure Consistent (p : Player ω) : Prop where
  slots : p.slots = {} ∨ ∃ x : Publication, p.slots = x.slots ∧
    (∃ d, p.world.domain? x.domain = some d ∧ d.stage = some x.stage) ∧
    ∃ s, p.world.stage? x.stage = some s
  constructors : p.world.session.constructorsAllowed = true ↔ p.content ≠ none
  content : ∀ e, p.content = some e → ∃ id s, p.world.sessionStage? = some (id, s) ∧
    s.tree.contains e = true ∧ s.tree.parent e = some s.root
  dispatch : ∀ w asset candidate,
    (∃ e, (p.dispatch w asset candidate).2.2 = .error e) ↔ p.slots = {}
  refusal : ∀ w asset candidate e, (p.dispatch w asset candidate).2.2 = .error e →
    p.dispatch w asset candidate = (w, p, .error (.domainNotReady asset.name))
  tick : p.enterFrame.2 = none ↔ p.slots = {}

section Unpublished

variable (hp : p.Unpublished)

include hp

theorem Unpublished.slots_eq : p.slots = {} := by
  rw [slots, hp.factory_eq, hp.session_eq]

theorem Unpublished.sessionDomain?_eq : p.world.sessionDomain? = none := by
  rw [World.sessionDomain?, hp.session_eq]
  rfl

theorem Unpublished.sessionStage?_eq : p.world.sessionStage? = none := by
  rw [World.sessionStage?, hp.session_eq]
  rfl

theorem Unpublished.dispatch_eq (w : ω) (asset : Asset) (candidate : Bool) :
    p.dispatch w asset candidate = (w, p, .error (.domainNotReady asset.name)) := by
  rw [Player.dispatch, GraftState.dispatch_of_not_ready w hp.sessionDomain?_eq]

theorem Unpublished.enterFrame_eq : p.enterFrame = (p, none) := by
  rw [Player.enterFrame, World.enterFrame, hp.sessionStage?_eq]

theorem Unpublished.resize_eq : p.resize = (p, false) := by
  rw [Player.resize, World.resize, hp.sessionStage?_eq]

theorem Unpublished.consistent : p.Consistent where
  slots := .inl hp.slots_eq
  constructors := by simp [hp.session_eq, Player.content, hp.graft_eq, GraftState.content?]
  content := by simp [Player.content, hp.graft_eq, GraftState.content?]
  dispatch := by simp [hp.dispatch_eq, hp.slots_eq]
  refusal := fun w asset candidate _ _ => hp.dispatch_eq w asset candidate
  tick := by simp [hp.enterFrame_eq, hp.slots_eq]

end Unpublished

section Published

variable (hp : p.Published x)

include hp

theorem Published.of_grows {world : World ω} (state : GraftState) (hworld : p.world.Grows world)
    (hslots : ({ p with world, graft := state } : Player ω).slots = p.slots)
    (hfits : ∀ s s', p.graft.Fits s p.world.session.constructorsAllowed → s.Extends s' →
      world.stage? x.stage = some s' → state.Fits s' world.session.constructorsAllowed) :
    ({ p with world, graft := state } : Player ω).Published x := by
  obtain ⟨d, hd, hdomain⟩ := hp.domain
  obtain ⟨d', hd', hsame⟩ := hworld.domain hd
  obtain ⟨s, hs, hroot, hold⟩ := hp.stage
  obtain ⟨s', hs', hext⟩ := hworld.stages _ s hs
  have hroot' : s'.root < s'.tree.size := by
    rw [hext.root_eq]
    exact Nat.lt_of_lt_of_le hroot hext.tree.size_le
  exact ⟨hp.executor_eq, hslots.trans hp.slots_eq, ⟨d', hd', hsame.trans hdomain⟩,
    ⟨s', hs', hroot', hfits s s' hold hext hs'⟩⟩

theorem Published.keeps {world : World ω} (hworld : p.world.Keeps world) :
    ({ p with world } : Player ω).Published x := by
  refine hp.of_grows p.graft hworld.toGrows ?_ ?_
  · simp only [slots, hworld.session_eq]
  · intro s s' hfits hext _
    rw [hworld.session_eq]
    exact hfits.extends hext

theorem Published.sessionDomain? : ∃ d, p.world.sessionDomain? = some (x.domain, d) := by
  obtain ⟨d, hd, _⟩ := hp.domain
  exact ⟨d, World.sessionDomain?_eq_some.mpr ⟨congrArg Slots.domain hp.slots_eq, hd⟩⟩

theorem Published.sessionStage? : ∃ s, p.world.sessionStage? = some (x.stage, s) ∧
    s.root < s.tree.size ∧ p.graft.Fits s p.world.session.constructorsAllowed := by
  obtain ⟨s, hs, hstage⟩ := hp.stage
  exact ⟨s, World.sessionStage?_eq_some.mpr ⟨congrArg Slots.stage hp.slots_eq, hs⟩, hstage⟩

theorem Published.grafts {w w' : ω} {world : World ω} {template : Template} {content : NodeId}
    {r : Except DispatchError GraftResult}
    (hgraft : GraftState.graft w p.world .idle template = (w', world, .grafted content, r)) :
    ({ p with world, graft := .grafted content } : Player ω).Published x := by
  obtain ⟨s, hstage, hroot, _⟩ := hp.sessionStage?
  obtain ⟨hgrows, hsession, t, ht, hbears⟩ := GraftState.grows_of_graft hstage hroot hgraft
  refine hp.of_grows (.grafted content) hgrows ?_ ?_
  · simp only [slots, hsession]
  · intro _ s' _ _ hs'
    obtain rfl : t = s' := Option.some.inj (ht.symm.trans hs')
    rw [hsession]
    exact ⟨rfl, hbears⟩

/-- A dispatch to a published domain succeeds. -/
theorem Published.dispatch (w : ω) (asset : Asset) (candidate : Bool) :
    ∃ w' p' outcome, p.dispatch w asset candidate = (w', p', .ok outcome) ∧ p'.Published x := by
  obtain ⟨d, hdomain⟩ := hp.sessionDomain?
  have hsame : (d.taking asset p.world.session.loader).stage = d.stage := rfl
  have htaken := hp.keeps
    (World.keeps_setDomain (World.sessionDomain?_eq_some.mp hdomain).2 hsame)
  cases htemplate : asset.rootTemplate? candidate with
  | none =>
    rw [Player.dispatch, GraftState.dispatch_of_no_root w hdomain htemplate]
    exact ⟨_, _, _, rfl, htaken⟩
  | some template =>
    by_cases hidle : p.graft = .idle
    · obtain ⟨s, hstage, _⟩ := htaken.sessionStage?
      have hset := World.sessionDomain?_setDomain hdomain
        (d.taking asset p.world.session.loader)
      obtain ⟨w', world, content, report, hgraft, _⟩ :=
        GraftState.graft_of_idle w hset hstage template
      rw [Player.dispatch, hidle, GraftState.dispatch_of_graft w hdomain htemplate hgraft]
      exact ⟨_, _, _, rfl, htaken.grafts hgraft⟩
    · rw [Player.dispatch, GraftState.dispatch_of_duplicate w hdomain htemplate hidle]
      exact ⟨_, _, _, rfl, htaken⟩

theorem Published.consistent : p.Consistent where
  slots := by
    obtain ⟨s, hs, _⟩ := hp.stage
    exact .inr ⟨x, hp.slots_eq, hp.domain, s, hs⟩
  constructors := by
    obtain ⟨s, _, _, hfits⟩ := hp.stage
    exact hfits.allowed_iff
  content := by
    intro e he
    obtain ⟨s, hstage, _, hfits⟩ := hp.sessionStage?
    have hparent := hfits.bears he
    exact ⟨_, s, hstage, DisplayTree.contains_iff.mpr (DisplayTree.lt_size_of_parent hparent),
      hparent⟩
  dispatch := by
    intro w asset candidate
    obtain ⟨w', p', outcome, heq, _⟩ := hp.dispatch w asset candidate
    simp [heq, hp.slots_eq, x.slots_ne]
  refusal := by
    intro w asset candidate e he
    obtain ⟨w', p', outcome, heq, _⟩ := hp.dispatch w asset candidate
    rw [heq] at he
    cases he
  tick := by
    obtain ⟨s, hstage, _⟩ := hp.sessionStage?
    simp [Player.enterFrame, World.enterFrame, hstage, hp.slots_eq, x.slots_ne]

end Published

/-- The player with a domain that it has published. -/
def publishing (p : Player ω) (d : Domain ω) (info : HostInfo) : Player ω :=
  { p with
    world := (p.world.publish d info).1
    factory := some (p.world.publish d info).2 }

theorem Unpublished.publishing (hp : p.Unpublished) (hexecutor : p.bootstrapper.executor = none)
    (d : Domain ω) (info : HostInfo) : ∃ x, (p.publishing d info).Published x := by
  refine ⟨⟨p.world.domains.length, p.world.stages.length, p.world.nextApplication,
    ⟨info.url, info.version⟩⟩, hexecutor, rfl, ?_, .attach info.surface, ?_, Nat.zero_lt_one, ?_⟩
  · refine ⟨{ d with stage := some p.world.stages.length }, ?_, rfl⟩
    simp [Player.publishing, World.publish, World.addDomain, World.addStage, World.domain?]
  · simp [Player.publishing, World.publish, World.addDomain, World.addStage, World.stage?]
  · simp only [Player.publishing, World.publish, World.addDomain, World.addStage, hp.graft_eq]
    exact congrArg Session.constructorsAllowed hp.session_eq

/-- A bootstrap that goes on leaves the player alone, or publishes the domain that it has made and
is over. -/
theorem resume_cases (w : ω) (hp : p.Unpublished) (a : Attempt ω) :
    (p.resume w a).2.1 = p ∨ ∃ d f, (a.poll p.bootstrapper.host w).2 = .ended (.ok (some d)) ∧
      (p.resume w a).2 = (p.publishing d a.info, .ended (.ok (some f))) := by
  unfold resume Bootstrapper.resume
  generalize a.poll p.bootstrapper.host w = polled
  obtain ⟨w', progress⟩ := polled
  match progress with
  | .waiting a' => exact .inl rfl
  | .ended (.error e) => exact .inl rfl
  | .ended (.ok none) =>
    -- it ends without a factory, and there was none
    have hkept : ({ p with factory := none } : Player ω) = p := by
      rw [← hp.factory_eq]
    exact .inl hkept
  | .ended (.ok (some d)) => exact .inr ⟨d, _, rfl, rfl⟩

/-- The attempt with which a player begins. -/
def firstAttempt (p : Player ω) (info : HostInfo) (flags : LibraryFlags) (x : Executor ω) :
    Attempt ω :=
  ⟨info, flags, p.bootstrapper.config, .baseline x .unasked⟩

/-- The player after its executor has been taken. -/
def taken (p : Player ω) : Player ω :=
  { p with bootstrapper := { p.bootstrapper with executor := none } }

/-- A bootstrap is refused, or the executor is taken and it goes on from there. -/
theorem start_cases (w : ω) (p : Player ω) (info : HostInfo) (flags : LibraryFlags) :
    (∃ e, p.start w info flags = (w, p, .ended (.error e))) ∨
      ∃ x, p.bootstrapper.executor = some x ∧
        p.start w info flags = p.taken.resume w (p.firstAttempt info flags x) := by
  by_cases hflags : (!flags.contains .builtin) = true
  · simp only [start, Bootstrapper.start, if_pos hflags]
    exact .inl ⟨_, rfl⟩
  by_cases hready : p.world.session.isReady = true
  · simp only [start, Bootstrapper.start, if_neg hflags, if_pos hready]
    exact .inl ⟨_, rfl⟩
  cases hexecutor : p.bootstrapper.executor with
  | none =>
    simp only [start, Bootstrapper.start, if_neg hflags, if_neg hready, hexecutor]
    exact .inl ⟨_, rfl⟩
  | some x =>
    simp only [start, Bootstrapper.start, if_neg hflags, if_neg hready, hexecutor]
    exact .inr ⟨x, rfl, rfl⟩

end Player

namespace Life

variable {l : Life ω} {x : Publication}

structure Unpublished (l : Life ω) : Prop where
  player : l.player.Unpublished
  /-- A bootstrap that waits has taken the executor. -/
  executor_eq : l.attempt ≠ none → l.player.bootstrapper.executor = none

structure Published (l : Life ω) (x : Publication) : Prop where
  player : l.player.Published x
  attempt_eq : l.attempt = none

theorem act_start_of_error {info : HostInfo} {flags : LibraryFlags} {e : BootstrapError}
    (hstart : l.player.start l.outside info flags = (l.outside, l.player, .ended (.error e))) :
    (l.act (.start info flags)).1 = l := by
  simp [act, hstart, Progress.attempt?]

section Unpublished

variable (hl : l.Unpublished)

include hl

/-- Where the bootstrap of an unpublished player goes on with an attempt. -/
theorem Unpublished.resume (hexecutor : l.player.bootstrapper.executor = none) (a : Attempt ω) :
    let r := l.player.resume l.outside a
    (Unpublished ⟨r.1, r.2.1, r.2.2.attempt?⟩ ∧ r.2.1 = l.player) ∨
      ∃ d f x, (a.poll l.player.bootstrapper.host l.outside).2 = .ended (.ok (some d)) ∧
        r.2 = (l.player.publishing d a.info, .ended (.ok (some f))) ∧
        Published ⟨r.1, r.2.1, r.2.2.attempt?⟩ x := by
  intro r
  rcases Player.resume_cases l.outside hl.player a with hsame | ⟨d, f, hpoll, hpublished⟩
  · refine .inl ⟨⟨?_, fun _ => ?_⟩, hsame⟩
    · simpa only [r, hsame] using hl.player
    · simpa only [r, hsame] using hexecutor
  · obtain ⟨x, hx⟩ := hl.player.publishing hexecutor d a.info
    refine .inr ⟨d, f, x, hpoll, hpublished, ?_, ?_⟩
    · simpa only [r, hpublished] using hx
    · simp only [r, hpublished, Progress.attempt?]

/-- Only a bootstrap does something to an unpublished player. -/
theorem Unpublished.act_cases (s : Step ω) :
    (∃ info flags, s = .start info flags) ∨ s = .resume ∨
      ((∀ info flags, s ≠ .start info flags) ∧ (l.act s).1.player = l.player ∧
        ((l.act s).1.attempt = l.attempt ∨ (l.act s).1.attempt = none)) := by
  cases s with
  | start info flags => exact .inl ⟨info, flags, rfl⟩
  | resume => exact .inr (.inl rfl)
  | abandon => exact .inr (.inr ⟨nofun, rfl, .inr rfl⟩)
  | dispatch asset candidate => exact .inr (.inr (by simp [Life.act, hl.player.dispatch_eq]))
  | enterFrame => exact .inr (.inr (by simp [Life.act, hl.player.enterFrame_eq]))
  | resize => exact .inr (.inr (by simp [Life.act, hl.player.resize_eq]))
  | createInstance name => exact .inr (.inr (by simp [Life.act, hl.player.factory_eq]))
  | createSprite name => exact .inr (.inr (by simp [Life.act, hl.player.factory_eq]))
  | viewport v => exact .inr (.inr (by simp [Life.act, hl.player.sessionStage?_eq]))
  | elapse f => exact .inr (.inr ⟨nofun, rfl, .inl rfl⟩)

/-- A bootstrap that begins takes the executor, and none has been waiting. -/
theorem Unpublished.taken {x : Executor ω} (hexecutor : l.player.bootstrapper.executor = some x) :
    l.attempt = none ∧ Unpublished { l with player := l.player.taken } := by
  refine ⟨?_, ⟨hl.player.session_eq, hl.player.factory_eq, hl.player.graft_eq⟩, fun _ => rfl⟩
  by_contra hwaiting
  have hnone := hl.executor_eq hwaiting
  rw [hexecutor] at hnone
  cases hnone

theorem Unpublished.act (s : Step ω) :
    (l.act s).1.Unpublished ∨ ∃ x, (l.act s).1.Published x := by
  rcases hl.act_cases s with ⟨info, flags, rfl⟩ | rfl | ⟨_, hplayer, hattempt⟩
  · rcases Player.start_cases l.outside l.player info flags with ⟨e, hstart⟩ | ⟨x, hthere, hstart⟩
    · rw [act_start_of_error hstart]
      exact .inl hl
    · obtain ⟨hattempt, htaken⟩ := hl.taken hthere
      simp only [Life.act, hstart, hattempt, Option.or_none]
      rcases htaken.resume rfl (l.player.firstAttempt info flags x) with ⟨hafter, _⟩ | hpublished
      · exact .inl hafter
      · obtain ⟨_, _, x, _, _, hafter⟩ := hpublished
        exact .inr ⟨x, hafter⟩
  · cases hattempt : l.attempt with
    | none =>
      simp only [Life.act, hattempt]
      exact .inl hl
    | some a =>
      simp only [Life.act, hattempt]
      rcases hl.resume (hl.executor_eq (by simp [hattempt])) a with ⟨hafter, _⟩ | hpublished
      · exact .inl hafter
      · obtain ⟨_, _, x, _, _, hafter⟩ := hpublished
        exact .inr ⟨x, hafter⟩
  · refine .inl ⟨by rw [hplayer]; exact hl.player, ?_⟩
    rw [hplayer]
    rcases hattempt with hsame | hnone
    · rw [hsame]
      exact hl.executor_eq
    · intro hsome
      exact absurd hnone hsome

end Unpublished

section Published

variable (hl : l.Published x)

include hl

theorem Published.keeps (w : ω) {world : World ω} (hworld : l.player.world.Keeps world) :
    Published ⟨w, { l.player with world }, l.attempt⟩ x :=
  ⟨hl.player.keeps hworld, hl.attempt_eq⟩

theorem Published.act (s : Step ω) : (l.act s).1.Published x := by
  cases s with
  | start info flags =>
    rcases Player.start_cases l.outside l.player info flags with ⟨e, hstart⟩ | ⟨_, hthere, _⟩
    · rw [act_start_of_error hstart]
      exact hl
    · -- the bootstrap that published the domain has taken the executor
      rw [hl.player.executor_eq] at hthere
      cases hthere
  | resume =>
    simp only [Life.act, hl.attempt_eq]
    exact hl
  | abandon => exact ⟨hl.player, rfl⟩
  | dispatch asset candidate =>
    obtain ⟨w, p, outcome, hdispatch, hp⟩ := hl.player.dispatch l.outside asset candidate
    simp only [Life.act, hdispatch]
    exact ⟨hp, hl.attempt_eq⟩
  | enterFrame => exact hl.keeps _ l.player.world.keeps_enterFrame
  | resize => exact hl.keeps _ l.player.world.keeps_resize
  | createInstance name =>
    rw [Life.act]
    split
    next => exact hl
    next f _ => exact hl.keeps _ (World.keeps_createInstance l.outside l.player.world f name)
  | createSprite name =>
    rw [Life.act]
    split
    next => exact hl
    next f _ => exact hl.keeps _ (World.keeps_createSprite l.player.world f name)
  | viewport v =>
    rw [Life.act]
    split
    next => exact hl
    next id s hs =>
      have hstage := (World.sessionStage?_eq_some.mp hs).2
      exact hl.keeps _ (World.keeps_setStage hstage ⟨rfl, .refl s.tree⟩)
  | elapse f => exact ⟨hl.player, hl.attempt_eq⟩

theorem Published.run (steps : List (Step ω)) : (l.run steps).Published x := by
  induction steps generalizing l with
  | nil => exact hl
  | cons s rest ih => exact ih (hl.act s)

end Published

theorem Unpublished.run (hl : l.Unpublished) (steps : List (Step ω)) :
    (l.run steps).Unpublished ∨ ∃ x, (l.run steps).Published x := by
  induction steps generalizing l with
  | nil => exact .inl hl
  | cons s rest ih =>
    rcases hl.act s with hafter | ⟨x, hafter⟩
    · exact ih hafter
    · exact .inr ⟨x, hafter.run rest⟩

/-- A player's slots are consistent all its life, and once they are filled they stay as they are. -/
theorem slots_consistent (w : ω) (host : Host ω) (config : BootstrapConfig) (executor : Executor ω)
    (front : List (Step ω)) :
    let l := (ofParts w host config executor).run front
    l.player.Consistent ∧
      (l.player.slots ≠ {} → ∀ rest, (l.run rest).player.slots = l.player.slots) := by
  intro l
  have hfirst : (ofParts w host config executor).Unpublished :=
    ⟨⟨rfl, rfl, rfl⟩, fun h => (h rfl).elim⟩
  rcases hfirst.run front with hl | ⟨x, hl⟩
  · refine ⟨hl.player.consistent, ?_⟩
    intro hfilled
    exact (hfilled hl.player.slots_eq).elim
  · refine ⟨hl.player.consistent, ?_⟩
    intro _ rest
    rw [(hl.run rest).player.slots_eq, hl.player.slots_eq]

/-- The slots are empty while the bootstrap waits, and are filled when it is over. -/
example :
    let info : HostInfo := ⟨"file:///movie.swf", 10, { viewport := ⟨550, 400⟩ }⟩
    let l := (ofParts 0 (.ticking 1 none) {} .willing).run
      [.start info (.builtin ||| .playerglobal), .elapse (· + 1), .resume, .elapse (· + 1), .resume,
        .elapse (· + 1)]
    l.player.slots = {} ∧
      (l.act .resume).1.player.slots = Publication.slots ⟨0, 0, 1, ⟨"file:///movie.swf", 10⟩⟩ :=
  ⟨rfl, rfl⟩

end Life

end ContentPlayer
