import ContentPlayer.Player
import ContentPlayer.Proofs.Session.Growth

namespace ContentPlayer

variable {ω : Type}

namespace World

/-- The session names the same domain and stage, and there are as many of both as before. -/
structure SameShape (before after : World ω) : Prop where
  domain : after.session.domain = before.session.domain
  stage : after.session.stage = before.session.stage
  domains : after.domains.length = before.domains.length
  stages : after.stages.length = before.stages.length

theorem SameShape.refl (world : World ω) : world.SameShape world := ⟨rfl, rfl, rfl, rfl⟩

theorem SameShape.trans {a b c : World ω} (hab : a.SameShape b) (hbc : b.SameShape c) :
    a.SameShape c where
  domain := hbc.domain.trans hab.domain
  stage := hbc.stage.trans hab.stage
  domains := hbc.domains.trans hab.domains
  stages := hbc.stages.trans hab.stages

theorem sameShape_setDomain (world : World ω) (id : DomainId) (d : Domain ω) :
    world.SameShape (world.setDomain id d) :=
  ⟨rfl, rfl, List.length_set, rfl⟩

theorem sameShape_setStage (world : World ω) (id : StageId) (s : Stage) :
    world.SameShape (world.setStage id s) :=
  ⟨rfl, rfl, rfl, List.length_set⟩

theorem Grows.sameShape {before after : World ω} (h : before.Grows after)
    (hdomain : after.session.domain = before.session.domain)
    (hstage : after.session.stage = before.session.stage) : before.SameShape after where
  domain := hdomain
  stage := hstage
  domains := by simpa using congrArg List.length h.domains
  stages := h.length_stages

theorem Keeps.sameShape {before after : World ω} (h : before.Keeps after) :
    before.SameShape after :=
  h.toGrows.sameShape (congrArg Session.domain h.session_eq) (congrArg Session.stage h.session_eq)

theorem sameShape_enterFrame (world : World ω) : world.SameShape world.enterFrame.1 :=
  world.keeps_enterFrame.sameShape

theorem sameShape_resize (world : World ω) : world.SameShape world.resize.1 :=
  world.keeps_resize.sameShape

theorem sameShape_createSprite (world : World ω) (f : Factory) (name : String) :
    world.SameShape (f.createSprite world name).1 :=
  (world.keeps_createSprite f name).sameShape

theorem sameShape_createInstance (w : ω) (world : World ω) (f : Factory) (name : String) :
    world.SameShape (f.createInstance w world name).2.1 :=
  (world.keeps_createInstance w f name).sameShape

/-- The session is published or not: it names a domain and a stage that are there, or neither. -/
def Sound (world : World ω) : Prop :=
  (world.session.domain = none ∧ world.session.stage = none) ∨
    ∃ d s, world.session.domain = some d ∧ d < world.domains.length ∧
      world.session.stage = some s ∧ s < world.stages.length

theorem Sound.of_sameShape {before after : World ω} (hbefore : before.Sound)
    (hshape : before.SameShape after) : after.Sound := by
  rw [Sound, hshape.domain, hshape.stage, hshape.domains, hshape.stages]
  exact hbefore

theorem sound_publish (world : World ω) (d : Domain ω) (info : HostInfo) :
    (world.publish d info).1.Sound := by
  refine .inr ⟨world.domains.length, world.stages.length, rfl, ?_, rfl, ?_⟩
  · simp [publish, addDomain, addStage]
  · simp [publish, addDomain, addStage]

/-- The session of a sound world is ready together with its stage. -/
theorem Sound.ready {world : World ω} (hworld : world.Sound) (hready : world.session.isReady) :
    ∃ d s, world.sessionDomain? = some d ∧ world.sessionStage? = some s := by
  rcases hworld with ⟨hdomain, _⟩ | ⟨d, s, hdomain, hd, hstage, hs⟩
  · simp [Session.isReady, hdomain] at hready
  · refine ⟨(d, world.domains[d]), (s, world.stages[s]), ?_, ?_⟩
    · simp [sessionDomain?, domain?, hdomain, hd]
    · simp [sessionStage?, stage?, hstage, hs]

theorem sessionDomain?_eq_some {world : World ω} {id : DomainId} {d : Domain ω} :
    world.sessionDomain? = some (id, d) ↔
      world.session.domain = some id ∧ world.domains[id]? = some d := by
  simp only [sessionDomain?, domain?, Option.pure_def, Option.bind_eq_bind,
    Option.bind_eq_some_iff, Option.some.injEq, Prod.mk.injEq]
  constructor
  · rintro ⟨_, hid, _, hd, rfl, rfl⟩
    exact ⟨hid, hd⟩
  · rintro ⟨hid, hd⟩
    exact ⟨id, hid, d, hd, rfl, rfl⟩

theorem sessionDomain?_setDomain {world : World ω} {id : DomainId} {d : Domain ω}
    (hworld : world.sessionDomain? = some (id, d)) (d' : Domain ω) :
    (world.setDomain id d').sessionDomain? = some (id, d') := by
  obtain ⟨hid, hd⟩ := sessionDomain?_eq_some.mp hworld
  exact sessionDomain?_eq_some.mpr ⟨hid, domain?_setDomain hd d'⟩

/-- A world goes on: either nothing becomes of its session, or it is published. -/
def Continues (before after : World ω) : Prop :=
  before.SameShape after ∨ (after.Sound ∧ after.session.isReady = true)

theorem Continues.refl (world : World ω) : world.Continues world := .inl (.refl world)

theorem Continues.sound {before after : World ω} (h : before.Continues after)
    (hbefore : before.Sound) : after.Sound := by
  rcases h with hshape | ⟨hafter, _⟩
  · exact hbefore.of_sameShape hshape
  · exact hafter

theorem Continues.isReady {before after : World ω} (h : before.Continues after)
    (hready : before.session.isReady = true) : after.session.isReady = true := by
  rcases h with hshape | ⟨_, hafter⟩
  · rw [Session.isReady, hshape.domain]
    exact hready
  · exact hafter

end World

theorem Bootstrapper.conclude_continues (world : World ω) (info : HostInfo)
    (progress : Progress ω (Domain ω)) : world.Continues (conclude world info progress).1 := by
  match progress with
  | .waiting a => exact .refl world
  | .ended (.error e) => exact .refl world
  | .ended (.ok none) => exact .refl world
  | .ended (.ok (some d)) => exact .inr ⟨world.sound_publish d info, rfl⟩

theorem Bootstrapper.resume_continues (w : ω) (world : World ω) (b : Bootstrapper ω)
    (a : Attempt ω) : world.Continues (b.resume w world a).2.1 :=
  conclude_continues world a.info (a.poll b.host w).2

theorem Bootstrapper.start_continues (w : ω) (world : World ω) (b : Bootstrapper ω)
    (info : HostInfo) (flags : LibraryFlags) :
    world.Continues (b.start w world info flags).2.1 := by
  unfold start
  split
  next => exact .refl world
  next =>
    split
    next => exact .refl world
    next =>
      split
      next => exact .refl world
      next x _ =>
        exact resume_continues w world { b with executor := none }
          ⟨info, flags, b.config, .baseline x .unasked⟩

end ContentPlayer
