import ContentPlayer.Proofs.Session.Grafting

namespace ContentPlayer

variable {ω : Type}

namespace World

variable {world : World ω}

/-- The registries of the session's domain; empty ones while there is no domain. -/
def registries (world : World ω) : Registries :=
  (world.sessionDomain?.map fun d => d.2.registries).getD {}

theorem registries_of_sessionDomain? {id : DomainId} {d : Domain ω}
    (hdomain : world.sessionDomain? = some (id, d)) : world.registries = d.registries := by
  simp [registries, hdomain]

theorem registries_publish (world : World ω) (d : Domain ω) (info : HostInfo) :
    (world.publish d info).1.registries = d.registries := by
  simp [registries, sessionDomain?, domain?, publish, addDomain, addStage]

/-- The session's domain is the one that it was, and all domains have the registries that they
had. -/
structure SameRegistries (before after : World ω) : Prop where
  domain : after.session.domain = before.session.domain
  domains : after.domains.map Domain.registries = before.domains.map Domain.registries

theorem SameRegistries.registries_eq {before after : World ω} (h : before.SameRegistries after) :
    after.registries = before.registries := by
  have hget (world : World ω) : world.registries =
      (world.session.domain.bind fun id => (world.domains.map Domain.registries)[id]?).getD {} := by
    cases hdomain : world.session.domain with
    | none => simp [registries, sessionDomain?, hdomain]
    | some id =>
      cases hd : world.domains[id]? <;> simp [registries, sessionDomain?, domain?, hdomain, hd]
  rw [hget, hget, h.domain, h.domains]

theorem SameRegistries.refl (world : World ω) : world.SameRegistries world := ⟨rfl, rfl⟩

theorem sameRegistries_setDomain {id : DomainId} {d d' : Domain ω}
    (hd : world.domain? id = some d) (hsame : d'.registries = d.registries) :
    world.SameRegistries (world.setDomain id d') :=
  ⟨rfl, map_setDomain Domain.registries hd hsame⟩

theorem sameRegistries_setStage (world : World ω) (id : StageId) (s : Stage) :
    world.SameRegistries (world.setStage id s) := ⟨rfl, rfl⟩

theorem sameRegistries_enterFrame (world : World ω) :
    world.SameRegistries world.enterFrame.1 := by
  unfold enterFrame
  split
  next => exact .refl world
  next id s _ => exact world.sameRegistries_setStage id s.enterFrame.1

theorem sameRegistries_resize (world : World ω) : world.SameRegistries world.resize.1 := by
  unfold resize
  split
  next => exact .refl world
  next id s _ => exact world.sameRegistries_setStage id s.resize.1

theorem sameRegistries_createSprite (world : World ω) (f : Factory) (name : String) :
    world.SameRegistries (f.createSprite world name).1 := by
  unfold Factory.createSprite
  split
  next => exact .refl world
  next =>
    split
    next => exact .refl world
    next => exact world.sameRegistries_setStage _ _

/-- Resolving a definition brings modules into the domain, but registers nothing. -/
theorem sameRegistries_createInstance (w : ω) (world : World ω) (f : Factory) (name : String) :
    world.SameRegistries (f.createInstance w world name).2.1 := by
  cases hd : world.domain? f.domain with
  | none =>
    rw [Factory.createInstance_of_no_domain w hd]
    exact .refl world
  | some d =>
    have hset := sameRegistries_setDomain hd (d.registries_resolve w name)
    obtain ⟨-, hmade | ⟨id, s, template, -, hmade⟩⟩ := Factory.createInstance_cases w hd name
    · rw [hmade]
      exact hset
    · rw [hmade]
      exact ⟨hset.domain, hset.domains⟩

end World

/-- A dispatch to a domain that is there registers the asset, whatever becomes of it besides. -/
theorem GraftState.sessionDomain?_dispatch (w : ω) {world : World ω} {id : DomainId}
    {d : Domain ω} {s : StageId × Stage} (hdomain : world.sessionDomain? = some (id, d))
    (hstage : world.sessionStage? = some s) (state : GraftState) (asset : Asset)
    (candidate : Bool) :
    (state.dispatch w world asset candidate).2.1.sessionDomain? =
      some (id, d.taking asset world.session.loader) := by
  have hset := World.sessionDomain?_setDomain hdomain (d.taking asset world.session.loader)
  cases hroot : asset.rootTemplate? candidate with
  | none => rw [dispatch_of_no_root w hdomain hroot, hset]
  | some template =>
    by_cases hidle : state = .idle
    · obtain ⟨_, _, _, _, hdispatch, _, hafter⟩ := dispatch_of_idle w hdomain hstage hroot
      rw [hidle, hdispatch, hafter]
    · rw [dispatch_of_duplicate w hdomain hroot hidle, hset]

end ContentPlayer
