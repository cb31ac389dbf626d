import ContentPlayer.Proofs.Display.Growth
import ContentPlayer.Proofs.Domain.Step
import ContentPlayer.Session.Factory

namespace ContentPlayer

variable {ω : Type}

namespace Domain

/-- Resolving a definition leaves the registries as they were, and the domain on its stage. -/
theorem Setting.Resolves.keeps {s s' : Setting ω} {name : String} {calls : List Executor.Call}
    {r : Except ModuleError Resolution} (h : s.Resolves name calls s' r) :
    s'.domain.registries = s.domain.registries ∧ s'.domain.stage = s.domain.stage := by
  cases h with
  | failed _ _ _ hload => exact ⟨hload.loadedFrom.registries_eq, hload.loadedFrom.stage_eq⟩
  | executed _ _ _ hload => exact ⟨hload.loadedFrom.registries_eq, hload.loadedFrom.stage_eq⟩
  | _ => exact ⟨rfl, rfl⟩

theorem registries_resolve (w : ω) (d : Domain ω) (name : String) :
    (d.resolve w name).2.1.registries = d.registries :=
  (Setting.resolves ⟨w, d⟩ name).keeps.1

theorem stage_resolve (w : ω) (d : Domain ω) (name : String) :
    (d.resolve w name).2.1.stage = d.stage :=
  (Setting.resolves ⟨w, d⟩ name).keeps.2

end Domain

theorem Factory.stage?_of_stageOf {world : World ω} {d : Domain ω} {id : StageId} {s : Stage}
    (h : stageOf world d = .ok (id, s)) : world.stage? id = some s := by
  unfold stageOf at h
  split at h
  · cases h
  next heq =>
    cases h
    obtain ⟨sid, _, hmap⟩ := Option.bind_eq_some_iff.mp heq
    obtain ⟨t, ht, hpair⟩ := Option.map_eq_some_iff.mp hmap
    cases hpair
    exact ht

namespace Factory

variable (w : ω) {world : World ω} {f : Factory}

theorem createInstance_of_no_domain (hd : world.domain? f.domain = none) (name : String) :
    f.createInstance w world name = (w, world, .error (.unknownDefinition name)) := by
  rw [createInstance, hd]

/-- To make a display object is to resolve its definition first. Then the object is made on a stage,
or nothing more is done. -/
theorem createInstance_cases {d : Domain ω} (hd : world.domain? f.domain = some d)
    (name : String) :
    let resolved := world.setDomain f.domain (d.resolve w name).2.1
    (f.createInstance w world name).1 = (d.resolve w name).1 ∧
      ((f.createInstance w world name).2.1 = resolved ∨
        ∃ id s template, world.stage? id = some s ∧ (f.createInstance w world name).2.1 =
          resolved.setStage id { s with tree := (s.tree.instantiate template).1 }) := by
  rw [createInstance, hd]
  dsimp only
  cases d.resolve w name with
  | mk w' rest =>
    obtain ⟨d', r⟩ := rest
    cases r with
    | error e => exact ⟨rfl, .inl rfl⟩
    | ok a =>
      dsimp only
      cases templateOf d' name with
      | error e => exact ⟨rfl, .inl rfl⟩
      | ok template =>
        dsimp only
        cases hstage : stageOf (world.setDomain f.domain d') d' with
        | error e => exact ⟨rfl, .inl rfl⟩
        | ok p => exact ⟨rfl, .inr ⟨p.1, p.2, template, stage?_of_stageOf hstage, rfl⟩⟩

end Factory

namespace World

theorem sessionStage?_eq_some {world : World ω} {id : StageId} {s : Stage} :
    world.sessionStage? = some (id, s) ↔
      world.session.stage = some id ∧ world.stage? id = some s := by
  simp only [sessionStage?, Option.pure_def, Option.bind_eq_bind, Option.bind_eq_some_iff,
    Option.some.injEq, Prod.mk.injEq]
  constructor
  · rintro ⟨_, hid, _, hs, rfl, rfl⟩
    exact ⟨hid, hs⟩
  · rintro ⟨hid, hs⟩
    exact ⟨id, hid, s, hs, rfl, rfl⟩

/-- The same domains and stages, later. A domain draws on the stage on which it drew, and what is in
a stage's tree stays where it is. -/
structure Grows (before after : World ω) : Prop where
  domains : after.domains.map Domain.stage = before.domains.map Domain.stage
  length_stages : after.stages.length = before.stages.length
  stages : ∀ id s, before.stage? id = some s → ∃ s', after.stage? id = some s' ∧ s.Extends s'

theorem Grows.refl (world : World ω) : world.Grows world :=
  ⟨rfl, rfl, fun _ s hs => ⟨s, hs, .refl s⟩⟩

theorem Grows.trans {a b c : World ω} (hab : a.Grows b) (hbc : b.Grows c) : a.Grows c where
  domains := hbc.domains.trans hab.domains
  length_stages := hbc.length_stages.trans hab.length_stages
  stages := by
    intro id s hs
    obtain ⟨s', hs', hext⟩ := hab.stages id s hs
    obtain ⟨s'', hs'', hext'⟩ := hbc.stages id s' hs'
    exact ⟨s'', hs'', hext.trans hext'⟩

theorem Grows.domain {before after : World ω} (h : before.Grows after) {id : DomainId}
    {d : Domain ω} (hd : before.domain? id = some d) :
    ∃ d', after.domain? id = some d' ∧ d'.stage = d.stage := by
  have hmap : (after.domain? id).map Domain.stage = (before.domain? id).map Domain.stage := by
    simp only [domain?, ← List.getElem?_map, h.domains]
  rw [hd, Option.map_some] at hmap
  exact Option.map_eq_some_iff.mp hmap

section Set

variable {world : World ω}

/-- What a domain and the one that takes its place agree about is read of the world as before. -/
theorem map_setDomain {β : Type} (f : Domain ω → β) {id : DomainId} {d d' : Domain ω}
    (hd : world.domain? id = some d) (hsame : f d' = f d) :
    (world.setDomain id d').domains.map f = world.domains.map f := by
  obtain ⟨hid, rfl⟩ := List.getElem?_eq_some_iff.mp hd
  have hlt : id < (world.domains.map f).length := by simpa using hid
  have hget : (world.domains.map f)[id] = f world.domains[id] := List.getElem_map _
  rw [setDomain, List.map_set, hsame, ← hget, List.set_getElem_self]

theorem domain?_setDomain {id : DomainId} {d : Domain ω} (hd : world.domain? id = some d)
    (d' : Domain ω) : (world.setDomain id d').domain? id = some d' := by
  obtain ⟨hlt, -⟩ := List.getElem?_eq_some_iff.mp hd
  simp [domain?, setDomain, hlt]

theorem grows_setDomain {id : DomainId} {d d' : Domain ω} (hd : world.domain? id = some d)
    (hstage : d'.stage = d.stage) : world.Grows (world.setDomain id d') where
  domains := map_setDomain Domain.stage hd hstage
  length_stages := rfl
  stages := fun _ s hs => ⟨s, hs, .refl s⟩

theorem stage?_setStage {id : StageId} {s : Stage} (hs : world.stage? id = some s) (s' : Stage) :
    (world.setStage id s').stage? id = some s' := by
  obtain ⟨hlt, _⟩ := List.getElem?_eq_some_iff.mp hs
  simp [stage?, setStage, hlt]

theorem sessionStage?_setStage {id : StageId} {s : Stage}
    (hstage : world.sessionStage? = some (id, s)) (s' : Stage) :
    (world.setStage id s').sessionStage? = some (id, s') := by
  obtain ⟨hid, hs⟩ := sessionStage?_eq_some.mp hstage
  exact sessionStage?_eq_some.mpr ⟨hid, stage?_setStage hs s'⟩

theorem grows_setStage {id : StageId} {s s' : Stage} (hs : world.stage? id = some s)
    (hext : s.Extends s') : world.Grows (world.setStage id s') where
  domains := rfl
  length_stages := List.length_set
  stages := by
    intro k t ht
    by_cases hk : k = id
    · subst hk
      obtain rfl : s = t := Option.some.inj (hs.symm.trans ht)
      exact ⟨s', stage?_setStage hs s', hext⟩
    · exact ⟨t, by simpa [setStage, stage?, List.getElem?_set_ne (Ne.symm hk)] using ht, .refl t⟩

end Set

/-- A world that has grown, with the session it had. -/
structure Keeps (before after : World ω) : Prop extends before.Grows after where
  session_eq : after.session = before.session

theorem Keeps.refl (world : World ω) : world.Keeps world := ⟨.refl world, rfl⟩

theorem Keeps.trans {a b c : World ω} (hab : a.Keeps b) (hbc : b.Keeps c) : a.Keeps c :=
  ⟨hab.toGrows.trans hbc.toGrows, hbc.session_eq.trans hab.session_eq⟩

variable {world : World ω}

theorem keeps_setDomain {id : DomainId} {d d' : Domain ω} (hd : world.domain? id = some d)
    (hstage : d'.stage = d.stage) : world.Keeps (world.setDomain id d') :=
  ⟨grows_setDomain hd hstage, rfl⟩

theorem keeps_setStage {id : StageId} {s s' : Stage} (hs : world.stage? id = some s)
    (hext : s.Extends s') : world.Keeps (world.setStage id s') :=
  ⟨grows_setStage hs hext, rfl⟩

theorem keeps_enterFrame (world : World ω) : world.Keeps world.enterFrame.1 := by
  unfold enterFrame
  split
  next => exact .refl world
  next id s hs => exact keeps_setStage (sessionStage?_eq_some.mp hs).2 s.extends_enterFrame

theorem keeps_resize (world : World ω) : world.Keeps world.resize.1 := by
  unfold resize
  split
  next => exact .refl world
  next id s hs => exact keeps_setStage (sessionStage?_eq_some.mp hs).2 s.extends_resize

theorem keeps_createSprite (world : World ω) (f : Factory) (name : String) :
    world.Keeps (f.createSprite world name).1 := by
  unfold Factory.createSprite
  split
  next => exact .refl world
  next d _ =>
    split
    next => exact .refl world
    next id s hs =>
      exact keeps_setStage (Factory.stage?_of_stageOf hs) ⟨rfl, s.tree.extends_spawn name 1⟩

theorem keeps_createInstance (w : ω) (world : World ω) (f : Factory) (name : String) :
    world.Keeps (f.createInstance w world name).2.1 := by
  cases hd : world.domain? f.domain with
  | none =>
    rw [Factory.createInstance_of_no_domain w hd]
    exact .refl world
  | some d =>
    -- resolving may execute modules, but the domain stays on its stage
    have hset := keeps_setDomain hd (d.stage_resolve w name)
    obtain ⟨-, hmade | ⟨id, s, template, hs, hmade⟩⟩ := Factory.createInstance_cases w hd name
    · rw [hmade]
      exact hset
    · rw [hmade]
      exact hset.trans (keeps_setStage hs ⟨rfl, (s.tree.extends_instantiate template).1⟩)

end World

end ContentPlayer
