import ContentPlayer.Proofs.Session.Shape

namespace ContentPlayer

variable {ω : Type}

namespace GraftState

section Idle

variable (w : ω) {world : World ω} {did : DomainId} {d : Domain ω} {id : StageId} {s : Stage}

/-- An idle graft grafts on the session's stage, and gives the permission to run constructors. -/
theorem graft_eq (hdomain : world.sessionDomain? = some (did, d))
    (hstage : world.sessionStage? = some (id, s)) (template : Template) :
    idle.graft w world template =
      let g := s.graft (fun w => d.construct w) w template world.session.loader
      (g.1, { world.setStage id g.2.1 with
          session := { world.session with constructorsAllowed := true } },
        .grafted g.2.2.1, .ok (.grafted g.2.2.1 g.2.2.2)) := by
  simp only [graft, hstage, hdomain, ne_eq, not_true_eq_false, if_false]

theorem graft_of_no_domain (hdomain : world.sessionDomain? = none) (template : Template) :
    idle.graft w world template = (w, world, idle, .error (.domainNotReady template.name)) := by
  simp [graft, hdomain]

/-- Where the session's stage is there, an idle graft ends grafted. It changes that stage and the
permission to run constructors, and no domain. -/
theorem graft_of_idle (hdomain : world.sessionDomain? = some (did, d))
    (hstage : world.sessionStage? = some (id, s)) (template : Template) :
    ∃ w' world' content report,
      idle.graft w world template = (w', world', .grafted content, .ok (.grafted content report)) ∧
        world.SameShape world' ∧ world'.sessionDomain? = world.sessionDomain? :=
  ⟨_, _, _, _, graft_eq w hdomain hstage template, ⟨rfl, rfl, rfl, List.length_set⟩, rfl⟩

end Idle

/-- The stage of a graft extends the one before it, and bears the content. -/
theorem grows_of_graft {w w' : ω} {world world' : World ω} {id : StageId} {s : Stage}
    {template : Template} {content : NodeId} {r : Except DispatchError GraftResult}
    (hstage : world.sessionStage? = some (id, s)) (hroot : s.root < s.tree.size)
    (hgraft : idle.graft w world template = (w', world', .grafted content, r)) :
    world.Grows world' ∧
      world'.session = { world.session with constructorsAllowed := true } ∧
      ∃ s', world'.stage? id = some s' ∧ s'.Bears content := by
  cases hdomain : world.sessionDomain? with
  | none =>
    rw [graft_of_no_domain w hdomain] at hgraft
    cases hgraft
  | some p =>
    obtain ⟨did, d⟩ := p
    rw [graft_eq w hdomain hstage] at hgraft
    cases hgraft
    obtain ⟨hext, hbears⟩ :=
      s.extends_graft (fun w => d.construct w) w template world.session.loader hroot
    have hs := (World.sessionStage?_eq_some.mp hstage).2
    have hset := World.grows_setStage hs hext
    exact ⟨⟨hset.domains, hset.length_stages, hset.stages⟩, rfl, _, World.stage?_setStage hs _,
      hbears⟩

theorem graft_of_ne_idle (w : ω) (world : World ω) {state : GraftState} (hstate : state ≠ idle)
    (template : Template) : state.graft w world template = (w, world, state, .ok .duplicate) :=
  if_pos hstate

end GraftState

theorem Registries.accept_ne_rootGrafted (r : Registries) (name : String) (payload : Payload)
    (loader : Option LoaderInfo) (content : NodeId) (report : ConstructorReport) :
    (r.accept name payload loader).2 ≠ .rootGrafted content report := by
  cases payload <;> simp [accept]

/-- The domain after it has taken an asset into its registries. -/
def Domain.taking (d : Domain ω) (asset : Asset) (loader : Option LoaderInfo) : Domain ω :=
  { d with registries := (d.registries.accept asset.name asset.payload loader).1 }

theorem Domain.taking_scene (d : Domain ω) {asset : Asset} {template : Template}
    (hscene : asset.payload = .scene template) (loader : Option LoaderInfo) :
    (d.taking asset loader).registries.definitions.get? asset.name =
      some ⟨.scene template, loader⟩ := by
  simp [taking, hscene, Registries.accept, Registries.define, Registry.get?_insert]

namespace GraftState

variable (w : ω) {world : World ω} {id : DomainId} {d : Domain ω} {asset : Asset}
  {candidate : Bool} {template : Template}

theorem dispatch_of_not_ready (hdomain : world.sessionDomain? = none) (state : GraftState)
    (asset : Asset) (candidate : Bool) :
    state.dispatch w world asset candidate =
      (w, world, state, .error (.domainNotReady asset.name)) := by
  simp [dispatch, hdomain]

theorem dispatch_of_no_root (hdomain : world.sessionDomain? = some (id, d))
    (hroot : asset.rootTemplate? candidate = none) (state : GraftState) :
    state.dispatch w world asset candidate =
      (w, world.setDomain id (d.taking asset world.session.loader), state,
        .ok (d.registries.accept asset.name asset.payload world.session.loader).2) := by
  simp [dispatch, hdomain, hroot, Domain.taking]

theorem dispatch_of_duplicate (hdomain : world.sessionDomain? = some (id, d))
    (hroot : asset.rootTemplate? candidate = some template) {state : GraftState}
    (hstate : state ≠ idle) :
    state.dispatch w world asset candidate =
      (w, world.setDomain id (d.taking asset world.session.loader), state,
        .ok (.registered .definitions true)) := by
  simp [dispatch, hdomain, hroot, graft_of_ne_idle _ _ hstate, Domain.taking]

theorem dispatch_of_graft {w' : ω} {world' : World ω} {content : NodeId}
    {report : ConstructorReport} (hdomain : world.sessionDomain? = some (id, d))
    (hroot : asset.rootTemplate? candidate = some template) {state : GraftState}
    (hgraft : state.graft w (world.setDomain id (d.taking asset world.session.loader)) template =
      (w', world', .grafted content, .ok (.grafted content report))) :
    state.dispatch w world asset candidate =
      (w', world', .grafted content, .ok (.rootGrafted content report)) := by
  unfold Domain.taking at hgraft
  simp [dispatch, hdomain, hroot, hgraft]

/-- The first root scene is registered and grafted. -/
theorem dispatch_of_idle {s : StageId × Stage} (hdomain : world.sessionDomain? = some (id, d))
    (hstage : world.sessionStage? = some s)
    (hroot : asset.rootTemplate? candidate = some template) :
    ∃ w' world' content report,
      idle.dispatch w world asset candidate =
        (w', world', .grafted content, .ok (.rootGrafted content report)) ∧
      world.SameShape world' ∧
      world'.sessionDomain? = some (id, d.taking asset world.session.loader) := by
  have hset := World.sessionDomain?_setDomain hdomain (d.taking asset world.session.loader)
  have hstage' : (world.setDomain id (d.taking asset world.session.loader)).sessionStage? =
      some s := hstage
  obtain ⟨w', world', content, report, hgraft, hshape, hsame⟩ :=
    graft_of_idle w hset hstage' template
  exact ⟨w', world', content, report, dispatch_of_graft w hdomain hroot hgraft,
    (world.sameShape_setDomain _ _).trans hshape, hsame.trans hset⟩

end GraftState

end ContentPlayer
