import ContentPlayer.Domain.Recording
import ContentPlayer.Proofs.Session.Grafting

namespace ContentPlayer

theorem Registry.replace_eq_self_iff {α : Type} (name : String) (entry : Registered α)
    (entries : List (String × Registered α)) :
    replace name entry entries = entries ↔ entries.lookup name = some entry := by
  induction entries with
  | nil => simp [replace]
  | cons first rest ih =>
    obtain ⟨k, e⟩ := first
    by_cases hk : k = name
    · subst hk
      simp [replace, eq_comm]
    · have hne : (name == k) = false := beq_eq_false_iff_ne.mpr (Ne.symm hk)
      simp [replace, hk, List.lookup_cons, hne, ih]

/-- Registering changes nothing exactly when the name had that very entry. -/
theorem Registry.insert_eq_self_iff {α : Type} (r : Registry α) (name : String) (value : α)
    (loader : Option LoaderInfo) :
    (r.insert name value loader).1 = r ↔ r.get? name = some ⟨value, loader⟩ := by
  obtain ⟨entries⟩ := r
  rw [insert, Registry.mk.injEq, replace_eq_self_iff, get?]

variable {ω : Type}

theorem Domain.taking_eq_self_iff {d : Domain ω} {asset : Asset} {template : Template}
    (hscene : asset.payload = .scene template) (loader : Option LoaderInfo) :
    d.taking asset loader = d ↔
      d.registries.definitions.get? asset.name = some ⟨.scene template, loader⟩ := by
  rw [← Registry.insert_eq_self_iff]
  obtain ⟨executor, version, modules, executed, ⟨definitions, audio, fonts⟩, catalog, stage⟩ := d
  simp [taking, hscene, Registries.accept, Registries.define]

theorem World.setDomain_eq_self_iff {world : World ω} {id : DomainId} {d : Domain ω}
    (hd : world.domain? id = some d) (d' : Domain ω) : world.setDomain id d' = world ↔ d' = d := by
  constructor
  · intro hsame
    have hget := domain?_setDomain hd d'
    rw [hsame, hd] at hget
    exact (Option.some.inj hget).symm
  · rintro rfl
    obtain ⟨hlt, hget⟩ := List.getElem?_eq_some_iff.mp hd
    rw [setDomain, ← hget, List.set_getElem_self]

theorem Asset.payload_of_rootTemplate? {asset : Asset} {candidate : Bool} {template : Template}
    (hroot : asset.rootTemplate? candidate = some template) : asset.payload = .scene template := by
  unfold rootTemplate? at hroot
  split at hroot
  next t hscene =>
    split at hroot
    · cases hroot
      exact hscene
    · cases hroot
  next => cases hroot

namespace GraftState

variable (w : ω) {world : World ω} {asset : Asset} {candidate : Bool}

theorem graft_of_no_stage (hstage : world.sessionStage? = none) (template : Template) :
    idle.graft w world template = (w, world, idle, .error (.domainNotReady template.name)) := by
  simp [graft, hstage]

/-- A root scene without a stage has been registered when the graft refuses it. -/
theorem dispatch_of_no_stage {id : DomainId} {d : Domain ω} {template : Template}
    (hdomain : world.sessionDomain? = some (id, d)) (hstage : world.sessionStage? = none)
    (hroot : asset.rootTemplate? candidate = some template) :
    idle.dispatch w world asset candidate =
      (w, world.setDomain id (d.taking asset world.session.loader), idle,
        .error (.domainNotReady template.name)) := by
  let registered := world.setDomain id (d.taking asset world.session.loader)
  have hstill : registered.sessionStage? = none := hstage
  have hgraft := graft_of_no_stage w hstill template
  simp only [registered, Domain.taking] at hgraft
  simp [dispatch, hdomain, hroot, hgraft, Domain.taking]

/-- The two ways in which a dispatch refuses an asset: at its door, and where the root scene is to
be grafted, which is behind its registration. -/
inductive Refuses (w : ω) (world : World ω) (state : GraftState) (asset : Asset)
    (candidate : Bool) : ω × World ω × GraftState × Except DispatchError DispatchOutcome → Prop where
  | atDoor (hdomain : world.sessionDomain? = none) :
      Refuses w world state asset candidate
        (w, world, state, .error (.domainNotReady asset.name))
  | atGraft {id : DomainId} {d : Domain ω} {template : Template}
      (hdomain : world.sessionDomain? = some (id, d)) (hstage : world.sessionStage? = none)
      (hidle : state = idle) (hroot : asset.rootTemplate? candidate = some template) :
      Refuses w world state asset candidate
        (w, world.setDomain id (d.taking asset world.session.loader), state,
          .error (.domainNotReady template.name))

theorem refuses_or_ok (w : ω) (world : World ω) (state : GraftState) (asset : Asset)
    (candidate : Bool) :
    Refuses w world state asset candidate (state.dispatch w world asset candidate) ∨
      ((∃ p, world.sessionDomain? = some p) ∧
        ((∃ p, world.sessionStage? = some p) ∨ state ≠ idle ∨
          asset.rootTemplate? candidate = none) ∧
        ∃ outcome, (state.dispatch w world asset candidate).2.2.2 = .ok outcome) := by
  cases hdomain : world.sessionDomain? with
  | none =>
    rw [dispatch_of_not_ready w hdomain]
    exact .inl (.atDoor hdomain)
  | some p =>
    obtain ⟨id, d⟩ := p
    cases hroot : asset.rootTemplate? candidate with
    | none =>
      rw [dispatch_of_no_root w hdomain hroot]
      exact .inr ⟨⟨_, rfl⟩, .inr (.inr rfl), _, rfl⟩
    | some template =>
      by_cases hidle : state = idle
      · subst hidle
        cases hstage : world.sessionStage? with
        | none =>
          rw [dispatch_of_no_stage w hdomain hstage hroot]
          exact .inl (.atGraft hdomain hstage rfl hroot)
        | some s =>
          obtain ⟨_, _, _, _, hdispatch, _⟩ := dispatch_of_idle w hdomain hstage hroot
          rw [hdispatch]
          exact .inr ⟨⟨_, rfl⟩, .inl ⟨_, rfl⟩, _, rfl⟩
      · rw [dispatch_of_duplicate w hdomain hroot hidle]
        exact .inr ⟨⟨_, rfl⟩, .inr (.inl hidle), _, rfl⟩

theorem refuses_of_error {w : ω} {world : World ω} {state : GraftState} {e : DispatchError}
    (he : (state.dispatch w world asset candidate).2.2.2 = .error e) :
    Refuses w world state asset candidate (state.dispatch w world asset candidate) := by
  rcases refuses_or_ok w world state asset candidate with hrefuses | ⟨-, -, outcome, hok⟩
  · exact hrefuses
  · rw [he] at hok
    cases hok

section Refused

variable {w} {state : GraftState}
  {t : ω × World ω × GraftState × Except DispatchError DispatchOutcome}

theorem Refuses.error (h : Refuses w world state asset candidate t) : ∃ e, t.2.2.2 = .error e := by
  cases h with
  | atDoor => exact ⟨_, rfl⟩
  | atGraft => exact ⟨_, rfl⟩

theorem Refuses.unready (h : Refuses w world state asset candidate t) :
    world.sessionDomain? = none ∨ (world.sessionStage? = none ∧ state = idle ∧
      ∃ template, asset.rootTemplate? candidate = some template) := by
  cases h with
  | atDoor hdomain => exact .inl hdomain
  | atGraft _ hstage hidle hroot => exact .inr ⟨hstage, hidle, _, hroot⟩

/-- A refusal reaches neither the outside nor the graft, the session or its stages. -/
theorem Refuses.stays (h : Refuses w world state asset candidate t) :
    t.1 = w ∧ t.2.2.1 = state ∧ t.2.1.session = world.session ∧ t.2.1.stages = world.stages := by
  cases h with
  | atDoor => exact ⟨rfl, rfl, rfl, rfl⟩
  | atGraft => exact ⟨rfl, rfl, rfl, rfl⟩

end Refused

/-- A refused asset that was dropped: everything is as before, and the error names the asset. -/
structure Untraced (w : ω) (world : World ω) (state : GraftState) (asset : Asset)
    (t : ω × World ω × GraftState × Except DispatchError DispatchOutcome) : Prop where
  outside_eq : t.1 = w
  world_eq : t.2.1 = world
  state_eq : t.2.2.1 = state
  error_eq : t.2.2.2 = .error (.domainNotReady asset.name)

/-- The scene was there before, under its own name and from the same loading. -/
def KnownScene (world : World ω) (asset : Asset) (candidate : Bool) : Prop :=
  ∀ id d template, world.sessionDomain? = some (id, d) →
    asset.rootTemplate? candidate = some template → template.name = asset.name ∧
      d.registries.definitions.get? asset.name = some ⟨.scene template, world.session.loader⟩

theorem Refuses.untraced_iff {state : GraftState}
    {t : ω × World ω × GraftState × Except DispatchError DispatchOutcome}
    (h : Refuses w world state asset candidate t) :
    Untraced w world state asset t ↔ KnownScene world asset candidate := by
  cases h with
  | atDoor hdomain =>
    constructor
    · intro _ id d template hsome
      rw [hdomain] at hsome
      cases hsome
    · intro _
      exact ⟨rfl, rfl, rfl, rfl⟩
  | @atGraft id d template hdomain hstage hidle hroot =>
    have hscene := Asset.payload_of_rootTemplate? hroot
    have hset := World.setDomain_eq_self_iff (World.sessionDomain?_eq_some.mp hdomain).2
      (d.taking asset world.session.loader)
    rw [Domain.taking_eq_self_iff hscene] at hset
    constructor
    · intro huntraced
      have herror := huntraced.error_eq
      intro id' d' template' hdomain' hroot'
      obtain rfl : template = template' := Option.some.inj (hroot.symm.trans hroot')
      rw [hdomain] at hdomain'
      cases hdomain'
      refine ⟨?_, hset.mp huntraced.world_eq⟩
      simpa using herror
    · intro hknown
      obtain ⟨hname, hentry⟩ := hknown id d template hdomain hroot
      refine ⟨rfl, hset.mpr hentry, rfl, ?_⟩
      rw [hname]

/-- A dispatch refuses an asset where there is no domain, and a first root scene where there is no
stage. Nothing is done outside then, and the session, its stages and the graft are as before. But
the root scene stays registered, and the error has the name of its template: the asset leaves no
trace exactly when there is no domain, or the scene was known before. -/
theorem refused_untraced_iff (w : ω) (world : World ω) (state : GraftState) (asset : Asset)
    (candidate : Bool) :
    let t := state.dispatch w world asset candidate
    ((∃ e, t.2.2.2 = .error e) ↔ world.sessionDomain? = none ∨
      (world.sessionStage? = none ∧ state = idle ∧
        ∃ template, asset.rootTemplate? candidate = some template)) ∧
    ∀ e, t.2.2.2 = .error e →
      Refuses w world state asset candidate t ∧
      (t.1 = w ∧ t.2.2.1 = state ∧ t.2.1.session = world.session ∧
        t.2.1.stages = world.stages) ∧
      (Untraced w world state asset t ↔ KnownScene world asset candidate) := by
  intro t
  refine ⟨⟨?_, ?_⟩, ?_⟩
  · rintro ⟨e, he⟩
    exact (refuses_of_error he).unready
  · intro hnot
    rcases refuses_or_ok w world state asset candidate with hrefuses | ⟨⟨p, hdomain⟩, hready, -⟩
    · exact hrefuses.error
    · rcases hnot with hnone | ⟨hstage, hidle, template, hroot⟩
      · rw [hdomain] at hnone
        cases hnone
      · simp [hstage, hidle, hroot] at hready
  · intro e he
    have hrefuses := refuses_of_error he
    exact ⟨hrefuses, hrefuses.stays, hrefuses.untraced_iff⟩

/-- A session with a domain, but without a stage. -/
def stageless : World Unit :=
  { session := { domain := some 0 }
    domains := [{ executor := .recording fun _ w => w, version := 10 }] }

/-- A scene that is refused for want of a stage is registered all the same, and the error does not
name it. -/
theorem scene_left_behind :
    let movie : Asset :=
      { name := "movie", payload := .scene ⟨"main", 1, none, []⟩, isRootScene := true }
    let t := idle.dispatch () stageless movie true
    t.2.2.2 = .error (.domainNotReady "main") ∧
      t.2.1.domains.map (·.registries.definitions.size) = [1] ∧
      stageless.domains.map (·.registries.definitions.size) = [0] ∧
      ¬ Untraced () stageless idle movie t := by
  intro movie t
  have herror : t.2.2.2 = .error (.domainNotReady "main") := by decide
  refine ⟨herror, by decide, by decide, ?_⟩
  intro huntraced
  have hnamed := huntraced.error_eq
  rw [herror] at hnamed
  exact absurd hnamed (by decide)

end GraftState

end ContentPlayer
