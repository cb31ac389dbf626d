import ContentPlayer.Proofs.Display.Reading
import ContentPlayer.Proofs.Domain.Resolution
import ContentPlayer.Proofs.Session.Content
import ContentPlayer.Proofs.Session.Refusal
import ContentPlayer.Proofs.Session.Registration

namespace ContentPlayer

variable {ω : Type}

namespace Domain

/-- What is registered under a name. -/
def definition? (d : Domain ω) (name : String) : Option Definition :=
  (d.registries.definitions.get? name).map Registered.value

/-- A name is registered for display objects. -/
def Shows (d : Domain ω) (name : String) (template : Template) : Prop :=
  d.definition? name = some (.sprite template) ∨ d.definition? name = some (.scene template)

/-- A name is registered for something else. -/
def Stores (d : Domain ω) (name : String) : Prop :=
  (∃ a, d.definition? name = some (.text a)) ∨ (∃ a, d.definition? name = some (.image a)) ∨
    ∃ data, d.definition? name = some (.generic data)

def StandsOn (d : Domain ω) (world : World ω) (id : StageId) (s : Stage) : Prop :=
  d.stage = some id ∧ world.stage? id = some s

/-- The catalog entry that brings a definition is not marked as executed, and fails to be loaded or
executed now. -/
def FailsToBring (w : ω) (d : Domain ω) (name : String) (e : ModuleError) : Prop :=
  ∃ i entry code, d.catalogEntry? name = some (i, entry, code) ∧ i ∉ d.resolved ∧
    (d.loadAndExecute w code entry).2.2 = .error e

theorem Shows.ne_none {d : Domain ω} {name : String} {template : Template}
    (h : d.Shows name template) : d.definition? name ≠ none := by
  rcases h with h | h <;> simp [h]

theorem Shows.not_stores {d : Domain ω} {name : String} {template : Template}
    (h : d.Shows name template) : ¬ d.Stores name := by
  rcases h with h | h <;> simp [Stores, h]

theorem shows_or_stores {d : Domain ω} {name : String} (hname : d.definition? name ≠ none) :
    (∃ template, d.Shows name template) ∨ d.Stores name := by
  obtain ⟨definition, hdefinition⟩ := Option.ne_none_iff_exists'.mp hname
  cases definition with
  | text a => exact .inr (.inl ⟨a, hdefinition⟩)
  | image a => exact .inr (.inr (.inl ⟨a, hdefinition⟩))
  | sprite template => exact .inl ⟨template, .inl hdefinition⟩
  | scene template => exact .inl ⟨template, .inr hdefinition⟩
  | generic data => exact .inr (.inr (.inr ⟨data, hdefinition⟩))

theorem contains_eq_false_iff {d : Domain ω} {name : String} :
    d.registries.definitions.contains name = false ↔ d.definition? name = none := by
  simp [Registry.contains, definition?]

theorem contains_of_definition?_ne_none {d : Domain ω} {name : String}
    (hname : d.definition? name ≠ none) : d.registries.definitions.contains name = true := by
  rw [← Bool.not_eq_false, contains_eq_false_iff]
  exact hname

theorem resolve_eq_error_iff (w : ω) {d : Domain ω} {name : String}
    (hname : d.definition? name = none) (e : ModuleError) :
    (d.resolve w name).2.2 = .error e ↔ d.FailsToBring w name e := by
  have hcontains := contains_eq_false_iff.mpr hname
  cases hentry : d.catalogEntry? name with
  | none => simp [resolve_of_no_entry w hcontains hentry, FailsToBring, hentry]
  | some found =>
    obtain ⟨i, entry, code⟩ := found
    by_cases hresolved : i ∈ d.resolved
    · simp [resolve_of_resolved w hcontains hentry hresolved, FailsToBring, hentry, hresolved]
    · rw [resolve_of_unresolved w hcontains hentry hresolved]
      cases hload : d.loadAndExecute w code entry with
      | mk w' rest =>
        obtain ⟨d', r⟩ := rest
        cases r <;> simp [FailsToBring, hentry, hresolved, hload]

namespace Setting

variable {s s' : Setting ω} {calls : List Executor.Call}

theorem LoadsAndExecutes.modules_eq {code : Bytes} {origin : String} {r : Except ModuleError Nat}
    (h : s.LoadsAndExecutes code origin calls s' r) :
    s'.domain.modules = s.domain.modules ∨
      ∃ m, .load s.domain.modules.length code origin (.ok m) ∈ calls ∧
        s'.domain.modules = s.domain.modules ++ [m] := by
  cases h with
  | refused => exact .inl rfl
  | withdrawn => exact .inl rfl
  | leftOver => exact .inr ⟨_, List.mem_cons_self .., rfl⟩
  | executed => exact .inr ⟨_, List.mem_cons_self .., rfl⟩

theorem LoadsAndExecutes.calls_ne_nil {code : Bytes} {origin : String}
    {r : Except ModuleError Nat} (h : s.LoadsAndExecutes code origin calls s' r) : calls ≠ [] := by
  cases h <;> exact List.cons_ne_nil _ _

variable {name : String} {r : Except ModuleError Resolution} (h : s.Resolves name calls s' r)

include h

/-- Only a module that the catalog brings comes to the others. -/
theorem Resolves.modules_eq : s'.domain.modules = s.domain.modules ∨
    ∃ i entry code m, s.domain.catalogEntry? name = some (i, entry, code) ∧
      i ∉ s.domain.resolved ∧ .load s.domain.modules.length code entry (.ok m) ∈ calls ∧
      s'.domain.modules = s.domain.modules ++ [m] := by
  cases h with
  | registered => exact .inl rfl
  | notFound => exact .inl rfl
  | alreadyLoaded => exact .inl rfl
  | failed _ hentry hresolved hload =>
    exact hload.modules_eq.imp_right fun ⟨m, hm⟩ => ⟨_, _, _, m, hentry, hresolved, hm⟩
  | executed _ hentry hresolved hload =>
    exact hload.modules_eq.imp_right fun ⟨m, hm⟩ => ⟨_, _, _, m, hentry, hresolved, hm⟩

theorem Resolves.eq_of_calls_eq_nil (hcalls : calls = []) : s' = s := by
  cases h with
  | failed _ _ _ hload => exact absurd hcalls hload.calls_ne_nil
  | executed _ _ _ hload => exact absurd hcalls hload.calls_ne_nil
  | _ => rfl

end Setting

end Domain

namespace Factory

/-- The calls of the executor in the making of a display object. -/
def calls (w : ω) (f : Factory) (world : World ω) (name : String) : List Executor.Call :=
  (f.createInstance (w, []) world.traced name).1.2

variable (w : ω) {world : World ω} {f : Factory} {d : Domain ω} {name : String}

theorem stageOf_eq_ok {id : StageId} {s : Stage} (h : d.StandsOn world id s) :
    stageOf world d = .ok (id, s) := by
  obtain ⟨hid, hs⟩ := h
  simp [stageOf, hid, hs]

theorem stageOf_eq_error (h : ¬ ∃ id s, d.StandsOn world id s) :
    stageOf world d = .error .noStage := by
  cases hid : d.stage with
  | none => simp [stageOf, hid]
  | some id =>
    cases hs : world.stage? id with
    | none => simp [stageOf, hid, hs]
    | some s => exact absurd ⟨id, s, hid, hs⟩ h

theorem templateOf_eq_ok {template : Template} (h : d.Shows name template) :
    templateOf d name = .ok template := by
  rcases h with h | h
  all_goals
    obtain ⟨entry, hentry, hvalue⟩ := Option.map_eq_some_iff.mp h
    simp [templateOf, hentry, hvalue, Definition.template?]

theorem templateOf_of_stores (h : d.Stores name) :
    templateOf d name = .error (.notInstantiable name) := by
  rcases h with ⟨_, h⟩ | ⟨_, h⟩ | ⟨_, h⟩
  all_goals
    obtain ⟨entry, hentry, hvalue⟩ := Option.map_eq_some_iff.mp h
    simp [templateOf, hentry, hvalue, Definition.template?]

/-- What the making of a display object gives, told from what is registered, the stage, and what
the catalog brings. -/
structure Judged (w : ω) (world : World ω) (d : Domain ω) (name : String)
    (r : Except FactoryError NodeId) : Prop where
  ok_iff : (∃ e, r = .ok e) ↔
    (∃ template, d.Shows name template) ∧ ∃ id s, d.StandsOn world id s
  notInstantiable_iff : r = .error (.notInstantiable name) ↔ d.Stores name
  noStage_iff : r = .error .noStage ↔
    (∃ template, d.Shows name template) ∧ ¬ ∃ id s, d.StandsOn world id s
  module_iff : ∀ e, r = .error (.module e) ↔ d.definition? name = none ∧ d.FailsToBring w name e
  unknown_iff : r = .error (.unknownDefinition name) ↔
    d.definition? name = none ∧ ∀ e, ¬ d.FailsToBring w name e

/-- A world in which no display object was made. The stages are as they were, and of the domains at
most the one that was asked is another: it has its registries still, and its modules but for one
that was loaded because the catalog brings the name. -/
structure Spared (f : Factory) (d : Domain ω) (name : String) (calls : List Executor.Call)
    (world world' : World ω) : Prop where
  stages_eq : world'.stages = world.stages
  session_eq : world'.session = world.session
  registries_eq : world'.domains.map Domain.registries = world.domains.map Domain.registries
  others_eq : ∀ k, k ≠ f.domain → world'.domain? k = world.domain? k
  modules : ∀ d', world'.domain? f.domain = some d' → d'.modules ≠ d.modules →
    d.definition? name = none ∧ ∃ i entry code m, d.catalogEntry? name = some (i, entry, code) ∧
      i ∉ d.resolved ∧ .load d.modules.length code entry (.ok m) ∈ calls ∧
      d'.modules = d.modules ++ [m]
  quiet : calls = [] → world' = world

section Create

variable (hd : world.domain? f.domain = some d)

include hd

/-- Where the name is registered, only that and the stage are asked for. -/
theorem createInstance_of_registered (hname : d.definition? name ≠ none) :
    f.createInstance w world name =
      match templateOf d name, stageOf world d with
      | .error e, _ => (w, world, .error e)
      | .ok _, .error e => (w, world, .error e)
      | .ok template, .ok (id, s) =>
        (w, world.setStage id { s with tree := (s.tree.instantiate template).1 },
          .ok (s.tree.instantiate template).2) := by
  have hcontains := Domain.contains_of_definition?_ne_none hname
  have hsame : world.setDomain f.domain d = world := (World.setDomain_eq_self_iff hd d).mpr rfl
  rw [createInstance, hd]
  simp only [Domain.resolve_of_registered w hcontains, hsame]
  cases templateOf d name with
  | error e => rfl
  | ok template => cases stageOf world d <;> rfl

/-- Where it is not, nothing is made, whatever the catalog brings. -/
theorem createInstance_of_unregistered (hname : d.definition? name = none) :
    f.createInstance w world name =
      ((d.resolve w name).1, world.setDomain f.domain (d.resolve w name).2.1,
        .error (match (d.resolve w name).2.2 with
          | .error e => .module e
          | .ok _ => .unknownDefinition name)) := by
  have hregistries := d.registries_resolve w name
  rw [createInstance, hd]
  dsimp only
  cases hran : d.resolve w name with
  | mk w' rest =>
    obtain ⟨d', r⟩ := rest
    rw [hran] at hregistries
    have hget : d'.registries.definitions.get? name = none := by
      rw [← Option.map_eq_none_iff (f := Registered.value), ← hname, Domain.definition?]
      exact congrArg (fun r : Registries => (r.definitions.get? name).map Registered.value)
        hregistries
    cases r with
    | error e => rfl
    | ok a => simp only [templateOf, hget]

/-- The executor is called to resolve the name, and for nothing else. -/
theorem calls_eq : f.calls w world name = Domain.Setting.calls ⟨w, d⟩ (.resolve name) := by
  let traced : Domain (ω × List Executor.Call) := { d with executor := d.executor.traced }
  have htraced : world.traced.domain? f.domain = some traced := by
    rw [World.domain?, World.traced, List.getElem?_map]
    exact congrArg (Option.map _) hd
  have hran : Domain.Setting.calls ⟨w, d⟩ (.resolve name) = (traced.resolve (w, []) name).1.2 := rfl
  rw [calls, hran]
  by_cases hname : d.definition? name = none
  · rw [createInstance_of_unregistered (w, []) htraced hname]
  · have hcontains := Domain.contains_of_definition?_ne_none (d := traced) hname
    rw [createInstance_of_registered (w, []) htraced hname,
      Domain.resolve_of_registered (w, []) hcontains]
    cases templateOf traced name with
    | error e => rfl
    | ok template => cases stageOf world.traced traced <;> rfl

theorem calls_of_shows {template : Template} (hname : d.Shows name template) :
    f.calls w world name = [] := by
  have hcontains := Domain.contains_of_definition?_ne_none hname.ne_none
  have hregistered : (d.resolve w name).2.2 = .ok .registered := by
    rw [Domain.resolve_of_registered w hcontains]
  rw [calls_eq w hd]
  exact ((Domain.Setting.resolves ⟨w, d⟩ name).untouched hregistered nofun).2

theorem createInstance_of_shows {template : Template} {id : StageId} {s : Stage}
    (hname : d.Shows name template) (hstage : d.StandsOn world id s) :
    f.createInstance w world name =
      (w, world.setStage id { s with tree := (s.tree.instantiate template).1 },
        .ok (s.tree.instantiate template).2) := by
  rw [createInstance_of_registered w hd hname.ne_none, templateOf_eq_ok hname, stageOf_eq_ok hstage]

theorem judged_createInstance :
    Judged w world d name (f.createInstance w world name).2.2 := by
  by_cases hname : d.definition? name = none
  · have hshows : ¬ ∃ template, d.Shows name template := by simp [Domain.Shows, hname]
    have hstores : ¬ d.Stores name := by simp [Domain.Stores, hname]
    have hfails := Domain.resolve_eq_error_iff w hname
    rw [createInstance_of_unregistered w hd hname]
    cases hran : (d.resolve w name).2.2 with
    | error e =>
      simp only [hran, Except.error.injEq] at hfails
      constructor <;> simp [hname, hshows, hstores, ← hfails]
    | ok a =>
      simp only [hran, reduceCtorEq, false_iff] at hfails
      constructor <;> simp [hname, hshows, hstores, hfails]
  · rw [createInstance_of_registered w hd hname]
    rcases Domain.shows_or_stores hname with ⟨template, hshows⟩ | hstores
    · have hsome : ∃ template, d.Shows name template := ⟨template, hshows⟩
      rw [templateOf_eq_ok hshows]
      by_cases hstage : ∃ id s, d.StandsOn world id s
      · obtain ⟨id, s, hs⟩ := hstage
        have hsome' : ∃ id s, d.StandsOn world id s := ⟨id, s, hs⟩
        rw [stageOf_eq_ok hs]
        constructor <;> simp [hname, hsome, hsome', hshows.not_stores]
      · rw [stageOf_eq_error hstage]
        constructor <;> simp [hname, hsome, hstage, hshows.not_stores]
    · have hshows : ¬ ∃ template, d.Shows name template := fun ⟨_, h⟩ => h.not_stores hstores
      rw [templateOf_of_stores hstores]
      constructor <;> simp [hname, hshows, hstores]

theorem spared_createInstance {e : FactoryError}
    (herror : (f.createInstance w world name).2.2 = .error e) :
    Spared f d name (f.calls w world name) world (f.createInstance w world name).2.1 := by
  by_cases hname : d.definition? name = none
  · have hresolves := Domain.Setting.resolves ⟨w, d⟩ name
    rw [createInstance_of_unregistered w hd hname, calls_eq w hd]
    refine ⟨rfl, rfl, World.map_setDomain _ hd (d.registries_resolve w name), ?_, ?_, ?_⟩
    · intro k hk
      simp [World.domain?, World.setDomain, List.getElem?_set_ne hk.symm]
    · intro d' hd' hmodules
      rw [World.domain?_setDomain hd] at hd'
      cases hd'
      exact ⟨hname, hresolves.modules_eq.resolve_left hmodules⟩
    · intro hcalls
      have hsame := hresolves.eq_of_calls_eq_nil hcalls
      exact (World.setDomain_eq_self_iff hd _).mpr (congrArg Domain.Setting.domain hsame)
  · -- an error before anything is made
    have hsame : (f.createInstance w world name).2.1 = world := by
      rw [createInstance_of_registered w hd hname] at herror ⊢
      split at herror
      · rfl
      · rfl
      · cases herror
    rw [hsame]
    refine ⟨rfl, rfl, rfl, fun _ _ => rfl, ?_, fun _ => rfl⟩
    intro d' hd' hmodules
    obtain rfl := Option.some.inj (hd.symm.trans hd')
    exact absurd rfl hmodules

end Create

/-- Display objects are made of exactly the names that are registered for them, on the stage of the
domain: bare copies, for which the executor is not called. Otherwise there is an error, that of the
name before that of the stage, and nothing is changed by it but for what the catalog brought. -/
theorem createInstance_instantiates_registered (w : ω) {world : World ω} {f : Factory}
    {d : Domain ω} (hd : world.domain? f.domain = some d) (name : String) :
    Judged w world d name (f.createInstance w world name).2.2 ∧
    (∀ template id s, d.Shows name template → d.StandsOn world id s →
      f.calls w world name = [] ∧
      ∃ t e, f.createInstance w world name = (w, world.setStage id { s with tree := t }, .ok e) ∧
        s.tree.BareCopy t template e) ∧
    ∀ err, (f.createInstance w world name).2.2 = .error err →
      Spared f d name (f.calls w world name) world (f.createInstance w world name).2.1 := by
  refine ⟨judged_createInstance w hd, ?_, ?_⟩
  · intro template id s hname hstage
    refine ⟨calls_of_shows w hd hname, _, _, createInstance_of_shows w hd hname hstage, ?_⟩
    exact s.tree.bareCopy_instantiate template
  · intro err herror
    exact spared_createInstance w hd herror

/-- A display object, a text, and a name that the catalog brings but that nothing registers. -/
theorem createInstance_instantiates_registered_hero :
    let d : Domain (List Bool) :=
      { executor := .planned
        version := 10
        registries := { definitions := ⟨[
          ("Hero", ⟨.sprite ⟨"hero", 1, some "init", [⟨"hat", 1, none, []⟩]⟩, none⟩),
          ("Label", ⟨.text ⟨"hi", false⟩, none⟩)]⟩ }
        catalog := some ⟨[0, 1], [⟨"flash/display", 0, 2, ["Sprite"]⟩], by decide⟩
        stage := some 0 }
    let world : World (List Bool) :=
      { domains := [d], stages := [Stage.ofSurface { viewport := ⟨550, 400⟩ }] }
    let make (name : String) := (⟨0⟩ : Factory).createInstance [true, false] world name
    world.domain? 0 = some d ∧ (∃ e, (make "Hero").2.2 = .ok e) ∧
      (⟨0⟩ : Factory).calls [true, false] world "Hero" = [] ∧
      (make "Label").2.2 = .error (.notInstantiable "Label") ∧
      (make "Sprite").2.2 = .error (.unknownDefinition "Sprite") ∧
      (make "Sprite").1 = [false] ∧ (make "Sprite").2.1.stages = world.stages := by
  intro d world make
  have hd : world.domain? 0 = some d := rfl
  obtain ⟨hhero, hmade, -⟩ :=
    createInstance_instantiates_registered [true, false] (f := ⟨0⟩) hd "Hero"
  obtain ⟨hlabel, -, -⟩ := createInstance_instantiates_registered _ (f := ⟨0⟩) hd "Label"
  obtain ⟨-, -, hspared⟩ := createInstance_instantiates_registered _ (f := ⟨0⟩) hd "Sprite"
  have hshows : d.Shows "Hero" ⟨"hero", 1, some "init", [⟨"hat", 1, none, []⟩]⟩ := .inl rfl
  have hstage : d.StandsOn world 0 (Stage.ofSurface { viewport := ⟨550, 400⟩ }) := ⟨rfl, rfl⟩
  have hunknown : (make "Sprite").2.2 = .error (.unknownDefinition "Sprite") := rfl
  exact ⟨hd, hhero.ok_iff.mpr ⟨⟨_, hshows⟩, _, _, hstage⟩, (hmade _ _ _ hshows hstage).1,
    hlabel.notInstantiable_iff.mpr (.inl ⟨_, rfl⟩), hunknown, rfl,
    (hspared _ hunknown).stages_eq⟩

end Factory

end ContentPlayer
