import ContentPlayer.Proofs.Display.Copy
import ContentPlayer.Proofs.Script.Playing
import ContentPlayer.Proofs.Session.Grafting

namespace ContentPlayer

open Script (Interpreter Piece Sandbox)

variable {ω σ : Type} {i : Interpreter σ} {core : ω → Sandbox σ}

namespace World

variable {world : World ω}

/-- Every domain is one of an engine, in which no module waits. -/
def Engages (world : World ω) (i : Interpreter σ) (core : ω → Sandbox σ) : Prop :=
  ∀ d ∈ world.domains, d.Engages i core

theorem Engages.domain (hworld : world.Engages i core) {id : DomainId} {d : Domain ω}
    (hd : world.domain? id = some d) : d.Engages i core :=
  hworld d (List.mem_of_getElem? hd)

theorem Engages.setDomain (hworld : world.Engages i core) (id : DomainId) {d : Domain ω}
    (hd : d.Engages i core) : (world.setDomain id d).Engages i core := by
  intro d' hd'
  rcases List.mem_or_eq_of_mem_set hd' with hmem | rfl
  · exact hworld d' hmem
  · exact hd

theorem domains_enterFrame (world : World ω) : world.enterFrame.1.domains = world.domains := by
  unfold enterFrame
  split <;> rfl

theorem domains_resize (world : World ω) : world.resize.1.domains = world.domains := by
  unfold resize
  split <;> rfl

theorem domains_createSprite (world : World ω) (f : Factory) (name : String) :
    (f.createSprite world name).1.domains = world.domains := by
  unfold Factory.createSprite
  split
  next => rfl
  next => split <;> rfl

/-- Making an object runs what resolving its definition runs. -/
theorem Engages.createInstance (hworld : world.Engages i core) (w : ω) (f : Factory)
    (name : String) :
    (f.createInstance w world name).2.1.Engages i core ∧
      core (f.createInstance w world name).1 =
        i.playing (core w) (((world.domain? f.domain).map (·.pieces name)).getD []) := by
  cases hd : world.domain? f.domain with
  | none =>
    rw [Factory.createInstance_of_no_domain w hd]
    exact ⟨hworld, (i.playing_nil (core w)).symm⟩
  | some d =>
    obtain ⟨hafter, hran⟩ := (hworld.domain hd).resolve w name
    have hset := hworld.setDomain f.domain hafter
    obtain ⟨hcalled, hmade⟩ := Factory.createInstance_cases w hd name
    rw [hcalled]
    rcases hmade with hmade | ⟨id, s, template, -, hmade⟩
    · rw [hmade]
      exact ⟨hset, hran⟩
    · rw [hmade]
      exact ⟨hset, hran⟩

end World

namespace GraftState

/-- The scripts that dispatching an asset runs: the constructors of the first root scene. -/
def pieces (state : GraftState) (asset : Asset) (candidate : Bool) : List Piece :=
  if state = .idle then
    ((asset.rootTemplate? candidate).map fun t => t.constructors.map .constructor).getD []
  else []

/-- A graft runs the constructors of its template. -/
theorem core_graft {x : Executor ω} (hx : x.Engages i core) (w : ω) {s : Stage}
    (hroot : s.root < s.tree.size) (template : Template) (loader : Option LoaderInfo) :
    core (s.graft (fun w => x.construct w) w template loader).1 =
      i.playing (core w) (template.constructors.map .constructor) := by
  rw [Stage.fst_graft _ w s hroot, ← i.foldl_construct]
  generalize template.constructors = calls
  induction calls generalizing w with
  | nil => rfl
  | cons call calls ih =>
    rw [List.foldl_cons, List.foldl_cons, ih, hx.construct]

theorem engages_dispatch {world : World ω} {id : DomainId} {d : Domain ω} {sid : StageId}
    {s : Stage} (hworld : world.Engages i core) (hdomain : world.sessionDomain? = some (id, d))
    (hstage : world.sessionStage? = some (sid, s)) (hroot : s.root < s.tree.size) (w : ω)
    (state : GraftState) (asset : Asset) (candidate : Bool) :
    (state.dispatch w world asset candidate).2.1.Engages i core ∧
      core (state.dispatch w world asset candidate).1 =
        i.playing (core w) (state.pieces asset candidate) := by
  have hd := hworld.domain (World.sessionDomain?_eq_some.mp hdomain).2
  have htaking : (d.taking asset world.session.loader).Engages i core :=
    ⟨hd.executor, hd.executed_eq⟩
  have hset := hworld.setDomain id htaking
  cases htemplate : asset.rootTemplate? candidate with
  | none =>
    have hpieces : state.pieces asset candidate = [] := by simp [pieces, htemplate]
    rw [dispatch_of_no_root w hdomain htemplate, hpieces, i.playing_nil]
    exact ⟨hset, rfl⟩
  | some template =>
    by_cases hidle : state = .idle
    · subst hidle
      have hdomain' := World.sessionDomain?_setDomain hdomain (d.taking asset world.session.loader)
      have hgraft := graft_eq w hdomain' hstage template
      have hcore := core_graft hd.executor w hroot template world.session.loader
      have hpieces : idle.pieces asset candidate = template.constructors.map .constructor := by
        simp [pieces, htemplate]
      rw [dispatch_of_graft w hdomain htemplate hgraft, hpieces]
      exact ⟨hset, hcore⟩
    · have hpieces : state.pieces asset candidate = [] := by simp [pieces, hidle]
      rw [dispatch_of_duplicate w hdomain htemplate hidle, hpieces, i.playing_nil]
      exact ⟨hset, rfl⟩

end GraftState

end ContentPlayer
