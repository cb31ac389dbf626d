import ContentPlayer.Proofs.Player.Slots
import ContentPlayer.Proofs.Session.Scripts

namespace ContentPlayer

open Script (Interpreter Piece Sandbox)

variable {ω σ : Type}

/-- What can be asked of a player, and of its session's domain. -/
inductive Request (ω : Type) where
  | step (s : Step ω)
  | resolve (name : String)
  | registerCatalog (catalog : Catalog)

namespace Request

/-- What goes on outside leaves the engine alone. -/
def Quiet (core : ω → Sandbox σ) : Request ω → Prop
  | .step (.elapse f) => ∀ w, core (f w) = core w
  | _ => True

end Request

namespace Life

/-- Something is done to the session's domain, if there is one. -/
def onDomain (l : Life ω) (f : ω → Domain ω → ω × Domain ω) : Life ω :=
  match l.player.world.sessionDomain? with
  | none => l
  | some (id, d) =>
    let (w, d) := f l.outside d
    { l.setWorld (l.player.world.setDomain id d) with outside := w }

def serve (l : Life ω) : Request ω → Life ω
  | .step s => (l.act s).1
  | .resolve name => l.onDomain fun w d => ((d.resolve w name).1, (d.resolve w name).2.1)
  | .registerCatalog catalog => l.onDomain fun w d => (w, d.registerCatalog catalog)

/-- The scripts that a request runs. A definition that is resolved, also to make an object of it,
has an entry of the catalog loaded, and a graft runs constructors. -/
def pieces (l : Life ω) : Request ω → List Piece
  | .resolve name => (l.player.world.sessionDomain?.map (·.2.pieces name)).getD []
  | .step (.createInstance name) =>
    ((l.player.factory.bind fun f => l.player.world.domain? f.domain).map (·.pieces name)).getD []
  | .step (.dispatch asset candidate) =>
    (l.player.world.sessionDomain?.map fun _ => l.player.graft.pieces asset candidate).getD []
  | _ => []

def serveAll (l : Life ω) : List (Request ω) → Life ω
  | [] => l
  | r :: rest => (l.serve r).serveAll rest

def allPieces (l : Life ω) : List (Request ω) → List Piece
  | [] => []
  | r :: rest => l.pieces r ++ (l.serve r).allPieces rest

variable {l : Life ω} {x : Publication} {i : Interpreter σ} {core : ω → Sandbox σ}

/-- The bootstrap is over, and has published nothing. -/
structure Spent (l : Life ω) : Prop where
  player : l.player.Unpublished
  executor_eq : l.player.bootstrapper.executor = none
  attempt_eq : l.attempt = none

/-- The bootstrap is over, and an engine does everything. -/
structure Engages (l : Life ω) (i : Interpreter σ) (core : ω → Sandbox σ) : Prop where
  ended : l.Spent ∨ ∃ x, l.Published x
  world : l.player.world.Engages i core

/-- Without a domain only time goes on. -/
theorem Spent.act_eq (hl : l.Spent) {s : Step ω} (hs : Request.Quiet core (.step s)) :
    ∃ w, (l.act s).1 = { l with outside := w } ∧ core w = core l.outside := by
  have hsame (hact : (l.act s).1 = l) :
      ∃ w, (l.act s).1 = { l with outside := w } ∧ core w = core l.outside :=
    ⟨l.outside, hact, rfl⟩
  cases s with
  | start info flags =>
    rcases Player.start_cases l.outside l.player info flags with ⟨e, hstart⟩ | ⟨_, hthere, _⟩
    · exact hsame (act_start_of_error hstart)
    · rw [hl.executor_eq] at hthere
      cases hthere
  | resume => exact hsame (by simp only [Life.act, hl.attempt_eq])
  | abandon =>
    have hnone : { l with attempt := none } = l := by rw [← hl.attempt_eq]
    exact hsame hnone
  | dispatch asset candidate => exact hsame (by simp only [Life.act, hl.player.dispatch_eq])
  | enterFrame => exact hsame (by simp only [Life.act, hl.player.enterFrame_eq])
  | resize => exact hsame (by simp only [Life.act, hl.player.resize_eq])
  | createInstance name => exact hsame (by simp only [Life.act, hl.player.factory_eq])
  | createSprite name => exact hsame (by simp only [Life.act, hl.player.factory_eq])
  | viewport v => exact hsame (by simp only [Life.act, hl.player.sessionStage?_eq])
  | elapse f => exact ⟨f l.outside, rfl, hs l.outside⟩

/-- Without a domain no script runs. -/
theorem Spent.pieces_eq (hl : l.Spent) (r : Request ω) : l.pieces r = [] := by
  cases r with
  | resolve name => simp [pieces, hl.player.sessionDomain?_eq]
  | registerCatalog catalog => rfl
  | step s =>
    cases s with
    | dispatch asset candidate => simp [pieces, hl.player.sessionDomain?_eq]
    | createInstance name => simp [pieces, hl.player.factory_eq]
    | _ => rfl

theorem Spent.serve_eq (hl : l.Spent) {r : Request ω} (hr : r.Quiet core) :
    ∃ w, l.serve r = { l with outside := w } ∧ core w = core l.outside := by
  cases r with
  | step s => exact hl.act_eq hr
  | resolve name =>
    exact ⟨l.outside, by simp only [serve, onDomain, hl.player.sessionDomain?_eq], rfl⟩
  | registerCatalog catalog =>
    exact ⟨l.outside, by simp only [serve, onDomain, hl.player.sessionDomain?_eq], rfl⟩

section Published

variable (hl : l.Published x) (hworld : l.player.world.Engages i core)

include hl hworld

theorem Published.onDomain {f : ω → Domain ω → ω × Domain ω} {ps : List Piece} {d : Domain ω}
    (hdomain : l.player.world.sessionDomain? = some (x.domain, d))
    (hf : (f l.outside d).2.Engages i core ∧ core (f l.outside d).1 = i.playing (core l.outside) ps)
    (hstage : (f l.outside d).2.stage = d.stage) :
    (l.onDomain f).Engages i core ∧
      core (l.onDomain f).outside = i.playing (core l.outside) ps := by
  have hd := (World.sessionDomain?_eq_some.mp hdomain).2
  have hkeeps := World.keeps_setDomain hd hstage
  rw [Life.onDomain, hdomain]
  exact ⟨⟨.inr ⟨x, hl.keeps _ hkeeps⟩, hworld.setDomain _ hf.1⟩, hf.2⟩

theorem Published.plays_act {s : Step ω} (hs : Request.Quiet core (.step s)) :
    (l.act s).1.Engages i core ∧
      core (l.act s).1.outside = i.playing (core l.outside) (l.pieces (.step s)) := by
  have hafter : (l.act s).1.Spent ∨ ∃ x, (l.act s).1.Published x := .inr ⟨x, hl.act s⟩
  have hstill (hdomains : (l.act s).1.player.world.domains = l.player.world.domains)
      (hcore : core (l.act s).1.outside = core l.outside) (hpieces : l.pieces (.step s) = []) :
      (l.act s).1.Engages i core ∧
        core (l.act s).1.outside = i.playing (core l.outside) (l.pieces (.step s)) := by
    rw [hpieces, i.playing_nil]
    refine ⟨⟨hafter, ?_⟩, hcore⟩
    rw [World.Engages, hdomains]
    exact hworld
  cases s with
  | start info flags =>
    rcases Player.start_cases l.outside l.player info flags with ⟨e, hstart⟩ | ⟨_, hthere, _⟩
    · have hsame := act_start_of_error hstart
      exact hstill (by rw [hsame]) (by rw [hsame]) rfl
    · rw [hl.player.executor_eq] at hthere
      cases hthere
  | resume =>
    have hsame : (l.act .resume).1 = l := by simp only [Life.act, hl.attempt_eq]
    exact hstill (by rw [hsame]) (by rw [hsame]) rfl
  | abandon => exact hstill rfl rfl rfl
  | dispatch asset candidate =>
    obtain ⟨d, hdomain⟩ := hl.player.sessionDomain?
    obtain ⟨s, hstage, hroot, _⟩ := hl.player.sessionStage?
    obtain ⟨hworld', hran⟩ := GraftState.engages_dispatch hworld hdomain hstage hroot l.outside
      l.player.graft asset candidate
    have hpieces : l.pieces (.step (.dispatch asset candidate)) =
        l.player.graft.pieces asset candidate := by
      simp [pieces, hdomain]
    rw [hpieces]
    exact ⟨⟨hafter, hworld'⟩, hran⟩
  | enterFrame => exact hstill l.player.world.domains_enterFrame rfl rfl
  | resize => exact hstill l.player.world.domains_resize rfl rfl
  | createInstance name =>
    have hfactory : l.player.factory = some ⟨x.domain⟩ := congrArg Slots.factory hl.player.slots_eq
    obtain ⟨hworld', hran⟩ := hworld.createInstance l.outside ⟨x.domain⟩ name
    have hact : (l.act (.createInstance name)).1 =
        { l.setWorld (Factory.createInstance l.outside l.player.world ⟨x.domain⟩ name).2.1 with
          outside := (Factory.createInstance l.outside l.player.world ⟨x.domain⟩ name).1 } := by
      simp only [Life.act, hfactory]
    have hpieces : l.pieces (.step (.createInstance name)) =
        ((l.player.world.domain? x.domain).map (·.pieces name)).getD [] := by
      simp [pieces, hfactory]
    refine ⟨⟨hafter, ?_⟩, ?_⟩
    · rw [hact]
      exact hworld'
    · rw [hact, hpieces]
      exact hran
  | createSprite name =>
    have hfactory : l.player.factory = some ⟨x.domain⟩ := congrArg Slots.factory hl.player.slots_eq
    refine hstill ?_ ?_ rfl
    · simp only [Life.act, hfactory]
      exact l.player.world.domains_createSprite ⟨x.domain⟩ name
    · simp only [Life.act, hfactory]
      rfl
  | viewport v =>
    obtain ⟨s, hstage, -⟩ := hl.player.sessionStage?
    refine hstill ?_ ?_ rfl
    · simp only [Life.act, hstage]
      rfl
    · simp only [Life.act, hstage]
      rfl
  | elapse f => exact hstill rfl (hs l.outside) rfl

theorem Published.plays {r : Request ω} (hr : r.Quiet core) :
    (l.serve r).Engages i core ∧
      core (l.serve r).outside = i.playing (core l.outside) (l.pieces r) := by
  obtain ⟨d, hdomain⟩ := hl.player.sessionDomain?
  have hd := hworld.domain (World.sessionDomain?_eq_some.mp hdomain).2
  cases r with
  | step s => exact hl.plays_act hworld hr
  | resolve name =>
    have hpieces : l.pieces (.resolve name) = d.pieces name := by
      simp [pieces, hdomain]
    rw [hpieces]
    exact hl.onDomain hworld (f := fun w d => ((d.resolve w name).1, (d.resolve w name).2.1))
      hdomain (hd.resolve l.outside name) (d.stage_resolve l.outside name)
  | registerCatalog catalog =>
    have hregistered : (d.registerCatalog catalog).Engages i core := ⟨hd.executor, hd.executed_eq⟩
    exact hl.onDomain hworld (f := fun w d => (w, d.registerCatalog catalog)) hdomain
      ⟨hregistered, (i.playing_nil (core l.outside)).symm⟩ rfl

end Published

/-- What is asked for runs its scripts, and nothing else. -/
theorem Engages.serve (hl : l.Engages i core) {r : Request ω} (hr : r.Quiet core) :
    (l.serve r).Engages i core ∧
      core (l.serve r).outside = i.playing (core l.outside) (l.pieces r) := by
  rcases hl.ended with hspent | ⟨x, hpublished⟩
  · obtain ⟨w, hserve, hcore⟩ := hspent.serve_eq hr
    have hafter : Spent { l with outside := w } :=
      ⟨hspent.player, hspent.executor_eq, hspent.attempt_eq⟩
    rw [hserve, hspent.pieces_eq, i.playing_nil]
    exact ⟨⟨.inl hafter, hl.world⟩, hcore⟩
  · exact hpublished.plays hl.world hr

/-- Whatever is asked for, the engine plays the scripts of the requests in their order. -/
theorem Engages.serveAll (hl : l.Engages i core) {requests : List (Request ω)}
    (hquiet : ∀ r ∈ requests, r.Quiet core) :
    (l.serveAll requests).Engages i core ∧
      core (l.serveAll requests).outside = i.playing (core l.outside) (l.allPieces requests) := by
  induction requests generalizing l with
  | nil => exact ⟨hl, (i.playing_nil (core l.outside)).symm⟩
  | cons r rest ih =>
    obtain ⟨hserved, hran⟩ := hl.serve (hquiet r (List.mem_cons_self ..))
    obtain ⟨hafter, hrest⟩ := ih hserved fun r' hr' => hquiet r' (List.mem_cons_of_mem _ hr')
    rw [Life.serveAll, allPieces, i.playing_append, ← hran]
    exact ⟨hafter, hrest⟩

end Life

end ContentPlayer
