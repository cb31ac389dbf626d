import ContentPlayer.Bootstrap.Bootstrapper
import ContentPlayer.Domain.Recording
import ContentPlayer.Proofs.Session.Grafting
import Mathlib.Data.Finset.Card

namespace ContentPlayer

variable {ω : Type}

/-- A root scene is the payload of an asset that is marked as root and is offered as the root. -/
def Asset.offersRoot (a : Asset) (candidate : Bool) : Bool :=
  candidate && a.isRootScene && a.type == .scene

theorem Asset.offersRoot_eq (a : Asset) (candidate : Bool) :
    a.offersRoot candidate = (a.rootTemplate? candidate).isSome := by
  unfold offersRoot rootTemplate? Asset.type
  cases a.payload with
  | scene t => cases candidate <;> cases a.isRootScene <;> rfl
  | _ => simp [Payload.type]

namespace World

/-- The objects that are directly on the session's stage. -/
def onStage (world : World ω) : List NodeId :=
  match world.sessionStage? with
  | none => []
  | some (_, s) => s.tree.children s.root

/-- The session names a domain, and a stage with a root and with links that agree, as the links of
every tree do that is built up from nothing. -/
structure Staged (world : World ω) : Prop where
  domain : ∃ d, world.sessionDomain? = some d
  stage : ∃ id s, world.sessionStage? = some (id, s) ∧ s.root < s.tree.size ∧ s.tree.Linked

theorem staged_publish (world : World ω) (d : Domain ω) (info : HostInfo) :
    (world.publish d info).1.Staged where
  domain := by
    refine ⟨(world.domains.length, { d with stage := some world.stages.length }), ?_⟩
    refine sessionDomain?_eq_some.mpr ⟨rfl, ?_⟩
    simp [publish, addDomain, addStage]
  stage := by
    refine ⟨world.stages.length, .attach info.surface, ?_, Nat.zero_lt_one,
      DisplayTree.linked_empty.spawn "stage" 1⟩
    refine sessionStage?_eq_some.mpr ⟨rfl, ?_⟩
    simp [publish, addDomain, addStage, stage?]

theorem Staged.setDomain {world : World ω} (h : world.Staged) (id : DomainId) (d : Domain ω) :
    (world.setDomain id d).Staged := by
  obtain ⟨⟨⟨id', d'⟩, hdomain⟩, hstage⟩ := h
  obtain ⟨hid, hd⟩ := sessionDomain?_eq_some.mp hdomain
  refine ⟨?_, hstage⟩
  by_cases heq : id = id'
  · subst heq
    exact ⟨(id, d), sessionDomain?_setDomain hdomain d⟩
  · refine ⟨(id', d'), sessionDomain?_eq_some.mpr ⟨hid, ?_⟩⟩
    simpa [World.setDomain, List.getElem?_set_ne heq] using hd

end World

/-- A graft puts its content on the session's stage, behind what is there. -/
theorem GraftState.onStage_graft {w w' : ω} {world world' : World ω} {template : Template}
    {content : NodeId} {r : Except DispatchError GraftResult} (hworld : world.Staged)
    (hgraft : idle.graft w world template = (w', world', .grafted content, r)) :
    world'.Staged ∧ world'.onStage = world.onStage ++ [content] := by
  obtain ⟨⟨⟨did, d⟩, hdomain⟩, id, s, hstage, hroot, hlinked⟩ := hworld
  obtain ⟨hid, hs⟩ := World.sessionStage?_eq_some.mp hstage
  obtain ⟨hlt, _⟩ := List.getElem?_eq_some_iff.mp hs
  rw [graft_eq w hdomain hstage] at hgraft
  cases hgraft
  obtain ⟨hext, _⟩ :=
    s.extends_graft (fun w => d.construct w) w template world.session.loader hroot
  have hlinked' := s.linked_graft (fun w => d.construct w) w hlinked template world.session.loader
  have hchildren :=
    s.children_graft (fun w => d.construct w) w hlinked hroot template world.session.loader
  generalize s.graft (fun w => d.construct w) w template world.session.loader = g at *
  have hafter : ({ world.setStage id g.2.1 with
      session := { world.session with constructorsAllowed := true } } : World ω).sessionStage? =
      some (id, g.2.1) := by
    refine World.sessionStage?_eq_some.mpr ⟨hid, ?_⟩
    simp [World.setStage, World.stage?, hlt]
  refine ⟨⟨⟨(did, d), hdomain⟩, id, g.2.1, hafter, ?_, hlinked'⟩, ?_⟩
  · rw [hext.root_eq]
    exact Nat.lt_of_lt_of_le hroot hext.tree.size_le
  · simp only [World.onStage, hafter, hstage]
    rw [hext.root_eq]
    exact hchildren

/-- A dispatch through one of the dispatchers. -/
structure Dispatch where
  dispatcher : Nat
  asset : Asset
  candidate : Bool

def Dispatch.offersRoot (c : Dispatch) : Bool := c.asset.offersRoot c.candidate

/-- Dispatchers of one session, by number. Each knows only what it has grafted itself. -/
structure Dispatchers (ω : Type) where
  outside : ω
  world : World ω
  graft : Nat → GraftState

/-- A dispatch, and what came of it. -/
structure Dispatched (ω : Type) where
  before : Dispatchers ω
  call : Dispatch
  after : Dispatchers ω
  reply : Except DispatchError DispatchOutcome

namespace Dispatched

def grafted? (t : Dispatched ω) : Option NodeId :=
  match t.reply with
  | .ok (.rootGrafted content _) => some content
  | _ => none

/-- A dispatch that changes nothing, but for what is registered in the session's domain. -/
def Quiet (t : Dispatched ω) : Prop :=
  ∃ id d registries, t.before.world.sessionDomain? = some (id, d) ∧
    t.after = { t.before with world := t.before.world.setDomain id { d with registries } }

/-- The scene is registered, and nothing else happens. -/
def Duplicate (t : Dispatched ω) : Prop :=
  t.reply = .ok (.registered .definitions true) ∧ t.Quiet

/-- What comes of a dispatch: the state of the one dispatcher decides. -/
inductive Served (t : Dispatched ω) : Prop where
  | routed (hoffers : t.call.offersRoot = false) (hnone : t.grafted? = none) (hquiet : t.Quiet)
  | duplicate (hoffers : t.call.offersRoot = true)
      (hbusy : t.before.graft t.call.dispatcher ≠ .idle) (hduplicate : t.Duplicate)
  | grafted (content : NodeId) (hoffers : t.call.offersRoot = true)
      (hidle : t.before.graft t.call.dispatcher = .idle) (hgrafted : t.grafted? = some content)
      (hgraft : t.after.graft =
        Function.update t.before.graft t.call.dispatcher (.grafted content))
      (hstage : t.after.world.onStage = t.before.world.onStage ++ [content])

variable {t : Dispatched ω}

theorem Quiet.graft_eq (ht : t.Quiet) : t.after.graft = t.before.graft := by
  obtain ⟨id, d, registries, _, hafter⟩ := ht
  rw [hafter]

theorem Quiet.onStage_eq (ht : t.Quiet) : t.after.world.onStage = t.before.world.onStage := by
  obtain ⟨id, d, registries, _, hafter⟩ := ht
  rw [hafter]
  rfl

theorem Duplicate.grafted?_eq_none (ht : t.Duplicate) : t.grafted? = none := by
  rw [grafted?, ht.1]

theorem Served.onStage_eq (ht : t.Served) :
    t.after.world.onStage = t.before.world.onStage ++ t.grafted?.toList := by
  cases ht with
  | routed _ hnone hquiet => simp [hnone, hquiet.onStage_eq]
  | duplicate _ _ hduplicate =>
    simp [hduplicate.grafted?_eq_none, hduplicate.2.onStage_eq]
  | grafted content _ _ hgrafted _ hstage => simp [hgrafted, hstage]

theorem Served.duplicate_of_none (ht : t.Served) (hoffers : t.call.offersRoot = true)
    (hnone : t.grafted? = none) : t.Duplicate := by
  cases ht with
  | routed hno => simp [hno] at hoffers
  | duplicate _ _ hduplicate => exact hduplicate
  | grafted content _ _ hsome => simp [hnone] at hsome

end Dispatched

/-- The dispatchers through which a root scene is offered. -/
def offering (calls : List Dispatch) : Finset Nat :=
  ((calls.filter Dispatch.offersRoot).map Dispatch.dispatcher).toFinset

theorem offering_cons (c : Dispatch) (calls : List Dispatch) :
    offering (c :: calls) =
      if c.offersRoot then insert c.dispatcher (offering calls) else offering calls := by
  rw [offering, List.filter_cons]
  split <;> simp [offering]

theorem mem_offering {calls : List Dispatch} {k : Nat} :
    k ∈ offering calls ↔ ∃ c ∈ calls, c.offersRoot = true ∧ c.dispatcher = k := by
  simp [offering, and_assoc]

namespace Dispatchers

/-- Dispatchers through which nothing has been dispatched. -/
def ofWorld (w : ω) (world : World ω) : Dispatchers ω := ⟨w, world, fun _ => .idle⟩

def act (s : Dispatchers ω) (c : Dispatch) : Dispatched ω :=
  let (outside, world, graft, reply) :=
    (s.graft c.dispatcher).dispatch s.outside s.world c.asset c.candidate
  ⟨s, c, ⟨outside, world, Function.update s.graft c.dispatcher graft⟩, reply⟩

def run (s : Dispatchers ω) (calls : List Dispatch) : Dispatchers ω :=
  calls.foldl (fun s c => (s.act c).after) s

def acts (s : Dispatchers ω) : List Dispatch → List (Dispatched ω)
  | [] => []
  | c :: rest => s.act c :: (s.act c).after.acts rest

variable {s : Dispatchers ω}

@[simp] theorem act_before (s : Dispatchers ω) (c : Dispatch) : (s.act c).before = s := rfl

@[simp] theorem act_call (s : Dispatchers ω) (c : Dispatch) : (s.act c).call = c := rfl

theorem act_eq {c : Dispatch} {w : ω} {world : World ω} {graft : GraftState}
    {r : Except DispatchError DispatchOutcome}
    (hdispatch : (s.graft c.dispatcher).dispatch s.outside s.world c.asset c.candidate =
      (w, world, graft, r)) :
    s.act c = ⟨s, c, ⟨w, world, Function.update s.graft c.dispatcher graft⟩, r⟩ := by
  simp only [act, hdispatch]

theorem served_act (hs : s.world.Staged) (c : Dispatch) :
    (s.act c).after.world.Staged ∧ (s.act c).Served := by
  obtain ⟨⟨id, d⟩, hdomain⟩ := hs.domain
  have hset := hs.setDomain id (d.taking c.asset s.world.session.loader)
  have hoffers := c.asset.offersRoot_eq c.candidate
  cases hroot : c.asset.rootTemplate? c.candidate with
  | none =>
    rw [hroot] at hoffers
    have hact := act_eq (GraftState.dispatch_of_no_root s.outside hdomain hroot _)
    rw [Function.update_eq_self] at hact
    rw [hact]
    refine ⟨hset, .routed hoffers ?_ ⟨id, d, _, hdomain, rfl⟩⟩
    unfold Dispatched.grafted?
    split
    next content report heq =>
      have haccept := Registries.accept_ne_rootGrafted d.registries c.asset.name c.asset.payload
        s.world.session.loader content report
      exact absurd (Except.ok.inj heq) haccept
    next => rfl
  | some template =>
    rw [hroot] at hoffers
    by_cases hidle : s.graft c.dispatcher = .idle
    · obtain ⟨sid, stage, hstage, _⟩ := hset.stage
      obtain ⟨w, world, content, report, hgraft, _⟩ := GraftState.graft_of_idle s.outside
        (World.sessionDomain?_setDomain hdomain _) hstage template
      obtain ⟨hstaged, hchildren⟩ := GraftState.onStage_graft hset hgraft
      rw [← hidle] at hgraft
      rw [act_eq (GraftState.dispatch_of_graft s.outside hdomain hroot hgraft)]
      exact ⟨hstaged, .grafted content hoffers hidle rfl rfl hchildren⟩
    · have hact := act_eq (GraftState.dispatch_of_duplicate s.outside hdomain hroot hidle)
      rw [Function.update_eq_self] at hact
      rw [hact]
      exact ⟨hset, .duplicate hoffers hidle ⟨rfl, id, d, _, hdomain, rfl⟩⟩

theorem served_acts (hs : s.world.Staged) (calls : List Dispatch) :
    ∀ t ∈ s.acts calls, t.Served := by
  induction calls generalizing s with
  | nil => exact fun _ ht => nomatch ht
  | cons c rest ih =>
    obtain ⟨hstaged, hserved⟩ := served_act hs c
    intro t ht
    rcases List.mem_cons.mp ht with rfl | hrest
    · exact hserved
    · exact ih hstaged t hrest

/-- All that dispatches put on the session's stage is what was grafted. -/
theorem onStage_run (hs : s.world.Staged) (calls : List Dispatch) :
    (s.run calls).world.onStage =
      s.world.onStage ++ (s.acts calls).filterMap Dispatched.grafted? := by
  induction calls generalizing s with
  | nil => simp [run, acts]
  | cons c rest ih =>
    obtain ⟨hstaged, hserved⟩ := served_act hs c
    have hrest := ih hstaged
    rw [run] at hrest
    rw [run, List.foldl_cons, hrest, acts, hserved.onStage_eq, List.append_assoc]
    congr 1
    cases hgrafted : (s.act c).grafted? <;> simp [hgrafted]

/-- Each dispatcher that is idle grafts once, if a root scene is offered through it. -/
theorem length_grafted (hs : s.world.Staged) (calls : List Dispatch) :
    ((s.acts calls).filterMap Dispatched.grafted?).length =
      ((offering calls).filter fun k => s.graft k = .idle).card := by
  induction calls generalizing s with
  | nil => rfl
  | cons c rest ih =>
    obtain ⟨hstaged, hserved⟩ := served_act hs c
    have hrest := ih hstaged
    rw [acts, offering_cons]
    cases hserved with
    | routed hoffers hnone hquiet =>
      rw [act_call] at hoffers
      rw [hquiet.graft_eq] at hrest
      rw [List.filterMap_cons_none hnone, hrest, if_neg (by simp [hoffers]), act_before]
    | duplicate hoffers hbusy hduplicate =>
      rw [act_call] at hoffers
      rw [act_call, act_before] at hbusy
      rw [hduplicate.2.graft_eq] at hrest
      rw [List.filterMap_cons_none hduplicate.grafted?_eq_none, hrest, if_pos hoffers,
        Finset.filter_insert, if_neg hbusy, act_before]
    | grafted content hoffers hidle hgrafted hgraft _ =>
      rw [act_call] at hoffers
      rw [act_call, act_before] at hidle hgraft
      -- what is idle afterwards is what was idle, but for this dispatcher
      have hlater : ((offering rest).filter fun k => (s.act c).after.graft k = .idle) =
          ((offering rest).filter fun k => s.graft k = .idle).erase c.dispatcher := by
        ext k
        rw [hgraft]
        by_cases hk : k = c.dispatcher <;> simp [hk]
      rw [List.filterMap_cons_some hgrafted, List.length_cons, hrest, hlater, if_pos hoffers,
        Finset.filter_insert, if_pos hidle, ← Finset.erase_insert_eq_erase]
      exact Finset.card_erase_add_one (Finset.mem_insert_self _ _)

/-- What is promised of a session, whatever its dispatchers: one root scene at most is grafted, one
object at most is put on its stage, and a root scene that is offered later is only registered. -/
structure OneRoot (s : Dispatchers ω) (calls : List Dispatch) : Prop where
  grafted : ((s.acts calls).filterMap Dispatched.grafted?).length ≤ 1
  attached : ∃ content : Option NodeId,
    (s.run calls).world.onStage = s.world.onStage ++ content.toList
  later : ∀ front t rest, s.acts calls = front ++ t :: rest → (∃ u ∈ front, u.grafted? ≠ none) →
    t.call.offersRoot = true → t.Duplicate

theorem oneRoot_iff_length (hs : s.world.Staged) (calls : List Dispatch) :
    s.OneRoot calls ↔ ((s.acts calls).filterMap Dispatched.grafted?).length ≤ 1 := by
  refine ⟨OneRoot.grafted, ?_⟩
  intro hone
  refine ⟨hone, ?_, ?_⟩
  · rw [onStage_run hs]
    obtain hnil | ⟨content, hcontent⟩ := Nat.le_one_iff_eq_zero_or_eq_one.mp hone |>.imp
      List.length_eq_zero_iff.mp List.length_eq_one_iff.mp
    · exact ⟨none, by rw [hnil]; rfl⟩
    · exact ⟨some content, by rw [hcontent]; rfl⟩
  · rintro front t rest hsplit ⟨u, hu, hgrafted⟩ hoffers
    have hserved := served_acts hs calls t (by simp [hsplit])
    refine hserved.duplicate_of_none hoffers ?_
    obtain ⟨content, hcontent⟩ := Option.ne_none_iff_exists'.mp hgrafted
    have hmem : content ∈ front.filterMap Dispatched.grafted? :=
      List.mem_filterMap.mpr ⟨u, hu, hcontent⟩
    have hpos := List.length_pos_of_mem hmem
    by_contra hsome
    obtain ⟨content', hcontent'⟩ := Option.ne_none_iff_exists'.mp hsome
    rw [hsplit, List.filterMap_append, List.filterMap_cons_some hcontent', List.length_append,
      List.length_cons] at hone
    omega

/-- A session has as many root scenes as there are dispatchers through which one was offered, for
each knows only what it has grafted itself. So there is one at most exactly when all root scenes
that are offered go through one dispatcher. -/
theorem one_root_iff (w : ω) {world : World ω} (hworld : world.Staged) (calls : List Dispatch) :
    let s := ofWorld w world
    ((s.acts calls).filterMap Dispatched.grafted?).length = (offering calls).card ∧
    (s.run calls).world.onStage =
      world.onStage ++ (s.acts calls).filterMap Dispatched.grafted? ∧
    (∀ t ∈ s.acts calls, t.grafted? = none → t.call.offersRoot = true → t.Duplicate) ∧
    (s.OneRoot calls ↔ ∀ c ∈ calls, ∀ c' ∈ calls, c.offersRoot = true → c'.offersRoot = true →
      c.dispatcher = c'.dispatcher) := by
  intro s
  have hcount : ((s.acts calls).filterMap Dispatched.grafted?).length = (offering calls).card := by
    rw [length_grafted hworld, Finset.filter_true_of_mem]
    intro k _
    rfl
  refine ⟨hcount, onStage_run hworld calls, ?_, ?_⟩
  · intro t ht hnone hoffers
    exact (served_acts hworld calls t ht).duplicate_of_none hoffers hnone
  · rw [oneRoot_iff_length hworld, hcount, Finset.card_le_one]
    constructor
    · intro hone c hc c' hc' hoffers hoffers'
      exact hone _ (mem_offering.mpr ⟨c, hc, hoffers, rfl⟩) _
        (mem_offering.mpr ⟨c', hc', hoffers', rfl⟩)
    · intro hone k hk k' hk'
      obtain ⟨c, hc, hoffers, rfl⟩ := mem_offering.mp hk
      obtain ⟨c', hc', hoffers', rfl⟩ := mem_offering.mp hk'
      exact hone c hc c' hc' hoffers hoffers'

/-- A session that has just been published, to which nothing outside matters. -/
def justPublished : World Unit :=
  (World.publish {} { executor := .recording fun _ w => w, version := 10 }
    ⟨"file:///movie.swf", 10, { viewport := ⟨550, 400⟩ }⟩).1

/-- A movie that is offered as the root through a dispatcher. -/
def movieThrough (dispatcher : Nat) : Dispatch :=
  { dispatcher
    asset := { name := "movie", payload := .scene ⟨"movie", 1, none, []⟩, isRootScene := true }
    candidate := true }

/-- Three offers through two dispatchers are two root scenes. -/
theorem one_root_iff_published :
    let calls := [movieThrough 0, movieThrough 1, movieThrough 0]
    let s := ofWorld () justPublished
    justPublished.Staged ∧ ((s.acts calls).filterMap Dispatched.grafted?).length = 2 ∧
      (s.run calls).world.onStage = [1, 2] := by
  intro calls s
  have hstaged : justPublished.Staged := World.staged_publish {} _ _
  obtain ⟨hcount, hstage, _⟩ := one_root_iff () hstaged calls
  have hcard : (offering calls).card = 2 := by decide
  have hgrafted : (s.acts calls).filterMap Dispatched.grafted? = [1, 2] := by decide
  refine ⟨hstaged, hcount.trans hcard, ?_⟩
  rw [hstage, hgrafted]
  decide

/-- Two dispatchers of one session put a root scene each on its stage. -/
theorem two_roots_through_two :
    let calls := [movieThrough 0, movieThrough 1]
    let s := ofWorld () justPublished
    justPublished.Staged ∧ (s.acts calls).filterMap Dispatched.grafted? = [1, 2] ∧
      (s.run calls).world.onStage = [1, 2] ∧ ¬ s.OneRoot calls := by
  intro calls s
  have hgrafted : (s.acts calls).filterMap Dispatched.grafted? = [1, 2] := by decide
  refine ⟨World.staged_publish {} _ _, hgrafted, by decide, ?_⟩
  intro hone
  have htwo := hone.grafted
  rw [hgrafted] at htwo
  exact absurd htwo (by decide)

end Dispatchers

end ContentPlayer
