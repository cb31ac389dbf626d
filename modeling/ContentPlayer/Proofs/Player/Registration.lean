import ContentPlayer.Proofs.Bootstrap.Serving
import ContentPlayer.Proofs.Domain.Registration
import ContentPlayer.Proofs.Player.Slots
import ContentPlayer.Proofs.Session.Registration

namespace ContentPlayer

variable {ω : Type}

/-- Where the content of a bootstrap comes from. -/
def HostInfo.loader (info : HostInfo) : LoaderInfo := ⟨info.url, info.version⟩

namespace Turn

def asset? (t : Turn ω) : Option Asset :=
  match t.step with
  | .dispatch asset _ => some asset
  | _ => none

/-- The turn in which the session gets its domain. -/
def Publishes (t : Turn ω) : Prop :=
  t.before.player.world.session.isReady = false ∧ t.after.player.world.session.isReady = true

/-- What a bootstrap is told that begins with this turn, and does not fail at once. -/
def begun? (t : Turn ω) : Option HostInfo :=
  match t.step with
  | .start info flags =>
    match (t.before.player.start t.before.outside info flags).2.2 with
    | .ended (.error _) => none
    | _ => some info
  | _ => none

theorem begun?_eq_none {t : Turn ω} (hstep : ∀ info flags, t.step ≠ .start info flags) :
    t.begun? = none := by
  unfold begun?
  split
  next info flags heq => exact absurd heq (hstep info flags)
  next => rfl

theorem findSome?_begun_concat (earlier : List (Turn ω)) (t : Turn ω) :
    (earlier ++ [t]).findSome? begun? = (earlier.findSome? begun?).or t.begun? := by
  simp [List.findSome?_append]

end Turn

namespace Life

variable {l : Life ω} {x : Publication} {earlier : List (Turn ω)}

def registries (l : Life ω) : Registries := l.player.world.registries

section Unpublished

variable (hl : l.Unpublished)

include hl

theorem Unpublished.isReady_eq : l.player.world.session.isReady = false := by
  rw [hl.player.session_eq]
  rfl

theorem Unpublished.registries_eq : l.registries = {} := by
  simp [registries, World.registries, hl.player.sessionDomain?_eq]

end Unpublished

theorem Unpublished.not_publishes {t : Turn ω} (ht : t.after.Unpublished) : ¬ t.Publishes := by
  intro hpublishes
  have hready := hpublishes.2
  rw [ht.isReady_eq] at hready
  cases hready

section Published

variable (hl : l.Published x)

include hl

theorem Published.isReady_eq : l.player.world.session.isReady = true := by
  have hdomain : l.player.world.session.domain = some x.domain :=
    congrArg Slots.domain hl.player.slots_eq
  simp [Session.isReady, hdomain]

/-- What is no dispatch changes no registry. -/
theorem Published.sameRegistries {s : Step ω} (hs : (l.turn s).asset? = none) :
    l.player.world.SameRegistries (l.turn s).after.player.world := by
  cases s with
  | start info flags =>
    rcases Player.start_cases l.outside l.player info flags with ⟨e, hstart⟩ | ⟨_, hthere, _⟩
    · rw [turn, act_start_of_error hstart]
      exact .refl _
    · rw [hl.player.executor_eq] at hthere
      cases hthere
  | resume =>
    simp only [turn, Life.act, hl.attempt_eq]
    exact .refl _
  | abandon => exact .refl _
  | dispatch asset candidate => cases hs
  | enterFrame => exact l.player.world.sameRegistries_enterFrame
  | resize => exact l.player.world.sameRegistries_resize
  | createInstance name =>
    rw [turn, Life.act]
    split
    next => exact .refl _
    next f _ => exact World.sameRegistries_createInstance l.outside l.player.world f name
  | createSprite name =>
    rw [turn, Life.act]
    split
    next => exact .refl _
    next f _ => exact World.sameRegistries_createSprite l.player.world f name
  | viewport v =>
    rw [turn, Life.act]
    split
    next => exact .refl _
    next id s _ => exact l.player.world.sameRegistries_setStage id (s.setViewport v)
  | elapse f => exact .refl _

theorem Published.registries_dispatch (asset : Asset) (candidate : Bool) :
    (l.turn (.dispatch asset candidate)).after.registries =
      (l.registries.accept asset.name asset.payload (some x.loader)).1 := by
  obtain ⟨d, hdomain⟩ := hl.player.sessionDomain?
  obtain ⟨s, hstage, _⟩ := hl.player.sessionStage?
  have hloader : l.player.world.session.loader = some x.loader :=
    congrArg Slots.loader hl.player.slots_eq
  have hafter := GraftState.sessionDomain?_dispatch l.outside hdomain hstage l.player.graft asset
    candidate
  rw [← hloader, registries, registries, World.registries_of_sessionDomain? hdomain]
  exact World.registries_of_sessionDomain? hafter

/-- The registries hold what was dispatched, and one more asset after a dispatch. -/
theorem Published.hold_turn {assets : List Asset}
    (hold : l.registries.Hold assets (some x.loader)) (s : Step ω) :
    (l.turn s).after.registries.Hold (assets ++ (l.turn s).asset?.toList) (some x.loader) := by
  by_cases hdispatch : ∃ asset candidate, s = .dispatch asset candidate
  · obtain ⟨asset, candidate, rfl⟩ := hdispatch
    rw [hl.registries_dispatch]
    exact hold.accept asset
  · have hnone : (l.turn s).asset? = none := by
      cases s with
      | dispatch asset candidate => exact absurd ⟨asset, candidate, rfl⟩ hdispatch
      | _ => rfl
    rw [hnone, Option.toList_none, List.append_nil, registries,
      (hl.sameRegistries hnone).registries_eq]
    exact hold

theorem Published.hold_run {assets : List Asset}
    (hold : l.registries.Hold assets (some x.loader)) (steps : List (Step ω)) :
    (l.run steps).registries.Hold (assets ++ (l.turns steps).filterMap Turn.asset?)
      (some x.loader) := by
  induction steps generalizing l assets with
  | nil => simpa [turns, Life.run] using hold
  | cons s rest ih =>
    have hafter := ih (hl.act s) (hl.hold_turn hold s)
    have hassets : ((l.turn s) :: (l.turn s).after.turns rest).filterMap Turn.asset? =
        (l.turn s).asset?.toList ++ ((l.turn s).after.turns rest).filterMap Turn.asset? := by
      cases hasset : (l.turn s).asset? <;> simp [hasset]
    rw [turns, hassets, ← List.append_assoc]
    exact hafter

end Published

/-- A life that is not published after some turns. A bootstrap that waits is the first that began,
and as long as the executor is there none has begun. -/
structure Waits (earlier : List (Turn ω)) (l : Life ω) : Prop extends Unpublished l where
  begun : l.player.bootstrapper.executor ≠ none → earlier.findSome? Turn.begun? = none
  serves : ∀ a, l.attempt = some a →
    ∃ info, earlier.findSome? Turn.begun? = some info ∧ a.Serves info

/-- A turn that ends the first bootstrap begun, with a domain in which nothing is registered. -/
structure Concludes (earlier : List (Turn ω)) (t : Turn ω) (info : HostInfo) (x : Publication) :
    Prop where
  publishes : t.Publishes
  begun : (earlier ++ [t]).findSome? Turn.begun? = some info
  after : t.after.Published x
  loader_eq : x.loader = info.loader
  registries_eq : t.after.registries = {}

/-- What a bootstrap leaves that has gone on: it waits or has failed, or a domain is published in
which nothing is registered. -/
inductive Resumed (info : HostInfo) (after : Life ω) (progress : Progress ω Factory) : Prop where
  | unpublished (hafter : after.Unpublished) (hexecutor : after.player.bootstrapper.executor = none)
      (hwaiting : ∀ a, after.attempt = some a → progress = .waiting a ∧ a.Serves info)
  | published {f : Factory} {x : Publication} (hprogress : progress = .ended (.ok (some f)))
      (hafter : after.Published x) (hloader : x.loader = info.loader)
      (hregistries : after.registries = {})

theorem Unpublished.resumed (hl : l.Unpublished)
    (hexecutor : l.player.bootstrapper.executor = none) {a : Attempt ω} {info : HostInfo}
    (ha : a.Serves info) :
    let r := l.player.resume l.outside a
    Resumed info ⟨r.1, r.2.1, r.2.2.attempt?⟩ r.2.2 := by
  intro r
  rcases hl.resume hexecutor a with ⟨hafter, hsame⟩ | ⟨d, f, x, hpoll, hresume, hafter⟩
  · refine .unpublished hafter ?_ ?_
    · simpa only [r, hsame] using hexecutor
    · intro a' hattempt
      have hprogress := Progress.attempt?_eq_some.mp hattempt
      exact ⟨hprogress,
        l.player.bootstrapper.resume_serves ha hprogress⟩
  · have hd : d.Serves info := by
      have hserves := Attempt.poll_serves (h := l.player.bootstrapper.host) l.outside ha
      rw [hpoll] at hserves
      exact hserves d rfl
    have hplayer : r.2.1 = l.player.publishing d info := by
      simp only [r, hresume, ha.info_eq]
    refine .published (congrArg Prod.snd hresume) hafter ?_ ?_
    · have hloader := congrArg Slots.loader hafter.player.slots_eq
      rw [hplayer] at hloader
      exact (Option.some.inj hloader).symm
    · rw [registries, hplayer, Player.publishing, World.registries_publish, hd.registries_eq]

/-- A bootstrap that has gone on is the first that began, or has failed at once. -/
theorem Resumed.turn {t : Turn ω} {info : HostInfo} {progress : Progress ω Factory}
    (h : Resumed info t.after progress) (hbefore : t.before.Unpublished)
    (hbegun : (∀ e, progress ≠ .ended (.error e)) →
      (earlier ++ [t]).findSome? Turn.begun? = some info) :
    t.after.Waits (earlier ++ [t]) ∨ ∃ info x, Concludes earlier t info x := by
  cases h with
  | unpublished hafter hexecutor hwaiting =>
    refine .inl ⟨hafter, fun hthere => absurd hexecutor hthere, ?_⟩
    intro a ha
    obtain ⟨hprogress, hserves⟩ := hwaiting a ha
    exact ⟨info, hbegun (by simp [hprogress]), hserves⟩
  | @published f x hprogress hafter hloader hregistries =>
    exact .inr ⟨info, x, ⟨hbefore.isReady_eq, hafter.isReady_eq⟩, hbegun (by simp [hprogress]),
      hafter, hloader, hregistries⟩

section Waits

variable (hl : l.Waits earlier)

include hl

/-- A turn in which no bootstrap begins or goes on. -/
theorem Waits.still {t : Turn ω} (hbegun : t.begun? = none) (hplayer : t.after.player = l.player)
    (hattempt : t.after.attempt = l.attempt ∨ t.after.attempt = none) :
    t.after.Waits (earlier ++ [t]) := by
  have hsame : (earlier ++ [t]).findSome? Turn.begun? = earlier.findSome? Turn.begun? := by
    rw [Turn.findSome?_begun_concat, hbegun, Option.or_none]
  have hkept : ∀ a, t.after.attempt = some a → l.attempt = some a := by
    intro a ha
    rcases hattempt with hold | hnone
    · rwa [← hold]
    · rw [hnone] at ha
      cases ha
  refine ⟨⟨by rw [hplayer]; exact hl.player, ?_⟩, ?_, ?_⟩
  · intro hwaiting
    obtain ⟨a, ha⟩ := Option.ne_none_iff_exists'.mp hwaiting
    rw [hplayer]
    exact hl.executor_eq (by simp [hkept a ha])
  · rw [hplayer, hsame]
    exact hl.begun
  · intro a ha
    rw [hsame]
    exact hl.serves a (hkept a ha)

/-- A turn leaves the life waiting, or concludes. -/
theorem Waits.turn (s : Step ω) :
    (l.turn s).after.Waits (earlier ++ [l.turn s]) ∨
      ∃ info x, Concludes earlier (l.turn s) info x := by
  rcases hl.act_cases s with ⟨info, flags, rfl⟩ | rfl | ⟨hs, hplayer, hattempt⟩
  · rcases Player.start_cases l.outside l.player info flags with ⟨e, hstart⟩ | ⟨x, hthere, hstart⟩
    · have hafter : (l.turn (.start info flags)).after = l := act_start_of_error hstart
      refine .inl (hl.still ?_ (congrArg player hafter) (.inl (congrArg attempt hafter)))
      simp [Life.turn, Turn.begun?, hstart]
    · -- it is the first that begins, because the executor is there
      have hfirst := hl.begun (by simp [hthere])
      obtain ⟨hattempt, htaken⟩ := hl.taken hthere
      have ha : (l.player.firstAttempt info flags x).Serves info :=
        Attempt.serves_unasked info flags _ x
      have hresumed : Resumed info (l.turn (.start info flags)).after
          (l.player.start l.outside info flags).2.2 := by
        simpa only [Life.turn, act, hstart, hattempt, Option.or_none] using htaken.resumed rfl ha
      refine hresumed.turn hl.toUnpublished ?_
      intro hgoes
      rw [Turn.findSome?_begun_concat, hfirst, Option.none_or]
      simp only [Turn.begun?, Life.turn]
  · cases hattempt : l.attempt with
    | none =>
      have hafter : (l.turn .resume).after = l := by simp [Life.turn, act, hattempt]
      exact .inl (hl.still rfl (congrArg player hafter) (.inl (congrArg attempt hafter)))
    | some a =>
      obtain ⟨info, hbegun, ha⟩ := hl.serves a hattempt
      have htaken := hl.executor_eq (by simp [hattempt])
      have hresumed : Resumed info (l.turn .resume).after
          (l.player.resume l.outside a).2.2 := by
        simpa only [Life.turn, act, hattempt] using hl.resumed htaken ha
      refine hresumed.turn hl.toUnpublished fun _ => ?_
      rw [Turn.findSome?_begun_concat, hbegun, Option.some_or]
  · exact .inl (hl.still (Turn.begun?_eq_none hs) hplayer hattempt)

end Waits

theorem Waits.run (hl : l.Waits earlier) (steps : List (Step ω)) :
    (l.run steps).Waits (earlier ++ l.turns steps) ∨
      (∃ t ∈ l.turns steps, t.Publishes) ∧ ∃ x, (l.run steps).Published x := by
  induction steps generalizing l earlier with
  | nil =>
    rw [turns, List.append_nil]
    exact .inl hl
  | cons s rest ih =>
    rw [turns]
    rcases hl.turn s with hafter | ⟨info, x, hconcludes⟩
    · rcases ih hafter with hwaits | ⟨⟨t, ht, hpublishes⟩, hpublished⟩
      · rw [List.append_assoc] at hwaits
        exact .inl hwaits
      · exact .inr ⟨⟨t, List.mem_cons_of_mem _ ht, hpublishes⟩, hpublished⟩
    · exact .inr ⟨⟨_, List.mem_cons_self, hconcludes.publishes⟩, x, hconcludes.after.run rest⟩

/-- The registries hold what was dispatched since the session got its domain, by the latest asset of
each name, with the loading of the bootstrap that made the domain. Nothing but such a dispatch
changes them. -/
theorem registries_hold (w : ω) (host : Host ω) (config : BootstrapConfig) (executor : Executor ω)
    (steps : List (Step ω)) :
    let l := ofParts w host config executor
    let turns := l.turns steps
    let registries := (l.run steps).registries
    ((∀ t ∈ turns, ¬ t.Publishes) → registries.Hold [] none) ∧
    (∀ front t rest, turns = front ++ t :: rest → t.Publishes →
      ∃ info, (front ++ [t]).findSome? Turn.begun? = some info ∧
        registries.Hold (rest.filterMap Turn.asset?) (some info.loader)) ∧
    ∀ t ∈ turns, t.asset? = none ∨ t.before.player.world.session.isReady = false →
      t.after.registries = t.before.registries := by
  intro l turns registries
  have hfirst : l.Waits [] := ⟨⟨⟨rfl, rfl, rfl⟩, fun h => (h rfl).elim⟩, fun _ => rfl, nofun⟩
  refine ⟨?_, ?_, ?_⟩
  · intro hnone
    rcases hfirst.run steps with hwaits | ⟨⟨t, ht, hpublishes⟩, _⟩
    · have hempty : registries = {} := hwaits.registries_eq
      rw [hempty]
      exact Registries.hold_empty none
    · exact absurd hpublishes (hnone t ht)
  · intro front t rest hsplit hpublishes
    obtain ⟨before, s, after, hsteps, rfl, rfl, rfl⟩ := turns_eq_append_cons hsplit
    rcases hfirst.run before with hwaits | ⟨_, x, hpublished⟩
    · rcases hwaits.turn s with hafter | ⟨info, x, hconcludes⟩
      · exact absurd hpublishes hafter.not_publishes
      · have hempty : ((l.run before).turn s).after.registries.Hold [] (some x.loader) := by
          rw [hconcludes.registries_eq]
          exact Registries.hold_empty _
        have hold := hconcludes.after.hold_run hempty after
        rw [hconcludes.loader_eq] at hold
        have hrun : l.run steps = ((l.run before).turn s).after.run after := by
          rw [hsteps, run_append]
          rfl
        have hregistries : registries = (((l.run before).turn s).after.run after).registries :=
          congrArg Life.registries hrun
        rw [hregistries]
        exact ⟨info, hconcludes.begun, hold⟩
    · -- the session had its domain before this turn
      have hready := hpublishes.1
      rw [turn_before, hpublished.isReady_eq] at hready
      cases hready
  · intro t ht hquiet
    obtain ⟨front, rest, hsplit⟩ := List.append_of_mem ht
    obtain ⟨before, s, after, _, _, rfl, _⟩ := turns_eq_append_cons hsplit
    rcases hfirst.run before with hwaits | ⟨_, x, hpublished⟩
    · have hafter : ((l.run before).turn s).after.registries = {} := by
        rcases hwaits.turn s with hafter | ⟨_, _, hconcludes⟩
        · exact hafter.registries_eq
        · exact hconcludes.registries_eq
      exact hafter.trans hwaits.registries_eq.symm
    · rcases hquiet with hnone | hready
      · exact (hpublished.sameRegistries hnone).registries_eq
      · rw [turn_before, hpublished.isReady_eq] at hready
        cases hready

/-- What comes before the domain is lost, and of two assets of one name in one registry the later
stays. -/
example :
    let text (s : String) : Asset := { name := "a", payload := .text { text := s } }
    let sound : Asset := { name := "a", payload := .audio { sampleRate := 44100, channels := 2 } }
    let info : HostInfo := ⟨"file:///movie.swf", 10, { viewport := ⟨550, 400⟩ }⟩
    let r := ((ofParts 0 (.ticking 0 none) {} .willing).run
      [.dispatch sound false, .start info (.builtin ||| .playerglobal), .dispatch (text "old") true,
        .enterFrame, .dispatch (text "new") false, .createInstance "a"]).registries
    r.held? .audio "a" = none ∧
      r.held? .definitions "a" = some ((text "new").payload, some ⟨"file:///movie.swf", 10⟩) :=
  ⟨rfl, rfl⟩

end Life

end ContentPlayer
