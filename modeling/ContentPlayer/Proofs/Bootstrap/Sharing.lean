import ContentPlayer.Proofs.Bootstrap.Watch
import Mathlib.Logic.Function.Basic

namespace ContentPlayer

variable {ω : Type}

/-- A call that goes on publishes the domain that it has made, or leaves the world alone. -/
theorem Bootstrapper.resume_publishes (b : Bootstrapper ω) (w : ω) (world : World ω)
    (a : Attempt ω) :
    (∃ d, (b.resume w world a).2 =
        ((world.publish d a.info).1, .ended (.ok (some (world.publish d a.info).2)))) ∨
      (∀ d, (a.poll b.host w).2 ≠ .ended (.ok (some d))) ∧
        (∀ f, (b.resume w world a).2.2 ≠ .ended (.ok (some f))) ∧
        (b.resume w world a).2.1 = world := by
  unfold resume
  generalize a.poll b.host w = polled
  obtain ⟨w', progress⟩ := polled
  match progress with
  | .waiting a' => exact .inr ⟨nofun, nofun, rfl⟩
  | .ended (.error e) => exact .inr ⟨nofun, nofun, rfl⟩
  | .ended (.ok none) => exact .inr ⟨nofun, nofun, rfl⟩
  | .ended (.ok (some d)) => exact .inl ⟨d, rfl⟩

/-- Bootstrappers of one session, by number, and the calls that were begun of them: each with the
number of its bootstrapper, and how far it has come. -/
structure Sharing (ω : Type) where
  outside : ω
  world : World ω
  bootstrappers : Nat → Bootstrapper ω
  calls : List (Nat × Progress ω Factory) := []

namespace Sharing

/-- What happens around the bootstrappers: a call of one of them is begun, a call goes on after a
suspension, or something happens outside. -/
inductive Event (ω : Type) where
  | begin (bootstrapper : Nat) (info : HostInfo) (flags : LibraryFlags)
  | resume (call : Nat)
  | elapse (f : ω → ω)

/-- An event, with the call that has come on by it, and how far. -/
structure Turn (ω : Type) where
  before : Sharing ω
  event : Event ω
  after : Sharing ω
  came : Option (Nat × Progress ω Factory)

/-- What an event leaves, and how far it has taken which call. -/
def step (s : Sharing ω) : Event ω → Sharing ω × Option (Nat × Progress ω Factory)
  | .begin k info flags =>
    let (outside, world, b, progress) := (s.bootstrappers k).start s.outside s.world info flags
    (⟨outside, world, Function.update s.bootstrappers k b, s.calls ++ [(k, progress)]⟩,
      some (s.calls.length, progress))
  | .resume i =>
    match s.calls[i]? with
    | some (k, .waiting a) =>
      let (outside, world, progress) := (s.bootstrappers k).resume s.outside s.world a
      ({ s with outside, world, calls := s.calls.set i (k, progress) }, some (i, progress))
    | _ => (s, none)
  | .elapse f => ({ s with outside := f s.outside }, none)

def act (s : Sharing ω) (e : Event ω) : Turn ω := ⟨s, e, (s.step e).1, (s.step e).2⟩

def turns (s : Sharing ω) : List (Event ω) → List (Turn ω)
  | [] => []
  | e :: rest => s.act e :: (s.act e).after.turns rest

def Waits (s : Sharing ω) (i : Nat) : Prop := ∃ k a, s.calls[i]? = some (k, .waiting a)

namespace Turn

/-- The call that has given back a factory, and the factory. -/
def published? (t : Turn ω) : Option (Nat × Factory) :=
  match t.came with
  | some (i, .ended (.ok (some f))) => some (i, f)
  | _ => none

def Begins (t : Turn ω) : Prop := ∃ k info flags, t.event = .begin k info flags

/-- The attempt of a call that goes on has made its domain, which is yet to be published. -/
def Arrives (t : Turn ω) : Prop :=
  ∃ i k a d, t.event = .resume i ∧ t.before.calls[i]? = some (k, .waiting a) ∧
    (a.poll (t.before.bootstrappers k).host t.before.outside).2 = .ended (.ok (some d))

def Refused (t : Turn ω) : Prop :=
  ∃ i reason, t.came = some (i, .ended (.error (.invariantViolation reason)))

/-- What comes of an event: the world is left alone, or a domain is published. No call that is begun
with a session that is ready waits or publishes. -/
inductive Went (t : Turn ω) : Prop where
  | kept (hnone : t.published? = none) (hworld : t.after.world = t.before.world)
      (harrives : ¬ t.Arrives)
      (hwaits : t.before.world.session.isReady = true → ∀ j, t.after.Waits j → t.before.Waits j)
  | published (i : Nat) (f : Factory) (d : Domain ω) (info : HostInfo)
      (hsome : t.published? = some (i, f))
      (hworld : t.before.world.publish d info = (t.after.world, f))
      (hwaited : t.before.world.session.isReady = true → t.before.Waits i)
      (hwaits : ∀ j, t.after.Waits j → t.before.Waits j)

end Turn

variable {s : Sharing ω} {k : Nat} {info : HostInfo} {flags : LibraryFlags}

/-- A call that is over as soon as it is begun does not wait. -/
theorem waits_of_begun {w : ω} {world : World ω} {bootstrappers : Nat → Bootstrapper ω} {j : Nat}
    {r : Except BootstrapError (Option Factory)}
    (h : Waits ⟨w, world, bootstrappers, s.calls ++ [(k, .ended r)]⟩ j) : s.Waits j := by
  obtain ⟨k', a, hj⟩ := h
  rw [List.getElem?_append] at hj
  split at hj
  next => exact ⟨k', a, hj⟩
  next =>
    have hmem := List.mem_of_getElem? hj
    simp at hmem

/-- A call that waits after another has gone on has waited before. -/
theorem waits_of_resumed {w : ω} {world : World ω} {bootstrappers : Nat → Bootstrapper ω}
    {i j : Nat} {progress : Progress ω Factory} (hi : s.Waits i)
    (h : Waits ⟨w, world, bootstrappers, s.calls.set i (k, progress)⟩ j) : s.Waits j := by
  by_cases hij : i = j
  · exact hij ▸ hi
  · obtain ⟨k', a, hj⟩ := h
    rw [List.getElem?_set_ne hij] at hj
    exact ⟨k', a, hj⟩

theorem step_of_refused (hrefused : (s.bootstrappers k).attempt? s.world info flags = none) :
    s.step (.begin k info flags) =
      let refused : Progress ω Factory :=
        .ended (.error (Bootstrapper.refusal s.world.session flags))
      ({ s with calls := s.calls ++ [(k, refused)] }, some (s.calls.length, refused)) := by
  simp only [step, Bootstrapper.start_of_refused _ hrefused, Function.update_eq_self]

theorem step_of_attempt {a : Attempt ω}
    (ha : (s.bootstrappers k).attempt? s.world info flags = some a) :
    s.step (.begin k info flags) =
      let went := (s.bootstrappers k).resume s.outside s.world a
      let taken := { s.bootstrappers k with executor := none }
      (⟨went.1, went.2.1, Function.update s.bootstrappers k taken, s.calls ++ [(k, went.2.2)]⟩,
        some (s.calls.length, went.2.2)) := by
  simp only [step, Bootstrapper.start_of_attempt _ ha]

theorem step_of_waiting {i : Nat} {a : Attempt ω} (hi : s.calls[i]? = some (k, .waiting a)) :
    s.step (.resume i) =
      let went := (s.bootstrappers k).resume s.outside s.world a
      ({ s with outside := went.1, world := went.2.1, calls := s.calls.set i (k, went.2.2) },
        some (i, went.2.2)) := by
  simp only [step, hi]

theorem step_of_not_waiting {i : Nat} (hi : ¬ s.Waits i) : s.step (.resume i) = (s, none) := by
  rw [step]
  split
  next k' a heq => exact absurd ⟨k', a, heq⟩ hi
  next => rfl

theorem not_arrives_of_begin {t : Turn ω} (ht : t.event = .begin k info flags) : ¬ t.Arrives := by
  rintro ⟨i, k', a, d, hevent, _⟩
  rw [ht] at hevent
  cases hevent

theorem Turn.published?_eq_none {t : Turn ω} {i : Nat} {progress : Progress ω Factory}
    (hcame : t.came = some (i, progress)) (hnone : ∀ f, progress ≠ .ended (.ok (some f))) :
    t.published? = none := by
  unfold published?
  split
  next heq =>
    rw [hcame] at heq
    cases heq
    exact absurd rfl (hnone _)
  next => rfl

theorem went_begin (s : Sharing ω) (k : Nat) (info : HostInfo) (flags : LibraryFlags) :
    (s.act (.begin k info flags)).Went := by
  cases ha : (s.bootstrappers k).attempt? s.world info flags with
  | none =>
    rw [act, step_of_refused ha]
    exact .kept rfl rfl (not_arrives_of_begin rfl) fun _ j => waits_of_begun
  | some a =>
    obtain ⟨-, hready, -⟩ := Bootstrapper.attempt?_eq_some.mp ha
    have hnot : s.world.session.isReady ≠ true := by simp [hready]
    rw [act, step_of_attempt ha]
    obtain ⟨d, hresume⟩ | ⟨-, hnone, hworld⟩ :=
      (s.bootstrappers k).resume_publishes s.outside s.world a
    · simp only [hresume]
      refine .published s.calls.length _ d a.info rfl rfl ?_ ?_
      · intro h
        exact absurd h hnot
      · intro j
        exact waits_of_begun
    · refine .kept (Turn.published?_eq_none rfl hnone) hworld (not_arrives_of_begin rfl) ?_
      intro h
      exact absurd h hnot

theorem went_resume (s : Sharing ω) (i : Nat) : (s.act (.resume i)).Went := by
  by_cases hi : s.Waits i
  · obtain ⟨k, a, hcall⟩ := hi
    have hi : s.Waits i := ⟨k, a, hcall⟩
    rw [act, step_of_waiting hcall]
    obtain ⟨d, hresume⟩ | ⟨hends, hnone, hworld⟩ :=
      (s.bootstrappers k).resume_publishes s.outside s.world a
    · simp only [hresume]
      exact .published i _ d a.info rfl rfl (fun _ => hi) fun j => waits_of_resumed hi
    · refine .kept (Turn.published?_eq_none rfl hnone) hworld ?_ fun _ j => waits_of_resumed hi
      rintro ⟨i', k', a', d, hevent, hcall', hpoll⟩
      cases hevent
      rw [hcall] at hcall'
      cases hcall'
      exact hends d hpoll
  · rw [act, step_of_not_waiting hi]
    refine .kept rfl rfl ?_ fun _ _ hj => hj
    rintro ⟨i', k', a', d, hevent, hcall, _⟩
    cases hevent
    exact hi ⟨k', a', hcall⟩

theorem went_act (s : Sharing ω) (e : Event ω) : (s.act e).Went := by
  cases e with
  | begin k info flags => exact s.went_begin k info flags
  | resume i => exact s.went_resume i
  | elapse f =>
    refine .kept rfl rfl ?_ fun _ _ hj => hj
    rintro ⟨i, k', a, d, hevent, _⟩
    cases hevent

theorem exists_act_of_mem {t : Turn ω} {events : List (Event ω)} (ht : t ∈ s.turns events) :
    ∃ s' e, t = act s' e := by
  induction events generalizing s with
  | nil => cases ht
  | cons e rest ih =>
    rcases List.mem_cons.mp ht with rfl | hrest
    · exact ⟨s, e, rfl⟩
    · exact ih hrest

theorem isReady_of_publish {world world' : World ω} {d : Domain ω} {f : Factory}
    (h : world.publish d info = (world', f)) : world'.session.isReady = true := by
  obtain rfl : (world.publish d info).1 = world' := congrArg Prod.fst h
  rfl

theorem Turn.Went.isReady {t : Turn ω} (ht : t.Went)
    (hready : t.before.world.session.isReady = true) :
    t.after.world.session.isReady = true := by
  cases ht with
  | kept _ hworld =>
    rw [hworld]
    exact hready
  | published i f d info _ hworld =>
    exact isReady_of_publish hworld

/-- Once the session is ready, only a call that waits can still publish. -/
theorem waits_of_published (hready : s.world.session.isReady = true) (events : List (Event ω)) :
    ∀ u ∈ s.turns events, ∀ j g, u.published? = some (j, g) → s.Waits j := by
  induction events generalizing s with
  | nil => exact fun _ hu => nomatch hu
  | cons e rest ih =>
    have hwent := s.went_act e
    have hrest := ih (hwent.isReady hready)
    intro u hu j g hpublished
    rcases List.mem_cons.mp hu with rfl | hlater
    · cases hwent with
      | kept hnone =>
        rw [hnone] at hpublished
        cases hpublished
      | published i f _ _ hsome _ hwaited =>
        rw [hsome] at hpublished
        cases hpublished
        exact hwaited hready
    · have hj := hrest u hlater j g hpublished
      cases hwent with
      | kept _ _ _ hwaits => exact hwaits hready j hj
      | published _ _ _ _ _ _ _ hwaits => exact hwaits j hj

/-- What is promised of a session, whatever its bootstrappers: one call at most publishes a domain,
what was published stays, and any other call that would publish is refused. -/
structure PublishedOnce (turns : List (Turn ω)) : Prop where
  one : (turns.filterMap Turn.published?).length ≤ 1
  kept : ∀ t ∈ turns, t.before.world.session.isReady = true →
    t.after.world.session = t.before.world.session
  refused : ∀ t ∈ turns, t.before.world.session.isReady = true → t.Begins ∨ t.Arrives → t.Refused

/-- No call that waits while another publishes goes on to publish. -/
def NoneOvertaken (turns : List (Turn ω)) : Prop :=
  turns.Pairwise fun t u =>
    t.published? ≠ none → ∀ j g, u.published? = some (j, g) → ¬ t.before.Waits j

theorem length_filterMap_le_one_iff {α β : Type} (f : α → Option β) (l : List α) :
    (l.filterMap f).length ≤ 1 ↔ l.Pairwise fun a b => f a ≠ none → f b = none := by
  induction l with
  | nil => simp
  | cons a l ih =>
    rw [List.pairwise_cons]
    cases ha : f a with
    | none => simp [ha, ih]
    | some b =>
      have hnil : (l.filterMap f).length = 0 ↔ ∀ x ∈ l, f x = none := by
        rw [List.length_eq_zero_iff, List.filterMap_eq_nil_iff]
      rw [List.filterMap_cons_some ha, List.length_cons, ← ih]
      constructor
      · intro h
        exact ⟨fun x hx _ => hnil.mp (by omega) x hx, by omega⟩
      · rintro ⟨hl, _⟩
        have hzero := hnil.mpr fun x hx => hl x hx (Option.some_ne_none b)
        omega

theorem noneOvertaken_iff (events : List (Event ω)) :
    NoneOvertaken (s.turns events) ↔
      ((s.turns events).filterMap Turn.published?).length ≤ 1 := by
  rw [length_filterMap_le_one_iff, NoneOvertaken]
  induction events generalizing s with
  | nil => simp [turns]
  | cons e rest ih =>
    rw [turns, List.pairwise_cons, List.pairwise_cons, ih]
    refine and_congr_left fun _ => ?_
    constructor
    · intro hnone u hu hsome
      cases s.went_act e with
      | kept hkept => exact absurd hkept hsome
      | published i f d info _ hworld _ hwaits =>
        have hready : (s.act e).after.world.session.isReady = true := isReady_of_publish hworld
        rw [Option.eq_none_iff_forall_ne_some]
        rintro ⟨j, g⟩ hpublished
        have hj := waits_of_published hready rest u hu j g hpublished
        exact hnone u hu hsome j g hpublished (hwaits j hj)
    · intro hone u hu hsome j g hpublished
      rw [hone u hu hsome] at hpublished
      cases hpublished

/-- Where one domain is published at most, none is while the session is ready. -/
theorem published?_eq_none_of_ready (hs : s.world.session.isReady = true → ∀ j, ¬ s.Waits j)
    {events : List (Event ω)}
    (hone : ((s.turns events).filterMap Turn.published?).length ≤ 1) :
    ∀ t ∈ s.turns events, t.before.world.session.isReady = true → t.published? = none := by
  rw [length_filterMap_le_one_iff] at hone
  induction events generalizing s with
  | nil => exact fun _ ht => nomatch ht
  | cons e rest ih =>
    obtain ⟨hhead, htail⟩ := List.pairwise_cons.mp hone
    intro t ht hready
    cases s.went_act e with
    | kept hnone hworld _ hwaits =>
      rcases List.mem_cons.mp ht with rfl | hrest
      · exact hnone
      · refine ih ?_ htail t hrest hready
        rw [hworld]
        intro hready' j hj
        exact hs hready' j (hwaits hready' j hj)
    | published i f _ _ hsome _ hwaited =>
      rcases List.mem_cons.mp ht with rfl | hrest
      · exact absurd (hwaited hready) (hs hready i)
      · exact hhead t hrest (by simp [hsome])

/-- A call that is begun when the session is ready is refused, and changes nothing. -/
theorem refused_of_begins {t : Turn ω} {events : List (Event ω)} (ht : t ∈ s.turns events)
    (hready : t.before.world.session.isReady = true) (hbegins : t.Begins) :
    t.Refused ∧ ∃ call, t.after = { t.before with calls := t.before.calls ++ [call] } := by
  obtain ⟨s', e, rfl⟩ := exists_act_of_mem ht
  obtain ⟨k, info, flags, rfl⟩ := hbegins
  have hrefused : (s'.bootstrappers k).attempt? s'.world info flags = none := by
    have hready : s'.world.session.isReady = true := hready
    simp [Bootstrapper.attempt?, hready]
  obtain ⟨reason, hreason⟩ := Bootstrapper.refusal_eq_violation s'.world.session flags
  rw [act, step_of_refused hrefused, hreason]
  exact ⟨⟨_, reason, rfl⟩, _, rfl⟩

/-- A session is asked whether it is ready when a call is begun, and not when the call publishes.
So the promise is kept exactly when no call waits while another publishes and then publishes as
well; a call that is begun later is refused and changes nothing. -/
theorem published_once_iff (w : ω) (world : World ω) (bootstrappers : Nat → Bootstrapper ω)
    (events : List (Event ω)) :
    let s : Sharing ω := ⟨w, world, bootstrappers, []⟩
    let turns := s.turns events
    (∀ t ∈ turns, ∀ i f, t.published? = some (i, f) →
      ∃ d info, t.before.world.publish d info = (t.after.world, f)) ∧
    (∀ t ∈ turns, t.published? = none → t.after.world = t.before.world) ∧
    (∀ t ∈ turns, t.before.world.session.isReady = true → t.Begins →
      t.Refused ∧ ∃ call, t.after = { t.before with calls := t.before.calls ++ [call] }) ∧
    (PublishedOnce turns ↔ NoneOvertaken turns) := by
  intro s turns
  have hwent : ∀ t ∈ turns, t.Went := by
    intro t ht
    obtain ⟨s', e, rfl⟩ := exists_act_of_mem ht
    exact s'.went_act e
  have hnew : s.world.session.isReady = true → ∀ j, ¬ s.Waits j := by
    rintro _ j ⟨k, a, hj⟩
    cases hj
  refine ⟨?_, ?_, ?_, ?_⟩
  · intro t ht i f hpublished
    cases hwent t ht with
    | kept hnone =>
      rw [hnone] at hpublished
      cases hpublished
    | published _ _ d info hsome hworld =>
      rw [hsome] at hpublished
      cases hpublished
      exact ⟨d, info, hworld⟩
  · intro t ht hnone
    cases hwent t ht with
    | kept _ hworld => exact hworld
    | published _ _ _ _ hsome =>
      rw [hsome] at hnone
      cases hnone
  · exact fun t ht hready hbegins => refused_of_begins ht hready hbegins
  · rw [noneOvertaken_iff]
    refine ⟨PublishedOnce.one, ?_⟩
    intro hone
    have hnone := published?_eq_none_of_ready hnew hone
    refine ⟨hone, ?_, ?_⟩
    · intro t ht hready
      cases hwent t ht with
      | kept _ hworld => rw [hworld]
      | published _ _ _ _ hsome => simp [hnone t ht hready] at hsome
    · rintro t ht hready (hbegins | harrives)
      · exact (refused_of_begins ht hready hbegins).1
      · cases hwent t ht with
        | kept _ _ hnot => exact absurd harrives hnot
        | published _ _ _ _ hsome => simp [hnone t ht hready] at hsome

/-- Two bootstrappers of one session, whose calls wait three times side by side. -/
def sideBySide : List (Turn Nat) :=
  let host (url : String) : HostInfo := ⟨url, 10, { viewport := ⟨550, 400⟩ }⟩
  let tick : List (Event Nat) := [.elapse (· + 1), .resume 0, .resume 1]
  turns ⟨0, {}, fun _ => ⟨.ticking 1 none, {}, some .willing⟩, []⟩
    ([.begin 0 (host "first") (.builtin ||| .playerglobal),
      .begin 1 (host "second") (.builtin ||| .playerglobal)] ++ tick ++ tick ++ tick)

/-- Both publish, the second over what the first has published. -/
theorem published_twice :
    sideBySide.filterMap Turn.published? = [(0, ⟨0⟩), (1, ⟨1⟩)] ∧
      sideBySide.getLast?.map (·.before.world.session.loader) = some (some ⟨"first", 10⟩) ∧
      sideBySide.getLast?.map (·.after.world.session.loader) = some (some ⟨"second", 10⟩) ∧
      ¬ PublishedOnce sideBySide := by
  have htwice : sideBySide.filterMap Turn.published? = [(0, ⟨0⟩), (1, ⟨1⟩)] := by decide +kernel
  refine ⟨htwice, by decide +kernel, by decide +kernel, ?_⟩
  intro honce
  have hone := honce.one
  rw [htwice] at hone
  exact absurd hone (by decide)

end Sharing

end ContentPlayer
