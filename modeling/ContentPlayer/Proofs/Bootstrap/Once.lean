import ContentPlayer.Proofs.Bootstrap.Watch

namespace ContentPlayer

variable {ω : Type}

namespace Bootstrapper

/-- What happens around one bootstrapper: a call of it is begun, a call goes on after a suspension,
or others act. -/
inductive Event (ω : Type) where
  | begin (info : HostInfo) (flags : LibraryFlags)
  | resume (call : Nat)
  | others (f : Interlude ω)

/-- A call that has been begun, whether it found the session ready, and how far it has come. -/
structure Begun (ω : Type) where
  flags : LibraryFlags
  ready : Bool
  progress : Progress ω Factory

/-- The calls of one bootstrapper in the order in which they were begun, and what can be seen of
them, each entry under the number of its call. -/
structure Calls (ω : Type) where
  outside : ω
  world : World ω
  bootstrapper : Bootstrapper ω
  begun : List (Begun ω) := []
  log : List (Nat × Visible) := []

/-- A call carries the builtin library and found that the session was not ready. -/
def Begun.eligible (call : Begun ω) : Bool := call.flags.contains .builtin && !call.ready

/-- A bootstrapper whose executor has been taken. -/
def spent (b : Bootstrapper ω) : Bootstrapper ω := { b with executor := none }

namespace Calls

/-- The call that may do something: the first one that is eligible. -/
def chosen? (c : Calls ω) : Option Nat := c.begun.findIdx? Begun.eligible

/-- An event. What can be seen of it is what the noted bootstrapper notes. -/
def step (c : Calls ω) : Event ω → Calls ω
  | .begin info flags =>
    let (w, world, b, progress) := c.bootstrapper.start c.outside c.world info flags
    let notes := (c.bootstrapper.noted.start (c.outside, []) c.world.noted info flags).1.2
    { outside := w
      world
      bootstrapper := b
      begun := c.begun ++ [⟨flags, c.world.session.isReady, progress⟩]
      log := c.log ++ notes.map (c.begun.length, ·) }
  | .resume call =>
    match c.begun[call]? with
    | some ⟨flags, ready, .waiting a⟩ =>
      let (w, world, progress) := c.bootstrapper.resume c.outside c.world a
      let notes := (c.bootstrapper.noted.resume (c.outside, []) c.world.noted a.noted).1.2
      { c with
        outside := w
        world
        begun := c.begun.set call ⟨flags, ready, progress⟩
        log := c.log ++ notes.map (call, ·) }
    | _ => c
  | .others f =>
    let (w, world) := f (c.outside, c.world)
    { c with outside := w, world }

def run (c : Calls ω) (events : List (Event ω)) : Calls ω := events.foldl step c

variable {c : Calls ω} {info : HostInfo} {flags : LibraryFlags}

theorem chosen?_concat (begun : List (Begun ω)) (call : Begun ω) :
    (begun ++ [call]).findIdx? Begun.eligible =
      (begun.findIdx? Begun.eligible).or (if call.eligible then some begun.length else none) := by
  rw [List.findIdx?_append]
  cases h : call.eligible <;> simp [List.findIdx?_cons, h]

/-- How far a call has come does not matter for which one is chosen. -/
theorem chosen?_set {begun : List (Begun ω)} {i : Nat} {flags : LibraryFlags} {ready : Bool}
    {progress : Progress ω Factory} (hi : begun[i]? = some ⟨flags, ready, progress⟩)
    (progress' : Progress ω Factory) :
    (begun.set i ⟨flags, ready, progress'⟩).findIdx? Begun.eligible =
      begun.findIdx? Begun.eligible := by
  have hmap : (begun.set i ⟨flags, ready, progress'⟩).map Begun.eligible =
      begun.map Begun.eligible := by
    refine List.ext_getElem? fun j => ?_
    obtain rfl | hne := eq_or_ne i j
    · obtain ⟨hlt, heq⟩ := List.getElem?_eq_some_iff.mp hi
      simp [hlt, heq, Begun.eligible]
    · simp [hne]
  have hmap := congrArg (List.findIdx? id) hmap
  simpa only [List.findIdx?_map, Function.id_comp] using hmap

theorem step_of_refused (hrefused : c.bootstrapper.attempt? c.world info flags = none) :
    c.step (.begin info flags) =
      { c with
        begun := c.begun ++ [⟨flags, c.world.session.isReady,
          .ended (.error (refusal c.world.session flags))⟩] } := by
  have hnoted := c.bootstrapper.attempt?_noted c.world info flags
  rw [hrefused] at hnoted
  simp [step, start_of_refused _ hrefused, start_of_refused _ hnoted]

theorem step_of_attempt {a : Attempt ω}
    (ha : c.bootstrapper.attempt? c.world info flags = some a) :
    c.step (.begin info flags) =
      { outside := (c.bootstrapper.resume c.outside c.world a).1
        world := (c.bootstrapper.resume c.outside c.world a).2.1
        bootstrapper := c.bootstrapper.spent
        begun := c.begun ++ [⟨flags, c.world.session.isReady,
          (c.bootstrapper.resume c.outside c.world a).2.2⟩]
        log := c.log ++ (c.bootstrapper.noted.start (c.outside, []) c.world.noted info
          flags).1.2.map (c.begun.length, ·) } := by
  simp only [step, start_of_attempt _ ha, spent]

/-- Everything that has been seen is of the chosen call, all other calls were refused, and the
bootstrapper is as it was made until there is a chosen call. -/
structure Once (fresh : Bootstrapper ω) (c : Calls ω) : Prop where
  seen : ∀ entry ∈ c.log, c.chosen? = some entry.1
  refused : ∀ i call, c.begun[i]? = some call → c.chosen? ≠ some i →
    ∃ reason, call.progress = .ended (.error (.invariantViolation reason))
  bootstrapper_eq : c.bootstrapper = if c.chosen?.isSome then fresh.spent else fresh

variable {fresh : Bootstrapper ω} {x : Executor ω}

/-- A call is refused after the chosen one, and without the builtin library, and where the session
is ready. -/
theorem Once.attempt?_eq_none_iff (hc : Once fresh c) (hfresh : fresh.executor = some x) :
    c.bootstrapper.attempt? c.world info flags = none ↔
      c.chosen?.isSome = true ∨ flags.contains .builtin = false ∨
        c.world.session.isReady = true := by
  rw [hc.bootstrapper_eq, attempt?]
  cases c.chosen? <;> cases flags.contains .builtin <;> cases c.world.session.isReady <;>
    simp [hfresh, spent]

theorem of_getElem?_concat {begun : List (Begun ω)} {new call : Begun ω} {i : Nat}
    (h : (begun ++ [new])[i]? = some call) :
    begun[i]? = some call ∨ i = begun.length ∧ call = new := by
  rw [List.getElem?_append] at h
  split at h
  next => exact .inl h
  next hle =>
    obtain ⟨hlt, heq⟩ := List.getElem?_eq_some_iff.mp h
    rw [List.length_singleton] at hlt
    exact .inr ⟨by omega, by simpa using heq.symm⟩

theorem Once.begin_refused (hc : Once fresh c) (hfresh : fresh.executor = some x)
    (hrefused : c.bootstrapper.attempt? c.world info flags = none) :
    Once fresh (c.step (.begin info flags)) := by
  have hchosen : (c.step (.begin info flags)).chosen? = c.chosen? := by
    rw [step_of_refused hrefused, chosen?, chosen?_concat, ← chosen?]
    obtain h | h | h := (hc.attempt?_eq_none_iff hfresh).mp hrefused
    · rw [Option.or_of_isSome h]
    · simp [Begun.eligible, h]
    · simp [Begun.eligible, h]
  refine ⟨?_, ?_, ?_⟩
  · rw [hchosen, step_of_refused hrefused]
    exact hc.seen
  · rw [hchosen, step_of_refused hrefused]
    intro i call hcall hi
    obtain hcall | ⟨-, rfl⟩ := of_getElem?_concat hcall
    · exact hc.refused i call hcall hi
    · obtain ⟨reason, hreason⟩ := refusal_eq_violation c.world.session flags
      exact ⟨reason, by rw [hreason]⟩
  · rw [hchosen, step_of_refused hrefused]
    exact hc.bootstrapper_eq

theorem Once.chosen?_of_admitted (hc : Once fresh c) (hfresh : fresh.executor = some x)
    {a : Attempt ω} (ha : c.bootstrapper.attempt? c.world info flags = some a) :
    c.chosen? = none ∧ (c.step (.begin info flags)).chosen? = some c.begun.length := by
  have hadmitted : ¬ c.bootstrapper.attempt? c.world info flags = none := by simp [ha]
  rw [hc.attempt?_eq_none_iff hfresh] at hadmitted
  simp only [not_or, Bool.not_eq_true, Bool.not_eq_false, Option.isSome_eq_false_iff,
    Option.isNone_iff_eq_none] at hadmitted
  obtain ⟨hnone, hflags, hready⟩ := hadmitted
  refine ⟨hnone, ?_⟩
  rw [chosen?] at hnone
  simp only [Calls.step, chosen?, chosen?_concat, hnone, Begun.eligible, hflags, hready]
  rfl

theorem Once.begin_admitted (hc : Once fresh c) (hfresh : fresh.executor = some x) {a : Attempt ω}
    (ha : c.bootstrapper.attempt? c.world info flags = some a) :
    Once fresh (c.step (.begin info flags)) := by
  obtain ⟨hnone, hchosen⟩ := hc.chosen?_of_admitted hfresh ha
  have hlog : c.log = [] := by
    refine List.eq_nil_iff_forall_not_mem.mpr fun entry hentry => ?_
    simpa [hnone] using hc.seen entry hentry
  refine ⟨?_, ?_, ?_⟩
  · intro entry hentry
    rw [hchosen]
    simp only [step, hlog, List.nil_append, List.mem_map] at hentry
    obtain ⟨v, -, rfl⟩ := hentry
    rfl
  · intro i call hcall hi
    obtain hcall | ⟨rfl, -⟩ := of_getElem?_concat hcall
    · exact hc.refused i call hcall (by simp [hnone])
    · exact absurd hchosen hi
  · have hb := hc.bootstrapper_eq
    rw [hnone] at hb
    rw [hchosen, step_of_attempt ha]
    exact congrArg spent hb

theorem Once.resume (hc : Once fresh c) (call : Nat) : Once fresh (c.step (.resume call)) := by
  simp only [Calls.step]
  split
  next flags ready a hwaiting =>
    have hchosen : c.chosen? = some call := by
      by_contra hne
      obtain ⟨reason, hrefused⟩ := hc.refused call _ hwaiting hne
      cases hrefused
    have hset :=
      (chosen?_set hwaiting (c.bootstrapper.resume c.outside c.world a).2.2).trans hchosen
    refine ⟨?_, ?_, ?_⟩
    · intro entry hentry
      refine hset.trans ?_
      obtain hentry | hentry := List.mem_append.mp hentry
      · exact hchosen ▸ hc.seen entry hentry
      · obtain ⟨v, -, rfl⟩ := List.mem_map.mp hentry
        rfl
    · intro i other hother hi
      have hne : call ≠ i := fun heq => hi (heq ▸ hset)
      rw [List.getElem?_set_ne hne] at hother
      exact hc.refused i other hother (by simpa [hchosen] using hne)
    · have hb := hc.bootstrapper_eq
      rw [hchosen] at hb
      rw [chosen?, hset]
      exact hb
  next => exact hc

theorem Once.step (hc : Once fresh c) (hfresh : fresh.executor = some x) (event : Event ω) :
    Once fresh (c.step event) := by
  cases event with
  | begin info flags =>
    cases ha : c.bootstrapper.attempt? c.world info flags with
    | none => exact hc.begin_refused hfresh ha
    | some a => exact hc.begin_admitted hfresh ha
  | resume call => exact hc.resume call
  | others f => exact ⟨hc.seen, hc.refused, hc.bootstrapper_eq⟩

theorem Once.run (hc : Once fresh c) (hfresh : fresh.executor = some x) (events : List (Event ω)) :
    Once fresh (c.run events) := by
  induction events generalizing c with
  | nil => exact hc
  | cons event rest ih => exact ih (hc.step hfresh event)

/-- One bootstrapper bootstraps at most once, however its calls and the others take turns. All that
is ever requested, answered or executed is of the chosen call: the first that carries the builtin
library and finds the session not ready. Every other one is refused at once and changes nothing. A
call that is refused before the chosen one leaves the bootstrapper as it was made; with the chosen
one the executor is gone, whatever comes of it. -/
theorem run_once (h : Host ω) (config : BootstrapConfig) (x : Executor ω) (w : ω) (world : World ω)
    (events : List (Event ω)) :
    let fresh : Bootstrapper ω := ⟨h, config, some x⟩
    let c := run ⟨w, world, fresh, [], []⟩ events
    (∀ entry ∈ c.log, c.chosen? = some entry.1) ∧
    (∀ i call, c.begun[i]? = some call → c.chosen? ≠ some i →
      ∃ reason, call.progress = .ended (.error (.invariantViolation reason))) ∧
    (∀ i, c.chosen? ≠ some i → c.step (.resume i) = c) ∧
    c.bootstrapper = (if c.chosen?.isSome then fresh.spent else fresh) ∧
    ∀ info flags,
      (c.chosen?.isSome = true ∨ flags.contains .builtin = false ∨ c.world.session.isReady = true →
        ∃ reason, c.step (.begin info flags) =
          { c with
            begun := c.begun ++ [⟨flags, c.world.session.isReady,
              .ended (.error (.invariantViolation reason))⟩] }) ∧
      (c.chosen? = none → flags.contains .builtin = true → c.world.session.isReady = false →
        let c' := c.step (.begin info flags)
        c'.chosen? = some c.begun.length ∧
          ∃ progress, fresh.resume c.outside c.world ⟨info, flags, config, .baseline x .unasked⟩ =
            (c'.outside, c'.world, progress) ∧
          c'.begun = c.begun ++ [⟨flags, false, progress⟩]) := by
  intro fresh c
  have hnew : Once fresh ⟨w, world, fresh, [], []⟩ :=
    ⟨fun _ hentry => (nomatch hentry), fun _ _ hcall => (nomatch hcall), rfl⟩
  have hc : Once fresh c := hnew.run rfl events
  refine ⟨hc.seen, hc.refused, ?_, hc.bootstrapper_eq, fun info flags => ⟨?_, ?_⟩⟩
  · intro i hi
    simp only [step]
    split
    next flags ready a hwaiting =>
      obtain ⟨reason, hrefused⟩ := hc.refused i _ hwaiting hi
      cases hrefused
    next => rfl
  · intro hrefused
    obtain ⟨reason, hreason⟩ := refusal_eq_violation c.world.session flags
    refine ⟨reason, ?_⟩
    rw [step_of_refused ((hc.attempt?_eq_none_iff rfl).mpr hrefused), hreason]
  · intro hnone hflags hready c'
    have hb : c.bootstrapper = fresh := by simpa [hnone] using hc.bootstrapper_eq
    have ha : c.bootstrapper.attempt? c.world info flags =
        some ⟨info, flags, config, .baseline x .unasked⟩ :=
      attempt?_eq_some.mpr ⟨hflags, hready, x, by rw [hb], by rw [hb]⟩
    refine ⟨(hc.chosen?_of_admitted rfl ha).2,
      (fresh.resume c.outside c.world ⟨info, flags, config, .baseline x .unasked⟩).2.2, ?_⟩
    simp only [c', step_of_attempt ha, hb, hready, and_self]

/-- A call without the builtin library, one that bootstraps, and one that comes too late: everything
that is seen, a request, its answer and a module's loading and execution, is of the second. -/
example :
    let info : HostInfo := ⟨"file:///movie.swf", 10, { viewport := ⟨550, 400⟩ }⟩
    let c := run ⟨0, {}, ⟨.ticking 3 none, {}, some .willing⟩, [], []⟩
      [.begin info .none, .begin info .builtin, .begin info .builtin,
        .others fun (now, world) => (now + 3, world), .resume 2, .resume 1]
    c.chosen? = some 1 ∧ c.log.map Prod.fst = [1, 1, 1, 1] := ⟨rfl, rfl⟩

end Calls

end Bootstrapper

end ContentPlayer
