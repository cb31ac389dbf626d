import ContentPlayer.Proofs.Bootstrap.Scripted

namespace ContentPlayer

variable {ω σ τ : Type}

section Lift

/-! Attempts whose executors are replaced, and hosts that know more of the outside than others. -/

def Domain.lift (L : Executor ω → Executor σ) (d : Domain ω) : Domain σ where
  executor := L d.executor
  version := d.version
  modules := d.modules
  executed := d.executed
  registries := d.registries
  catalog := d.catalog
  resolved := d.resolved
  stage := d.stage

def Phase.lift (L : Executor ω → Executor σ) : Phase ω → Phase σ
  | .baseline x builtin => .baseline (L x) builtin
  | .catalog d code index => .catalog (d.lift L) code index
  | .shell d f => .shell (d.lift L) f

def Attempt.lift (L : Executor ω → Executor σ) (a : Attempt ω) : Attempt σ :=
  ⟨a.info, a.flags, a.config, a.phase.lift L⟩

def Progress.lift (L : Executor ω → Executor σ) : Progress ω (Domain ω) → Progress σ (Domain σ)
  | .waiting a => .waiting (a.lift L)
  | .ended r => .ended (r.map (Option.map (Domain.lift L)))

/-- Two hosts that do the same; `f` forgets what only the first one keeps. -/
structure Host.Over (f : σ → τ) (h : Host σ) (k : Host τ) : Prop where
  request : ∀ s r, k.fetcher.request (f s) r =
    (f (h.fetcher.request s r).1, (h.fetcher.request s r).2)
  poll : ∀ s ticket, k.fetcher.poll (f s) ticket =
    (f (h.fetcher.poll s ticket).1, (h.fetcher.poll s ticket).2)
  cancelled : ∀ s, k.cancelled (f s) = h.cancelled s
  now : ∀ s, k.now (f s) = h.now s

structure Executor.Over (f : σ → τ) (x : Executor σ) (y : Executor τ) : Prop where
  load : ∀ s id code origin, y.load (f s) id code origin =
    (f (x.load s id code origin).1, (x.load s id code origin).2)
  execute : ∀ s m, y.execute (f s) m = (f (x.execute s m).1, (x.execute s m).2)

/-- Two results that differ in their executors only, and in what is kept outside. -/
def Alike {α β γ : Type} (f : σ → τ) (L : α → β) (K : α → γ) (p : σ × β) (q : τ × γ) : Prop :=
  ∃ s a, p = (s, L a) ∧ q = (f s, K a)

variable {f : σ → τ} {h : Host σ} {k : Host τ} {L : Executor ω → Executor σ}
  {K : Executor ω → Executor τ}

theorem Host.Over.fetch (hover : h.Over f k) (s : σ) (limit : Option Nat) (stage : BootstrapStage)
    (request : LoadRequest) (fetching : Fetching) :
    ∃ s' r, h.fetch s limit stage request fetching = (s', r) ∧
      k.fetch (f s) limit stage request fetching = (f s', r) := by
  have hawait (s : σ) (ticket : Nat) (deadline : Option Nat) :
      ∃ s' r, h.await s stage request.name ticket deadline = (s', r) ∧
        k.await (f s) stage request.name ticket deadline = (f s', r) := by
    unfold Host.await
    rw [hover.poll]
    obtain ⟨s', answer⟩ := h.fetcher.poll s ticket
    match answer with
    | some (.ok r) => exact ⟨s', _, rfl, rfl⟩
    | some (.error e) => exact ⟨s', _, rfl, rfl⟩
    | none =>
      simp only [hover.now]
      split <;> exact ⟨s', _, rfl, rfl⟩
  cases fetching with
  | arrived r => exact ⟨s, _, rfl, rfl⟩
  | pending ticket deadline =>
    simp only [Host.fetch, hover.cancelled]
    split
    · exact ⟨s, _, rfl, rfl⟩
    · exact hawait s ticket deadline
  | unasked =>
    simp only [Host.fetch, hover.cancelled, hover.request, hover.now]
    split
    · exact ⟨s, _, rfl, rfl⟩
    · exact hawait _ _ _

theorem Domain.loadAndExecute_alike (hover : ∀ x, (L x).Over f (K x)) (s : σ) (d : Domain ω)
    (code : Bytes) (origin : String) :
    Alike f (Prod.map (Domain.lift L) id) (Prod.map (Domain.lift K) id)
      ((d.lift L).loadAndExecute s code origin) ((d.lift K).loadAndExecute (f s) code origin) := by
  have hload := (hover d.executor).load s d.modules.length code origin
  simp only [loadAndExecute_eq, lift, hload]
  obtain ⟨s₁, loaded⟩ := (L d.executor).load s d.modules.length code origin
  cases loaded with
  | error e => exact ⟨s₁, (d, .error e), rfl, rfl⟩
  | ok m =>
    by_cases hnext : d.executed = d.modules.length
    · simp only [if_pos hnext, (hover d.executor).execute]
      obtain ⟨s₂, executed⟩ := (L d.executor).execute s₁ m
      cases executed with
      | error e => exact ⟨s₂, (d, .error e), rfl, rfl⟩
      | ok u =>
        exact ⟨s₂, ({ d with modules := d.modules ++ [m], executed := d.executed + 1 }, .ok _),
          rfl, rfl⟩
    · simp only [if_neg hnext]
      exact ⟨s₁, ({ d with modules := d.modules ++ [m] }, .error _), rfl, rfl⟩

namespace Attempt

theorem runModule_alike (hover : ∀ x, (L x).Over f (K x)) (s : σ) (stage : BootstrapStage)
    (d : Domain ω) (r : Resource) (name origin : String) :
    Alike f (Except.map (Domain.lift L)) (Except.map (Domain.lift K))
      (runModule s stage (d.lift L) r name origin)
      (runModule (f s) stage (d.lift K) r name origin) := by
  unfold runModule
  cases inStage stage .fetch (r.bytes name) with
  | error e => exact ⟨s, .error e, rfl, rfl⟩
  | ok code =>
    obtain ⟨s', ⟨d', result⟩, hL, hK⟩ := Domain.loadAndExecute_alike hover s d code origin
    simp only [hL, hK]
    cases result with
    | error e => exact ⟨s', .error _, rfl, rfl⟩
    | ok id => exact ⟨s', .ok d', rfl, rfl⟩

variable (hh : h.Over f k) (hx : ∀ x, (L x).Over f (K x))

include hh hx

theorem pollShell_alike (s : σ) (a : Attempt ω) (d : Domain ω) (shell : Fetching) :
    Alike f (Progress.lift L) (Progress.lift K)
      ((a.lift L).pollShell h s (d.lift L) shell)
      ((a.lift K).pollShell k (f s) (d.lift K) shell) := by
  obtain ⟨s₁, fetched, hL, hK⟩ :=
    hh.fetch s a.config.limit .shell ⟨a.config.shell, .binary⟩ shell
  simp only [pollShell, lift, hL, hK]
  match fetched with
  | .error e => exact ⟨s₁, .ended (.error e), rfl, rfl⟩
  | .ok .unasked => exact ⟨s₁, .waiting { a with phase := .shell d .unasked }, rfl, rfl⟩
  | .ok (.pending ticket deadline) =>
    exact ⟨s₁, .waiting { a with phase := .shell d (.pending ticket deadline) }, rfl, rfl⟩
  | .ok (.arrived r) =>
    obtain ⟨s₂, result, hL, hK⟩ :=
      runModule_alike hx s₁ .shell d r a.config.shell shellOrigin
    simp only [hL, hK]
    cases result with
    | error e => exact ⟨s₂, .ended (.error e), rfl, rfl⟩
    | ok d' =>
      simp only [Except.map, hh.cancelled]
      split
      · exact ⟨s₂, .ended (.error (.cancelled .finalize)), rfl, rfl⟩
      · exact ⟨s₂, .ended (.ok (some d')), rfl, rfl⟩

theorem pollCatalog_alike (s : σ) (a : Attempt ω) (d : Domain ω) (code index : Fetching) :
    Alike f (Progress.lift L) (Progress.lift K)
      ((a.lift L).pollCatalog h s (d.lift L) code index)
      ((a.lift K).pollCatalog k (f s) (d.lift K) code index) := by
  obtain ⟨s₁, fetched, hL, hK⟩ :=
    hh.fetch s a.config.limit .catalog ⟨a.config.catalog, .binary⟩ code
  have hconfigL : (a.lift L).config = a.config := rfl
  have hconfigK : (a.lift K).config = a.config := rfl
  simp only [pollCatalog, hconfigL, hconfigK, hL, hK]
  cases fetched with
  | error e => exact ⟨s₁, .ended (.error e), rfl, rfl⟩
  | ok code' =>
    obtain ⟨s₂, fetched, hL, hK⟩ :=
      hh.fetch s₁ a.config.limit .catalog ⟨a.config.catalogIndex, .structured⟩ index
    simp only [hL, hK]
    cases fetched with
    | error e => exact ⟨s₂, .ended (.error e), rfl, rfl⟩
    | ok index' =>
      match code', index' with
      | .unasked, _ | .pending _ _, _ | .arrived _, .unasked | .arrived _, .pending _ _ =>
        exact ⟨s₂, .waiting { a with phase := .catalog d _ _ }, rfl, rfl⟩
      | .arrived code, .arrived index =>
        dsimp only
        cases makeCatalog a.config code index with
        | error e => exact ⟨s₂, .ended (.error e), rfl, rfl⟩
        | ok catalog => exact pollShell_alike hh hx s₂ a (d.registerCatalog catalog) .unasked

theorem pollBaseline_alike (s : σ) (a : Attempt ω) (x : Executor ω) (builtin : Fetching) :
    Alike f (Progress.lift L) (Progress.lift K)
      ((a.lift L).pollBaseline h s (L x) builtin)
      ((a.lift K).pollBaseline k (f s) (K x) builtin) := by
  obtain ⟨s₁, fetched, hL, hK⟩ :=
    hh.fetch s a.config.limit .baseline ⟨a.config.builtin, .binary⟩ builtin
  have hconfigL : (a.lift L).config = a.config := rfl
  have hconfigK : (a.lift K).config = a.config := rfl
  simp only [pollBaseline, hconfigL, hconfigK, hL, hK]
  match fetched with
  | .error e => exact ⟨s₁, .ended (.error e), rfl, rfl⟩
  | .ok .unasked => exact ⟨s₁, .waiting { a with phase := .baseline x .unasked }, rfl, rfl⟩
  | .ok (.pending ticket deadline) =>
    exact ⟨s₁, .waiting { a with phase := .baseline x (.pending ticket deadline) }, rfl, rfl⟩
  | .ok (.arrived r) =>
    obtain ⟨s₂, result, hL, hK⟩ := runModule_alike hx s₁ .baseline
      { executor := x, version := a.info.version } r a.config.builtin builtinOrigin
    have hL : runModule s₁ .baseline { executor := L x, version := (a.lift L).info.version } r
      a.config.builtin builtinOrigin = _ := hL
    have hK : runModule (f s₁) .baseline { executor := K x, version := (a.lift K).info.version } r
      a.config.builtin builtinOrigin = _ := hK
    simp only [hL, hK]
    cases result with
    | error e => exact ⟨s₂, .ended (.error e), rfl, rfl⟩
    | ok d =>
      have hflagsL : (a.lift L).flags = a.flags := rfl
      have hflagsK : (a.lift K).flags = a.flags := rfl
      simp only [Except.map, hflagsL, hflagsK]
      split
      · exact pollCatalog_alike hh hx s₂ a d .unasked .unasked
      · exact ⟨s₂, .ended (.ok none), rfl, rfl⟩

/-- What is kept of the outside in addition changes nothing of a step. -/
theorem poll_alike (s : σ) (a : Attempt ω) :
    Alike f (Progress.lift L) (Progress.lift K) ((a.lift L).poll h s)
      ((a.lift K).poll k (f s)) := by
  obtain ⟨info, flags, config, phase⟩ := a
  cases phase with
  | baseline x builtin => exact pollBaseline_alike hh hx s ⟨info, flags, config, _⟩ x builtin
  | catalog d code index => exact pollCatalog_alike hh hx s ⟨info, flags, config, _⟩ d code index
  | shell d shell => exact pollShell_alike hh hx s ⟨info, flags, config, _⟩ d shell

omit hh hx

theorem lift_id (a : Attempt ω) : a.lift id = a := by
  obtain ⟨info, flags, config, phase⟩ := a
  cases phase <;> rfl

theorem lift_noted (a : Attempt ω) : a.lift Executor.noted = a.noted := by
  obtain ⟨info, flags, config, phase⟩ := a
  cases phase <;> rfl

end Attempt

theorem Progress.lift_id (p : Progress ω (Domain ω)) : p.lift id = p := by
  match p with
  | .waiting a => exact congrArg Progress.waiting a.lift_id
  | .ended (.error e) => rfl
  | .ended (.ok none) => rfl
  | .ended (.ok (some d)) => rfl

theorem Progress.lift_noted (p : Progress ω (Domain ω)) :
    p.lift Executor.noted = p.noted Domain.noted := by
  match p with
  | .waiting a => exact congrArg Progress.waiting a.lift_noted
  | .ended (.error e) => rfl
  | .ended (.ok none) => rfl
  | .ended (.ok (some d)) => rfl

end Lift

section Watched

/-- A moment of a call: what has just been seen of it, if anything, and whether it is cancelled
by now. -/
structure Instant where
  seen : Option Visible
  cancelled : Bool

/-- The same host; it writes down every moment in which something is asked of it. -/
def Host.watched (h : Host ω) : Host (ω × List Instant) where
  fetcher :=
    { request := fun s r =>
        let (w, ticket) := h.fetcher.request s.1 r
        ((w, s.2 ++ [⟨some (.request r ticket), h.cancelled w⟩]), ticket)
      poll := fun s ticket =>
        let (w, answer) := h.fetcher.poll s.1 ticket
        ((w, s.2 ++ [⟨answer.map (.answer ticket), h.cancelled w⟩]), answer) }
  cancelled s := h.cancelled s.1
  now s := h.now s.1

def Executor.watched (cancelled : ω → Bool) (x : Executor ω) : Executor (ω × List Instant) where
  load s id code origin :=
    let (w, r) := x.load s.1 id code origin
    ((w, s.2 ++ [⟨some (.call (.load id code origin r)), cancelled w⟩]), r)
  execute s m :=
    let (w, r) := x.execute s.1 m
    ((w, s.2 ++ [⟨some (.call (.execute m r)), cancelled w⟩]), r)
  construct s call :=
    let (w, r) := x.construct s.1 call
    ((w, s.2 ++ [⟨some (.call (.construct call r)), cancelled w⟩]), r)

def seenIn (log : List Instant) : List Visible := log.filterMap Instant.seen

theorem seenIn_concat (log : List Instant) (m : Instant) :
    seenIn (log ++ [m]) = seenIn log ++ m.seen.toList := by
  cases h : m.seen <;> simp [seenIn, h]

theorem Host.watched_over (h : Host ω) : h.watched.Over Prod.fst h :=
  ⟨fun _ _ => rfl, fun _ _ => rfl, fun _ => rfl, fun _ => rfl⟩

theorem Executor.watched_over (cancelled : ω → Bool) (x : Executor ω) :
    (x.watched cancelled).Over Prod.fst x :=
  ⟨fun _ _ _ _ => rfl, fun _ _ => rfl⟩

theorem Host.noted_over (h : Host ω) : h.noted.Over Prod.fst h :=
  ⟨fun _ _ => rfl, fun _ _ => rfl, fun _ => rfl, fun _ => rfl⟩

theorem Executor.noted_over (x : Executor ω) : x.noted.Over Prod.fst x :=
  ⟨fun _ _ _ _ => rfl, fun _ _ => rfl⟩

theorem Host.watched_over_noted (h : Host ω) :
    h.watched.Over (fun s => (s.1, seenIn s.2)) h.noted where
  request s r := by simp [watched, noted, seenIn_concat]
  poll s ticket := by simp [watched, noted, seenIn_concat]
  cancelled _ := rfl
  now _ := rfl

theorem Executor.watched_over_noted (cancelled : ω → Bool) (x : Executor ω) :
    (x.watched cancelled).Over (fun s => (s.1, seenIn s.2)) x.noted where
  load s id code origin := by simp [watched, noted, seenIn_concat]
  execute s m := by simp [watched, noted, seenIn_concat]

namespace Attempt

def watched (h : Host ω) (a : Attempt ω) : Attempt (ω × List Instant) :=
  a.lift (Executor.watched h.cancelled)

/-- What has been written down after a step, with what had been before. -/
def watch (h : Host ω) (log : List Instant) (w : ω) (a : Attempt ω) : List Instant :=
  ((a.watched h).poll h.watched (w, log)).1.2

theorem poll_watched (h : Host ω) (log : List Instant) (w : ω) (a : Attempt ω) :
    (a.watched h).poll h.watched (w, log) =
      (((a.poll h w).1, a.watch h log w),
        (a.poll h w).2.lift (Executor.watched h.cancelled)) := by
  have hpoll := poll_alike (K := id) h.watched_over (Executor.watched_over h.cancelled) (w, log) a
  rw [a.lift_id] at hpoll
  obtain ⟨s, p, hwatched, hbare⟩ := hpoll
  rw [p.lift_id] at hbare
  have hlog : a.watch h log w = s.2 := congrArg (fun r => r.1.2) hwatched
  rw [hlog, hbare]
  exact hwatched

/-- What is noted of a step is what has been seen in its moments. -/
theorem poll_noted_watch (h : Host ω) (log : List Instant) (w : ω) (a : Attempt ω) :
    a.noted.poll h.noted (w, seenIn log) =
      (((a.poll h w).1, seenIn (a.watch h log w)), (a.poll h w).2.noted Domain.noted) := by
  have hwatched := poll_alike h.watched_over_noted (Executor.watched_over_noted h.cancelled)
    (w, log) a
  have hbare := poll_alike (K := id) h.noted_over Executor.noted_over (w, seenIn log) a
  rw [a.lift_noted] at hwatched hbare
  rw [a.lift_id] at hbare
  obtain ⟨s, p, hpoll, hnoted⟩ := hwatched
  obtain ⟨s', p', hnoted', hpoll'⟩ := hbare
  rw [p'.lift_id] at hpoll'
  obtain rfl : (((a.poll h w).1, a.watch h log w) : ω × List Instant) = s :=
    congrArg Prod.fst ((poll_watched h log w a).symm.trans hpoll)
  have hstate : (a.noted.poll h.noted (w, seenIn log)).1 =
      ((a.poll h w).1, seenIn (a.watch h log w)) := congrArg Prod.fst hnoted
  have hprogress :
      (a.noted.poll h.noted (w, seenIn log)).2 = (a.poll h w).2.noted Domain.noted := by
    rw [hnoted', hpoll', p'.lift_noted]
  exact Prod.ext hstate hprogress

end Attempt

namespace Bootstrapper

/-- The attempt with which a call begins, unless it is refused. -/
def attempt? (b : Bootstrapper ω) (world : World ω) (info : HostInfo) (flags : LibraryFlags) :
    Option (Attempt ω) :=
  if flags.contains .builtin && !world.session.isReady then
    b.executor.map fun x => ⟨info, flags, b.config, .baseline x .unasked⟩
  else none

theorem attempt?_eq_some {b : Bootstrapper ω} {world : World ω} {info : HostInfo}
    {flags : LibraryFlags} {a : Attempt ω} :
    b.attempt? world info flags = some a ↔
      flags.contains .builtin = true ∧ world.session.isReady = false ∧
        ∃ x, b.executor = some x ∧ a = ⟨info, flags, b.config, .baseline x .unasked⟩ := by
  simp only [attempt?, Option.ite_none_right_eq_some, Bool.and_eq_true, Bool.not_eq_true',
    Option.map_eq_some_iff, and_assoc, @eq_comm _ a]

theorem start_of_attempt {b : Bootstrapper ω} {world : World ω} {info : HostInfo}
    {flags : LibraryFlags} {a : Attempt ω} (w : ω) (ha : b.attempt? world info flags = some a) :
    b.start w world info flags =
      ((b.resume w world a).1, (b.resume w world a).2.1, { b with executor := none },
        (b.resume w world a).2.2) := by
  obtain ⟨hflags, hready, x, hexecutor, rfl⟩ := attempt?_eq_some.mp ha
  simp [start, hflags, hready, hexecutor, resume]

/-- Why a call is refused that is not admitted. -/
def refusal (session : Session) (flags : LibraryFlags) : BootstrapError :=
  if !flags.contains .builtin then .builtinMissing
  else if session.isReady then .sessionReady
  else .alreadyStarted

theorem refusal_eq_violation (session : Session) (flags : LibraryFlags) :
    ∃ reason, refusal session flags = .invariantViolation reason := by
  unfold refusal
  split
  · exact ⟨_, rfl⟩
  · split <;> exact ⟨_, rfl⟩

/-- A call that is refused has done nothing. -/
theorem start_of_refused {b : Bootstrapper ω} {world : World ω} {info : HostInfo}
    {flags : LibraryFlags} (w : ω) (ha : b.attempt? world info flags = none) :
    b.start w world info flags = (w, world, b, .ended (.error (refusal world.session flags))) := by
  unfold start refusal
  split
  next => rfl
  next hflags =>
    split
    next => rfl
    next hready =>
      cases hexecutor : b.executor with
      | none => rfl
      | some x => simp_all [attempt?]

/-- The moments of a call until others can act, the first of which is its beginning. -/
def firstWatched (b : Bootstrapper ω) (w : ω) (world : World ω) (info : HostInfo)
    (flags : LibraryFlags) : List Instant :=
  match b.attempt? world info flags with
  | none => [⟨none, b.host.cancelled w⟩]
  | some a => a.watch b.host [⟨none, b.host.cancelled w⟩] w

/-- A further stretch of a call with its moments, the first of which is when the others are done. -/
def nextWatched (b : Bootstrapper ω) (s : Stretch ω × List Instant) (others : Interlude ω) :
    Stretch ω × List Instant :=
  (b.nextStretch s.1 others,
    match s.1.progress with
    | .ended _ => s.2
    | .waiting a =>
      let (w, _) := others (s.1.outside, s.1.world)
      a.watch b.host (s.2 ++ [⟨none, b.host.cancelled w⟩]) w)

def watch (b : Bootstrapper ω) (w : ω) (world : World ω) (info : HostInfo) (flags : LibraryFlags)
    (interludes : List (Interlude ω)) : Stretch ω × List Instant :=
  interludes.foldl b.nextWatched
    (b.firstStretch w world info flags, b.firstWatched w world info flags)

/-- The moments of a call that has been interrupted by some interludes. -/
def instants (b : Bootstrapper ω) (w : ω) (world : World ω) (info : HostInfo)
    (flags : LibraryFlags) (interludes : List (Interlude ω)) : List Instant :=
  (b.watch w world info flags interludes).2

theorem watch_fst (b : Bootstrapper ω) (w : ω) (world : World ω) (info : HostInfo)
    (flags : LibraryFlags) (interludes : List (Interlude ω)) :
    (b.watch w world info flags interludes).1 = b.call w world info flags interludes :=
  (List.foldl_hom Prod.fst fun _ _ => rfl).symm

theorem resume_noted_watch (b : Bootstrapper ω) (log : List Instant) (w : ω) (world : World ω)
    (a : Attempt ω) :
    b.noted.resume (w, seenIn log) world.noted a.noted =
      (((b.resume w world a).1, seenIn (a.watch b.host log w)), (b.resume w world a).2.1.noted,
        (b.resume w world a).2.2.noted id) := by
  have hhost : b.noted.host = b.host.noted := rfl
  have hinfo : a.noted.info = a.info := rfl
  simp only [resume, hhost, hinfo, Attempt.poll_noted_watch, conclude_noted]

theorem attempt?_noted (b : Bootstrapper ω) (world : World ω) (info : HostInfo)
    (flags : LibraryFlags) :
    b.noted.attempt? world.noted info flags =
      (b.attempt? world info flags).map Attempt.noted := by
  have hsession : world.noted.session = world.session := rfl
  unfold attempt?
  rw [hsession]
  split
  next =>
    obtain ⟨host, config, executor⟩ := b
    cases executor <;> rfl
  next => rfl

theorem firstStretch_noted_watch (b : Bootstrapper ω) (w : ω) (world : World ω) (info : HostInfo)
    (flags : LibraryFlags) :
    b.noted.firstStretch (w, []) world.noted info flags =
      (b.firstStretch w world info flags).noted
        (seenIn (b.firstWatched w world info flags)) := by
  have hnoted := b.attempt?_noted world info flags
  cases ha : b.attempt? world info flags with
  | none =>
    rw [ha] at hnoted
    simp only [firstStretch, firstWatched, ha, start_of_refused w ha, start_of_refused _ hnoted]
    rfl
  | some a =>
    rw [ha] at hnoted
    have hresume := b.resume_noted_watch [⟨none, b.host.cancelled w⟩] w world a
    have hresume : b.noted.resume (w, []) world.noted a.noted = _ := hresume
    simp only [firstStretch, firstWatched, ha, start_of_attempt w ha, start_of_attempt _ hnoted,
      hresume]
    rfl

theorem nextStretch_noted_watch (b : Bootstrapper ω) (others : Interlude ω)
    (s : Stretch ω × List Instant) :
    b.noted.nextStretch (s.1.noted (seenIn s.2)) others.noted =
      (b.nextWatched s others).1.noted (seenIn (b.nextWatched s others).2) := by
  obtain ⟨⟨found, w, world, progress⟩, log⟩ := s
  cases progress with
  | ended r => rfl
  | waiting a =>
    have hresume := b.resume_noted_watch (log ++ [⟨none, b.host.cancelled (others (w, world)).1⟩])
      (others (w, world)).1 (others (w, world)).2 a
    have hseen : seenIn (log ++ [⟨none, b.host.cancelled (others (w, world)).1⟩]) = seenIn log := by
      simp [seenIn_concat]
    rw [hseen] at hresume
    simp only [nextStretch, nextWatched, Stretch.noted, Progress.noted, Interlude.noted,
      World.bare_noted, hresume]

/-- What has been seen in the moments of a call is what its log tells. -/
theorem seenIn_instants (b : Bootstrapper ω) (w : ω) (world : World ω) (info : HostInfo)
    (flags : LibraryFlags) (interludes : List (Interlude ω)) :
    seenIn (b.instants w world info flags interludes) =
      b.callLog w world info flags interludes := by
  have hwatch : b.noted.call (w, []) world.noted info flags (interludes.map Interlude.noted) =
      (b.watch w world info flags interludes).1.noted
        (seenIn (b.watch w world info flags interludes).2) := by
    unfold call watch
    rw [b.firstStretch_noted_watch]
    generalize b.firstStretch w world info flags = s
    generalize b.firstWatched w world info flags = log
    induction interludes generalizing s log with
    | nil => rfl
    | cons others rest ih =>
      have hnext := b.nextStretch_noted_watch others (s, log)
      rw [List.map_cons, List.foldl_cons, List.foldl_cons, hnext]
      exact ih _ _
  rw [callLog, hwatch]
  rfl

end Bootstrapper

end Watched

end ContentPlayer
