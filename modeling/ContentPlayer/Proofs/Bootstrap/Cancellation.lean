import ContentPlayer.Proofs.Bootstrap.Publication
import ContentPlayer.Proofs.Bootstrap.Watch
import ContentPlayer.Proofs.Cancel.Use
import ContentPlayer.Simulation.Basic

namespace ContentPlayer

variable {ω : Type}

section Polled

/-- A fetch of the stage has been asked for, and its answer has not come. -/
inductive Phase.Pending : Phase ω → BootstrapStage → Prop where
  | baseline (x : Executor ω) (ticket : Nat) (deadline : Option Nat) :
      Pending (.baseline x (.pending ticket deadline)) .baseline
  | code (d : Domain ω) (ticket : Nat) (deadline : Option Nat) (index : Fetching) :
      Pending (.catalog d (.pending ticket deadline) index) .catalog
  | index (d : Domain ω) (code : Fetching) (ticket : Nat) (deadline : Option Nat) :
      Pending (.catalog d code (.pending ticket deadline)) .catalog
  | shell (d : Domain ω) (ticket : Nat) (deadline : Option Nat) :
      Pending (.shell d (.pending ticket deadline)) .shell

def Phase.executor : Phase ω → Executor ω
  | .baseline x _ => x
  | .catalog d _ _ => d.executor
  | .shell d _ => d.executor

/-- Everything that is asked of the outside keeps what holds of it; nothing is requested of it once
the attempt is cancelled. -/
structure Host.Keeps (h : Host ω) (x : Executor ω) (P : ω → Prop) : Prop where
  request : ∀ w r, P w → h.cancelled w = false → P (h.fetcher.request w r).1
  poll : ∀ w ticket, P w → P (h.fetcher.poll w ticket).1
  load : ∀ w id code origin, P w → P (x.load w id code origin).1
  execute : ∀ w m, P w → P (x.execute w m).1

/-- What a step leaves: something is awaited, or it is over, with something made only if it was not
cancelled in the end. -/
inductive Polled {α : Type} (h : Host ω) (x : Option (Executor ω)) (flags : LibraryFlags)
    (P : ω → Prop) : ω × Progress ω α → Prop where
  | waiting {w : ω} {a : Attempt ω} {stage : BootstrapStage} (hw : P w) (hflags : a.flags = flags)
      (hexecutor : x = some a.phase.executor) (hpending : a.phase.Pending stage) :
      Polled h x flags P (w, .waiting a)
  | failed {w : ω} {e : BootstrapError} (hw : P w) : Polled h x flags P (w, .ended (.error e))
  | without {w : ω} (hw : P w) (hflags : flags.contains .playerglobal = false) :
      Polled h x flags P (w, .ended (.ok none))
  | made {w : ω} {d : α} (hw : P w) (hcancelled : h.cancelled w = false) :
      Polled h x flags P (w, .ended (.ok (some d)))

theorem Polled.outside {α : Type} {h : Host ω} {x : Option (Executor ω)} {flags : LibraryFlags}
    {P : ω → Prop} {p : ω × Progress ω α} (hpolled : Polled h x flags P p) : P p.1 := by
  cases hpolled <;> assumption

variable {h : Host ω} {x : Executor ω} {P : ω → Prop} {w : ω}

theorem Host.Keeps.await (hkeeps : h.Keeps x P) (hw : P w) (stage : BootstrapStage) (name : String)
    (ticket : Nat) (deadline : Option Nat) :
    P (h.await w stage name ticket deadline).1 ∧
      (h.await w stage name ticket deadline).2 ≠ .ok .unasked := by
  have hpoll := hkeeps.poll w ticket hw
  unfold Host.await
  generalize h.fetcher.poll w ticket = polled at hpoll
  obtain ⟨w', answer⟩ := polled
  match answer with
  | some (.ok r) => exact ⟨hpoll, by simp⟩
  | some (.error e) => exact ⟨hpoll, by simp⟩
  | none =>
    dsimp only
    split <;> exact ⟨hpoll, by simp⟩

/-- A fetch that has not failed has been asked for. -/
theorem Host.Keeps.fetch (hkeeps : h.Keeps x P) (hw : P w) (limit : Option Nat)
    (stage : BootstrapStage) (request : LoadRequest) (f : Fetching) :
    P (h.fetch w limit stage request f).1 ∧
      (h.fetch w limit stage request f).2 ≠ .ok .unasked := by
  cases f with
  | arrived r => exact ⟨hw, by simp [Host.fetch]⟩
  | pending ticket deadline =>
    simp only [Host.fetch]
    split
    · exact ⟨hw, by simp⟩
    · exact hkeeps.await hw _ _ _ _
  | unasked =>
    simp only [Host.fetch]
    split
    next => exact ⟨hw, by simp⟩
    next hcancelled =>
      exact hkeeps.await (hkeeps.request w request hw (by simpa using hcancelled)) _ _ _ _

namespace Attempt

theorem runModule_keeps {d : Domain ω} (hkeeps : h.Keeps d.executor P) (hw : P w)
    (stage : BootstrapStage) (r : Resource) (name origin : String) :
    P (runModule w stage d r name origin).1 ∧
      ∀ d', (runModule w stage d r name origin).2 = .ok d' → d'.executor = d.executor := by
  unfold runModule
  split
  next => exact ⟨hw, by simp⟩
  next code _ =>
    have hload := hkeeps.load w d.modules.length code origin hw
    rw [Domain.loadAndExecute_eq]
    generalize d.executor.load w d.modules.length code origin = loaded at hload
    obtain ⟨w₁, loaded⟩ := loaded
    cases loaded with
    | error e => exact ⟨hload, by simp⟩
    | ok m =>
      by_cases hnext : d.executed = d.modules.length
      · have hexecute := hkeeps.execute w₁ m hload
        simp only [if_pos hnext]
        generalize d.executor.execute w₁ m = executed at hexecute
        obtain ⟨w₂, executed⟩ := executed
        cases executed with
        | error e => exact ⟨hexecute, by simp⟩
        | ok u => exact ⟨hexecute, fun d' hd' => by cases hd'; rfl⟩
      · simp only [if_neg hnext]
        exact ⟨hload, by simp⟩

variable {a : Attempt ω} {d : Domain ω}

theorem pollShell_polled (hkeeps : h.Keeps d.executor P) (hw : P w) (shell : Fetching) :
    Polled h (some d.executor) a.flags P (a.pollShell h w d shell) := by
  have hfetch := hkeeps.fetch hw a.config.limit .shell ⟨a.config.shell, .binary⟩ shell
  unfold pollShell
  generalize h.fetch w a.config.limit .shell ⟨a.config.shell, .binary⟩ shell = fetched at hfetch
  obtain ⟨w₁, result⟩ := fetched
  obtain ⟨hw₁, hasked⟩ := hfetch
  match result with
  | .error e => exact .failed hw₁
  | .ok .unasked => exact absurd rfl hasked
  | .ok (.pending ticket deadline) => exact .waiting hw₁ rfl rfl (.shell d ticket deadline)
  | .ok (.arrived r) =>
    have hrun := (runModule_keeps hkeeps hw₁ .shell r a.config.shell shellOrigin).1
    dsimp only
    generalize runModule w₁ .shell d r a.config.shell shellOrigin = run at hrun
    obtain ⟨w₂, result⟩ := run
    cases result with
    | error e => exact .failed hrun
    | ok d' =>
      dsimp only
      split
      next => exact .failed hrun
      next hcancelled => exact .made hrun (by simpa using hcancelled)

theorem pollCatalog_polled (hkeeps : h.Keeps d.executor P) (hw : P w) (code index : Fetching) :
    Polled h (some d.executor) a.flags P (a.pollCatalog h w d code index) := by
  have hfetch := hkeeps.fetch hw a.config.limit .catalog ⟨a.config.catalog, .binary⟩ code
  unfold pollCatalog
  generalize h.fetch w a.config.limit .catalog ⟨a.config.catalog, .binary⟩ code = fetched at hfetch
  obtain ⟨w₁, result⟩ := fetched
  obtain ⟨hw₁, hcode⟩ := hfetch
  cases result with
  | error e => exact .failed hw₁
  | ok code' =>
    have hfetch :=
      hkeeps.fetch hw₁ a.config.limit .catalog ⟨a.config.catalogIndex, .structured⟩ index
    dsimp only
    generalize h.fetch w₁ a.config.limit .catalog ⟨a.config.catalogIndex, .structured⟩ index =
      fetched at hfetch
    obtain ⟨w₂, result⟩ := fetched
    obtain ⟨hw₂, hindex⟩ := hfetch
    cases result with
    | error e => exact .failed hw₂
    | ok index' =>
      match code', index' with
      | .unasked, _ => exact absurd rfl hcode
      | _, .unasked => exact absurd rfl hindex
      | .pending ticket deadline, .pending _ _ | .pending ticket deadline, .arrived _ =>
        exact .waiting hw₂ rfl rfl (.code d ticket deadline _)
      | .arrived _, .pending ticket deadline =>
        exact .waiting hw₂ rfl rfl (.index d _ ticket deadline)
      | .arrived code, .arrived index =>
        dsimp only
        cases makeCatalog a.config code index with
        | error e => exact .failed hw₂
        | ok catalog => exact pollShell_polled (d := d.registerCatalog catalog) hkeeps hw₂ .unasked

theorem pollBaseline_polled (hkeeps : h.Keeps x P) (hw : P w) (builtin : Fetching) :
    Polled h (some x) a.flags P (a.pollBaseline h w x builtin) := by
  have hfetch := hkeeps.fetch hw a.config.limit .baseline ⟨a.config.builtin, .binary⟩ builtin
  unfold pollBaseline
  generalize h.fetch w a.config.limit .baseline ⟨a.config.builtin, .binary⟩ builtin = fetched
    at hfetch
  obtain ⟨w₁, result⟩ := fetched
  obtain ⟨hw₁, hasked⟩ := hfetch
  match result with
  | .error e => exact .failed hw₁
  | .ok .unasked => exact absurd rfl hasked
  | .ok (.pending ticket deadline) => exact .waiting hw₁ rfl rfl (.baseline x ticket deadline)
  | .ok (.arrived r) =>
    let d : Domain ω := { executor := x, version := a.info.version }
    have hrun := runModule_keeps (d := d) hkeeps hw₁ .baseline r a.config.builtin builtinOrigin
    dsimp only
    generalize runModule w₁ .baseline d r a.config.builtin builtinOrigin = run at hrun
    obtain ⟨w₂, result⟩ := run
    obtain ⟨hw₂, hexecutor⟩ := hrun
    cases result with
    | error e => exact .failed hw₂
    | ok d' =>
      obtain rfl : d'.executor = x := hexecutor d' rfl
      dsimp only
      split
      next => exact pollCatalog_polled hkeeps hw₂ .unasked .unasked
      next hflags => exact .without hw₂ (by simpa using hflags)

theorem poll_polled (hkeeps : h.Keeps a.phase.executor P) (hw : P w) :
    Polled h (some a.phase.executor) a.flags P (a.poll h w) := by
  obtain ⟨info, flags, config, phase⟩ := a
  cases phase with
  | baseline x builtin =>
    exact pollBaseline_polled (a := ⟨info, flags, config, _⟩) hkeeps hw builtin
  | catalog d code index =>
    exact pollCatalog_polled (a := ⟨info, flags, config, _⟩) hkeeps hw code index
  | shell d shell => exact pollShell_polled (a := ⟨info, flags, config, _⟩) hkeeps hw shell

/-- When an attempt that awaits something is cancelled, neither an answer nor the end of the time
counts. -/
theorem poll_cancelled {stage : BootstrapStage} (hpending : a.phase.Pending stage)
    (hcancelled : h.cancelled w = true) :
    a.poll h w = (w, .ended (.error (.cancelled stage))) := by
  obtain ⟨info, flags, config, phase⟩ := a
  cases hpending with
  | baseline x ticket deadline => simp [poll, pollBaseline, Host.fetch, hcancelled]
  | code d ticket deadline index => simp [poll, pollCatalog, Host.fetch, hcancelled]
  | index d code ticket deadline =>
    cases code <;> simp [poll, pollCatalog, Host.fetch, hcancelled]
  | shell d ticket deadline => simp [poll, pollShell, Host.fetch, hcancelled]

end Attempt

end Polled

section Heeded

/-- The moments of a call so far, the latest of which is now. Once one of them is cancelled all
later ones are, and nothing is requested in these. -/
structure Heeded (h : Host ω) (s : ω × List Instant) : Prop where
  now : s.2.getLast?.map Instant.cancelled = some (h.cancelled s.1)
  after : s.2.Pairwise fun m m' => m.cancelled = true →
    m'.cancelled = true ∧ ∀ r ticket, m'.seen ≠ some (.request r ticket)

/-- Everything outside uses the handle and its tokens in the ways there are, and one token, which
tells whether the attempt is cancelled, is kept. -/
structure Host.Guarded (h : Host ω) (x : Executor ω) (group : ω → CancelGroup) (token : Nat) :
    Prop where
  cancelled_eq : ∀ w, h.cancelled w = (group w).isCancelled token
  request : ∀ w r, (group w).Becomes token (group (h.fetcher.request w r).1)
  poll : ∀ w ticket, (group w).Becomes token (group (h.fetcher.poll w ticket).1)
  load : ∀ w id code origin, (group w).Becomes token (group (x.load w id code origin).1)
  execute : ∀ w m, (group w).Becomes token (group (x.execute w m).1)

variable {h : Host ω} {x : Executor ω} {group : ω → CancelGroup} {token : Nat} {w w' : ω}
  {log : List Instant}

theorem Heeded.cancelled (hlog : Heeded h (w, log)) {m : Instant} (hm : m ∈ log)
    (hcancelled : m.cancelled = true) : h.cancelled w = true := by
  obtain rfl | ⟨front, last, rfl⟩ := List.eq_nil_or_concat' log
  · simp at hm
  have hlast : last.cancelled = h.cancelled w := by simpa using hlog.now
  rw [← hlast]
  obtain hm | hm := List.mem_append.mp hm
  · exact ((List.pairwise_append.mp hlog.after).2.2 m hm last (by simp) hcancelled).1
  · exact List.mem_singleton.mp hm ▸ hcancelled

theorem Heeded.concat (hlog : Heeded h (w, log))
    (hlasting : h.cancelled w = true → h.cancelled w' = true) {seen : Option Visible}
    (hseen : h.cancelled w = true → ∀ r ticket, seen ≠ some (.request r ticket)) :
    Heeded h (w', log ++ [⟨seen, h.cancelled w'⟩]) where
  now := by simp
  after := by
    rw [List.pairwise_append]
    refine ⟨hlog.after, List.pairwise_singleton _ _, ?_⟩
    intro m hm m' hm' hcancelled
    obtain rfl := List.mem_singleton.mp hm'
    have hnow := hlog.cancelled hm hcancelled
    exact ⟨hlasting hnow, hseen hnow⟩

theorem Host.Guarded.lasting (hguarded : h.Guarded x group token)
    (hgroup : (group w).Becomes token (group w')) (hcancelled : h.cancelled w = true) :
    h.cancelled w' = true := by
  rw [hguarded.cancelled_eq] at hcancelled ⊢
  exact hgroup.isCancelled hcancelled

theorem Host.Guarded.watched_keeps (hguarded : h.Guarded x group token) :
    h.watched.Keeps (x.watched h.cancelled) (Heeded h) where
  request s r hs hcancelled := by
    have hnot : h.cancelled s.1 = false := hcancelled
    refine hs.concat (hguarded.lasting (hguarded.request s.1 r)) ?_
    simp [hnot]
  poll s ticket hs := by
    refine hs.concat (hguarded.lasting (hguarded.poll s.1 ticket)) ?_
    simp
  load s id code origin hs := by
    refine hs.concat (hguarded.lasting (hguarded.load s.1 id code origin)) ?_
    simp
  execute s m hs := by
    refine hs.concat (hguarded.lasting (hguarded.execute s.1 m)) ?_
    simp

theorem Attempt.watch_heeded {a : Attempt ω} (hguarded : h.Guarded a.phase.executor group token)
    (hs : Heeded h (w, log)) : Heeded h ((a.poll h w).1, a.watch h log w) := by
  have hexecutor : (a.watched h).phase.executor = a.phase.executor.watched h.cancelled := by
    obtain ⟨info, flags, config, phase⟩ := a
    cases phase <;> rfl
  have hkeeps : h.watched.Keeps (a.watched h).phase.executor (Heeded h) :=
    hexecutor ▸ hguarded.watched_keeps
  have hpolled := (poll_polled hkeeps hs).outside
  rwa [poll_watched] at hpolled

namespace Simulation

theorem watch_becomes (s : Simulation) : s.cancel.Becomes 0 s.watch.cancel := by
  unfold watch
  split
  next =>
    split
    · exact CancelGroup.becomes_cancel 0 s.cancel
    · exact .refl 0 _
  next => exact .refl 0 _

theorem poll_becomes (s : Simulation) (ticket : Nat) :
    s.cancel.Becomes 0 (s.poll ticket).1.cancel := by
  have hdeliver (name : String) : (s.deliver name).1.cancel = s.cancel := by
    unfold deliver
    split <;> rfl
  unfold poll
  split
  next name due _ =>
    split
    · rw [← hdeliver name]
      exact watch_becomes (note s!"arrived {name}" (s.deliver name).1)
    · exact .refl 0 _
  next => exact .refl 0 _

/-- The simulated world is one in which the first token is kept, whatever the executor does before
the log is looked at. -/
theorem host_guarded {x : Executor Simulation}
    (hload : ∀ s id code origin, (x.load s id code origin).1.cancel = s.cancel)
    (hexecute : ∀ s m, (x.execute s m).1.cancel = s.cancel) :
    host.Guarded (x.followedBy watch) Simulation.cancel 0 where
  cancelled_eq _ := rfl
  request s r := watch_becomes (s.note s!"fetch {r.name}")
  poll := poll_becomes
  load s id code origin := hload s id code origin ▸ watch_becomes (x.load s id code origin).1
  execute s m := hexecute s m ▸ watch_becomes (x.execute s m).1

theorem host_guarded_recording : host.Guarded recordingExecutor Simulation.cancel 0 :=
  host_guarded (fun _ _ _ _ => rfl) fun _ _ => rfl

theorem host_guarded_script : host.Guarded scriptExecutor Simulation.cancel 0 :=
  host_guarded (fun _ _ _ _ => rfl) fun _ _ => rfl

end Simulation

end Heeded

section Call

variable {group : ω → CancelGroup} {token : Nat}

/-- Others use the handle and its tokens in the ways there are, and keep the one token. -/
def Interlude.Guarded (group : ω → CancelGroup) (token : Nat) (others : Interlude ω) : Prop :=
  ∀ w world, (group w).Becomes token (group (others (w, world)).1)

namespace Bootstrapper

/-- A stretch of a call with the moments so far: they have been heeded, and the stretch has left
what a step may leave. -/
structure Heeds (b : Bootstrapper ω) (flags : LibraryFlags) (s : Stretch ω × List Instant) :
    Prop where
  moments : Heeded b.host (s.1.outside, s.2)
  polled : Polled b.host b.executor flags (fun _ => True) (s.1.outside, s.1.progress)

variable {b : Bootstrapper ω} {flags : LibraryFlags} {w : ω} {a : Attempt ω} {log : List Instant}

theorem resume_heeds (hguarded : b.host.Guarded a.phase.executor group token)
    (hexecutor : b.executor = some a.phase.executor) (hlog : Heeded b.host (w, log))
    (found world : World ω) :
    b.Heeds a.flags (⟨found, (b.resume w world a).1, (b.resume w world a).2.1,
      (b.resume w world a).2.2⟩, a.watch b.host log w) := by
  have hmoments := Attempt.watch_heeded hguarded hlog
  have hkeeps : b.host.Keeps a.phase.executor fun _ => True :=
    ⟨fun _ _ _ _ => trivial, fun _ _ _ => trivial, fun _ _ _ _ _ => trivial,
      fun _ _ _ => trivial⟩
  have hpolled := Attempt.poll_polled (w := w) hkeeps trivial
  rw [← hexecutor] at hpolled
  refine ⟨hmoments, ?_⟩
  unfold resume
  generalize a.poll b.host w = p at hpolled
  cases hpolled with
  | waiting _ hflags hexecutor hpending => exact .waiting trivial hflags hexecutor hpending
  | failed => exact .failed trivial
  | without _ hflags => exact .without trivial hflags
  | made _ hcancelled => exact .made trivial hcancelled

theorem firstStretch_heeds (hguarded : ∀ x, b.executor = some x → b.host.Guarded x group token)
    (w : ω) (world : World ω) (info : HostInfo) :
    b.Heeds flags (b.firstStretch w world info flags, b.firstWatched w world info flags) := by
  have hfirst : Heeded b.host (w, [⟨none, b.host.cancelled w⟩]) :=
    ⟨rfl, List.pairwise_singleton _ _⟩
  cases ha : b.attempt? world info flags with
  | none =>
    simp only [firstStretch, firstWatched, ha, start_of_refused w ha]
    exact ⟨hfirst, .failed trivial⟩
  | some a =>
    simp only [firstStretch, firstWatched, ha, start_of_attempt w ha]
    obtain ⟨-, -, x, hexecutor, rfl⟩ := attempt?_eq_some.mp ha
    exact resume_heeds (a := ⟨info, flags, b.config, .baseline x .unasked⟩)
      (hguarded x hexecutor) hexecutor hfirst world world

theorem nextWatched_heeds (hguarded : ∀ x, b.executor = some x → b.host.Guarded x group token)
    {others : Interlude ω} (hothers : others.Guarded group token) {s : Stretch ω × List Instant}
    (hs : b.Heeds flags s) : b.Heeds flags (b.nextWatched s others) := by
  obtain ⟨⟨found, w, world, progress⟩, log⟩ := s
  obtain ⟨hmoments, hpolled⟩ := hs
  cases progress with
  | ended r => exact ⟨hmoments, hpolled⟩
  | waiting a =>
    cases hpolled with
    | waiting _ hflags hexecutor hpending =>
      have hhost := hguarded _ hexecutor
      have hmoments' : Heeded b.host ((others (w, world)).1,
          log ++ [⟨none, b.host.cancelled (others (w, world)).1⟩]) :=
        hmoments.concat (hhost.lasting (hothers w world)) (by simp)
      rw [← hflags]
      exact resume_heeds hhost hexecutor hmoments' _ _

theorem watch_heeds (hguarded : ∀ x, b.executor = some x → b.host.Guarded x group token)
    (w : ω) (world : World ω) (info : HostInfo) {interludes : List (Interlude ω)}
    (hothers : ∀ others ∈ interludes, others.Guarded group token) :
    b.Heeds flags (b.watch w world info flags interludes) := by
  have hfirst :
      b.Heeds flags (b.firstStretch w world info flags, b.firstWatched w world info flags) :=
    firstStretch_heeds hguarded w world info
  unfold watch
  generalize (b.firstStretch w world info flags, b.firstWatched w world info flags) = s at hfirst
  induction interludes generalizing s with
  | nil => exact hfirst
  | cons others rest ih =>
    obtain ⟨hnext, hrest⟩ := List.forall_mem_cons.mp hothers
    exact ih hrest _ (nextWatched_heeds hguarded hnext hfirst)

/-- A call that is cancelled now has not published anything, and does not end well. -/
theorem Heeds.of_cancelled {info : HostInfo} {s : Stretch ω × List Instant} (hs : b.Heeds flags s)
    (hworld : s.1.AllOrNothing info) (hcancelled : b.host.cancelled s.1.outside = true) :
    s.1.world = s.1.found ∧ (flags.contains .playerglobal = true →
      ∀ r, s.1.progress.result? = some r → ∃ e, r = .error e) := by
  obtain ⟨⟨found, w, world, progress⟩, log⟩ := s
  obtain ⟨-, hpolled⟩ := hs
  cases hpolled with
  | waiting => exact ⟨hworld.1, fun _ r hr => nomatch hr⟩
  | failed => exact ⟨hworld, fun _ r hr => ⟨_, (Option.some.inj hr).symm⟩⟩
  | without _ hflags =>
    refine ⟨hworld, fun hplayer => ?_⟩
    rw [hflags] at hplayer
    cases hplayer
  | made _ hnot =>
    rw [hnot] at hcancelled
    cases hcancelled

theorem Heeds.pending {s : Stretch ω × List Instant} (hs : b.Heeds flags s)
    (hwaiting : s.1.progress = .waiting a) : ∃ stage, a.phase.Pending stage := by
  obtain ⟨-, hpolled⟩ := hs
  rw [hwaiting] at hpolled
  cases hpolled with
  | waiting _ _ _ hpending => exact ⟨_, hpending⟩

theorem nextStretch_of_cancelled {s : Stretch ω} {stage : BootstrapStage}
    (hwaiting : s.progress = .waiting a) (hpending : a.phase.Pending stage) {others : Interlude ω}
    (hcancelled : b.host.cancelled (others (s.outside, s.world)).1 = true) :
    b.nextStretch s others =
      let (w, world) := others (s.outside, s.world)
      ⟨world, w, world, .ended (.error (.cancelled stage))⟩ := by
  simp only [nextStretch, hwaiting, resume, Attempt.poll_cancelled hpending hcancelled, conclude]

/-- Nothing is requested or published after cancellation. Once the attempt is cancelled in a moment
of the call, it is cancelled and nothing is requested in all later ones, the call leaves the world
as its latest stretch has found it, and with the library of the platform it ends with nothing but an
error. Where it is cancelled while something is awaited, that is what ends the call, at the stage of
what is awaited, whatever else has come by then. -/
theorem call_heeds_cancellation (b : Bootstrapper ω) (w : ω) (world : World ω) (info : HostInfo)
    (flags : LibraryFlags) (interludes : List (Interlude ω)) (group : ω → CancelGroup) (token : Nat)
    (hguarded : ∀ x, b.executor = some x → b.host.Guarded x group token)
    (hothers : ∀ others ∈ interludes, others.Guarded group token) :
    let s := b.call w world info flags interludes
    let log := b.instants w world info flags interludes
    seenIn log = b.callLog w world info flags interludes ∧
    (∀ front m rest, log = front ++ m :: rest → m.cancelled = true →
      (∀ m' ∈ rest, m'.cancelled = true ∧ ∀ r ticket, m'.seen ≠ some (.request r ticket)) ∧
      s.world = s.found ∧
      (flags.contains .playerglobal = true →
        ∀ r, s.progress.result? = some r → ∃ e, r = .error e)) ∧
    ∀ a, s.progress = .waiting a → ∃ stage, a.phase.Pending stage ∧
      ∀ others : Interlude ω, b.host.cancelled (others (s.outside, s.world)).1 = true →
        b.call w world info flags (interludes ++ [others]) =
          let (w, world) := others (s.outside, s.world)
          ⟨world, w, world, .ended (.error (.cancelled stage))⟩ := by
  intro s log
  have hheeds : b.Heeds flags (s, log) := by
    have hwatch : b.Heeds flags (b.watch w world info flags interludes) :=
      watch_heeds hguarded w world info hothers
    have hs : (b.watch w world info flags interludes).1 = s := b.watch_fst w world info flags _
    rw [← hs]
    exact hwatch
  have hworld := b.foldl_nextStretch (P := fun _ => True) interludes
    (b.firstStretch_allOrNothing w world info flags) (by simp) trivial
  have hworld : s.AllOrNothing info := hworld.1
  refine ⟨b.seenIn_instants w world info flags interludes, ?_, ?_⟩
  · intro front m rest hlog hcancelled
    have hmem : m ∈ log := by simp [hlog]
    refine ⟨?_, hheeds.of_cancelled hworld (hheeds.moments.cancelled hmem hcancelled)⟩
    intro m' hm'
    have hafter := hheeds.moments.after
    rw [hlog, List.pairwise_append, List.pairwise_cons] at hafter
    exact hafter.2.1.1 m' hm' hcancelled
  · intro a hwaiting
    obtain ⟨stage, hpending⟩ := hheeds.pending hwaiting
    refine ⟨stage, hpending, fun others hcancelled => ?_⟩
    rw [call, List.foldl_append]
    exact nextStretch_of_cancelled hwaiting hpending hcancelled

/-- A bootstrap whose resources take three ticks, and that is cancelled at the fourth. -/
def cancelledAtFour : Bootstrapper Nat := ⟨.ticking 3 (some 4), {}, some .willing⟩

def threeTicks : Interlude Nat := fun (now, world) => (now + 3, world)

def localMovie : HostInfo := ⟨"file:///movie.swf", 10, { viewport := ⟨550, 400⟩ }⟩

/-- Both resources of the catalog are there when the clock shows 6, and so is the cancellation. -/
theorem call_heeds_cancellation_ticking :
    let s := cancelledAtFour.call 0 {} localMovie (.builtin ||| .playerglobal)
      ([threeTicks] ++ [threeTicks])
    s.outside = 6 ∧ s.world.session.domain = none ∧
      s.progress.result? = some (.error (.cancelled .catalog)) := by
  let group : Nat → CancelGroup := fun now => { raised := decide (4 ≤ now) }
  have hguarded : ∀ x, cancelledAtFour.executor = some x →
      cancelledAtFour.host.Guarded x group 0 := by
    rintro _ ⟨⟩
    exact ⟨fun _ => rfl, fun _ _ => .refl 0 _, fun _ _ => .refl 0 _, fun _ _ _ _ => .refl 0 _,
      fun _ _ => .refl 0 _⟩
  have hticks : threeTicks.Guarded group 0 := by
    intro now world
    by_cases hnow : 4 ≤ now + 3
    · have hcancel : group (now + 3) = (group now).cancel := by
        simp [group, CancelGroup.cancel, hnow]
      simpa only [threeTicks, hcancel] using CancelGroup.becomes_cancel 0 (group now)
    · have hsame : group (now + 3) = group now := by simp [group, hnow]; omega
      simpa only [threeTicks, hsame] using CancelGroup.Becomes.refl 0 (group now)
  obtain ⟨-, -, hawaited⟩ := call_heeds_cancellation cancelledAtFour 0 {} localMovie
    (.builtin ||| .playerglobal) [threeTicks] group 0 hguarded (by simpa using hticks)
  obtain ⟨d, code, index, hwaiting⟩ : ∃ d code index,
      (cancelledAtFour.call 0 {} localMovie (.builtin ||| .playerglobal) [threeTicks]).progress =
        .waiting ⟨localMovie, .builtin ||| .playerglobal, {}, .catalog d code index⟩ :=
    ⟨_, _, _, rfl⟩
  obtain ⟨stage, hstage, hcancelled⟩ := hawaited _ hwaiting
  obtain rfl : stage = .catalog := by cases hstage <;> rfl
  have hlate := hcancelled threeTicks rfl
  dsimp only
  rw [hlate]
  exact ⟨rfl, rfl, rfl⟩

end Bootstrapper

end Call

end ContentPlayer
