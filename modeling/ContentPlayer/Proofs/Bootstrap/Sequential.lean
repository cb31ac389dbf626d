import ContentPlayer.Proofs.Bootstrap.Course
import ContentPlayer.Proofs.Bootstrap.Serving
import ContentPlayer.Proofs.Domain.Catalog

namespace ContentPlayer

variable {ω : Type}

/-- A fetch goes on by being looked at once. -/
theorem Host.fetch_eq_look (h : Host ω) (w : ω) (limit : Option Nat) (stage : BootstrapStage)
    (request : LoadRequest) (f : Fetching) :
    h.fetch w limit stage request f = h.look limit stage request f w := by
  have hawait (w : ω) (ticket : Nat) (deadline : Option Nat) :
      h.await w stage request.name ticket deadline =
        ((h.fetcher.poll w ticket).1,
          Fetching.judge stage request.name ticket deadline
            (h.now (h.fetcher.poll w ticket).1) (h.fetcher.poll w ticket).2) := by
    unfold await
    obtain ⟨w', answer⟩ := h.fetcher.poll w ticket
    cases answer with
    | some answer => cases answer <;> rfl
    | none =>
      dsimp only [Fetching.judge]
      split <;> rfl
  cases f with
  | arrived r => rfl
  | pending ticket deadline =>
    simp only [fetch, look, ask, hawait]
  | unasked =>
    simp only [fetch, look, ask, hawait]

theorem inStage_ok {ε α : Type} (stage : BootstrapStage) (failure : ε → StageFailure) (a : α) :
    inStage stage failure (.ok a) = .ok a := rfl

theorem inStage_error {ε α : Type} (stage : BootstrapStage) (failure : ε → StageFailure) (e : ε) :
    inStage stage failure (.error e : Except ε α) = .error (.failed stage (failure e)) := rfl

namespace Course

theorem wait_apply {σ α : Type} (look : σ → ω → ω × Except BootstrapError σ)
    (result : σ → Option α) (s : σ) (w : ω) (world : World ω) (interludes : List (Interlude ω)) :
    wait look result s ⟨w, world, interludes⟩ =
      match look s w with
      | (w, .error e) => some (.error e, ⟨w, world, interludes⟩)
      | (w, .ok s) =>
        match result s, interludes with
        | some a, interludes => some (.ok a, ⟨w, world, interludes⟩)
        | none, [] => none
        | none, others :: rest =>
          wait look result s ⟨(others (w, world)).1, (others (w, world)).2, rest⟩ :=
  waitFrom.eq_def look result interludes world s w

theorem bind_assoc {α β γ : Type} (c : Course ω α) (f : α → Course ω β) (g : β → Course ω γ) :
    c >>= f >>= g = c >>= fun a => f a >>= g := by
  funext m
  simp only [bind_apply]
  match c m with
  | none => rfl
  | some (.error e, _) => rfl
  | some (.ok a, _) => rfl

theorem bind_fetch {β : Type} (h : Host ω) (limit : Option Nat) (stage : BootstrapStage)
    (request : LoadRequest) (f : Fetching) (next : Resource → Course ω β) (w : ω) (world : World ω)
    (interludes : List (Interlude ω)) :
    (fetch h limit stage request f >>= next) ⟨w, world, interludes⟩ =
      match h.look limit stage request f w with
      | (w, .error e) => some (.error e, ⟨w, world, interludes⟩)
      | (w, .ok (.arrived r)) => next r ⟨w, world, interludes⟩
      | (w, .ok f) =>
        match interludes with
        | [] => none
        | others :: rest => (fetch h limit stage request f >>= next)
            ⟨(others (w, world)).1, (others (w, world)).2, rest⟩ := by
  rw [bind_apply, fetch, wait_apply]
  match h.look limit stage request f w, interludes with
  | (w', .error e), _ => rfl
  | (w', .ok (.arrived r)), _ => rfl
  | (w', .ok (.pending ticket deadline)), [] => rfl
  | (w', .ok (.pending ticket deadline)), others :: rest => rfl
  | (w', .ok .unasked), [] => rfl
  | (w', .ok .unasked), others :: rest => rfl

theorem bind_fetchBoth {β : Type} (h : Host ω) (limit : Option Nat) (stage : BootstrapStage)
    (first second : LoadRequest) (f g : Fetching) (next : Resource × Resource → Course ω β) (w : ω)
    (world : World ω) (interludes : List (Interlude ω)) :
    (fetchBoth h limit stage first second f g >>= next) ⟨w, world, interludes⟩ =
      match h.lookBoth limit stage first second (f, g) w with
      | (w, .error e) => some (.error e, ⟨w, world, interludes⟩)
      | (w, .ok (.arrived r, .arrived s)) => next (r, s) ⟨w, world, interludes⟩
      | (w, .ok (f, g)) =>
        match interludes with
        | [] => none
        | others :: rest => (fetchBoth h limit stage first second f g >>= next)
            ⟨(others (w, world)).1, (others (w, world)).2, rest⟩ := by
  rw [bind_apply, fetchBoth, wait_apply]
  match h.lookBoth limit stage first second (f, g) w with
  | (w', .error e) => rfl
  | (w', .ok (f', g')) => cases f' <;> cases g' <;> cases interludes <;> rfl

/-- A module that has been fetched is executed in the domain: what follows sees the domain with it,
or the failure. -/
theorem bind_run {β : Type} {d : Domain ω} (hd : d.executed = d.modules.length)
    (stage : BootstrapStage) (r : Resource) (name origin : String) (next : Domain ω → Course ω β)
    (w : ω) (world : World ω) (interludes : List (Interlude ω)) :
    (do
      let code ← check stage .fetch (r.bytes name)
      let m ← run d.executor stage d.modules.length code origin
      next { d with modules := d.modules ++ [m], executed := d.executed + 1 } : Course ω β)
        ⟨w, world, interludes⟩ =
      match Attempt.runModule w stage d r name origin with
      | (w, .error e) => some (.error e, ⟨w, world, interludes⟩)
      | (w, .ok d) => next d ⟨w, world, interludes⟩ := by
  unfold Attempt.runModule
  rw [bind_apply, check, act, failing_eq]
  cases hcode : inStage stage .fetch (r.bytes name) with
  | error e => rfl
  | ok code =>
    simp only [Domain.loadAndExecute_of_executed _ _ _ _ hd, run, failing_eq, bind_assoc]
    rw [bind_apply, act]
    cases hload : d.executor.load w d.modules.length code origin with
    | mk w₁ loaded =>
      cases loaded with
      | error e => rfl
      | ok m =>
        simp only [inStage_ok, bind_apply, act]
        cases hexecute : d.executor.execute w₁ m with
        | mk w₂ executed =>
          cases executed with
          | error e => rfl
          | ok u => rfl

theorem bind_makeCatalog {β : Type} (config : BootstrapConfig) (r s : Resource)
    (next : Catalog → Course ω β) (w : ω) (world : World ω) (interludes : List (Interlude ω)) :
    (do
      let bytes ← check .catalog .fetch (r.bytes config.catalog)
      let document ← check .catalog .fetch (s.json config.catalogIndex)
      let catalog ← check .catalog .catalog (Catalog.ofJson bytes document)
      next catalog : Course ω β) ⟨w, world, interludes⟩ =
      match Attempt.makeCatalog config r s with
      | .error e => some (.error e, ⟨w, world, interludes⟩)
      | .ok catalog => next catalog ⟨w, world, interludes⟩ := by
  unfold Attempt.makeCatalog
  rw [bind_apply, check, act, failing_eq]
  cases hbytes : inStage .catalog .fetch (r.bytes config.catalog) with
  | error e => rfl
  | ok bytes =>
    dsimp only
    rw [bind_apply, check, act, failing_eq]
    cases hdocument : inStage .catalog .fetch (s.json config.catalogIndex) with
    | error e => rfl
    | ok document =>
      dsimp only
      rw [bind_apply, check, act, failing_eq]
      cases hcatalog : inStage .catalog .catalog (Catalog.ofJson bytes document) with
      | error e => simp [bind, Except.bind, hcatalog]
      | ok catalog => simp [bind, Except.bind, hcatalog]

end Course

namespace Attempt

def shellCourse (h : Host ω) (a : Attempt ω) (d : Domain ω) (shell : Fetching) :
    Course ω (Option Factory) :=
  Course.fetch h a.config.limit .shell ⟨a.config.shell, .binary⟩ shell >>= fun r => do
    let code ← Course.check .shell .fetch (r.bytes a.config.shell)
    let m ← Course.run d.executor .shell d.modules.length code shellOrigin
    let factory ← Course.finalize h a.info
      { d with modules := d.modules ++ [m], executed := d.executed + 1 }
    return some factory

def catalogCourse (h : Host ω) (a : Attempt ω) (d : Domain ω) (code index : Fetching) :
    Course ω (Option Factory) :=
  Course.fetchBoth h a.config.limit .catalog ⟨a.config.catalog, .binary⟩
      ⟨a.config.catalogIndex, .structured⟩ code index >>= fun (code, index) => do
    let bytes ← Course.check .catalog .fetch (code.bytes a.config.catalog)
    let document ← Course.check .catalog .fetch (index.json a.config.catalogIndex)
    let catalog ← Course.check .catalog .catalog (Catalog.ofJson bytes document)
    a.shellCourse h (d.registerCatalog catalog) .unasked

def baselineCourse (h : Host ω) (a : Attempt ω) (x : Executor ω) (builtin : Fetching) :
    Course ω (Option Factory) :=
  Course.fetch h a.config.limit .baseline ⟨a.config.builtin, .binary⟩ builtin >>= fun r => do
    let d : Domain ω := { executor := x, version := a.info.version }
    let code ← Course.check .baseline .fetch (r.bytes a.config.builtin)
    let m ← Course.run d.executor .baseline d.modules.length code builtinOrigin
    if !a.flags.contains .playerglobal then return none
    a.catalogCourse h { d with modules := d.modules ++ [m], executed := d.executed + 1 }
      .unasked .unasked

/-- What is left of a bootstrap. -/
def course (h : Host ω) (a : Attempt ω) : Course ω (Option Factory) :=
  match a.phase with
  | .baseline x builtin => a.baselineCourse h x builtin
  | .catalog d code index => a.catalogCourse h d code index
  | .shell d shell => a.shellCourse h d shell

/-- A bootstrap is what is left of an attempt that has not begun. -/
theorem course_unasked (h : Host ω) (config : BootstrapConfig) (x : Executor ω) (info : HostInfo)
    (flags : LibraryFlags) :
    course h ⟨info, flags, config, .baseline x .unasked⟩ =
      Course.bootstrap h config x info flags := by
  simp only [course, baselineCourse, catalogCourse, shellCourse, Course.bootstrap, Course.baseline,
    Course.catalog, Course.shell, Course.allowance_eq, Course.bytesOf_eq, Course.documentOf_eq,
    Course.wantsPlatform_eq, Course.bind_assoc]
  rfl

end Attempt

/-- How a course goes on from a stretch of the call. -/
def onward (h : Host ω) (interludes : List (Interlude ω)) :
    ω × World ω × Progress ω Factory → Option (Except BootstrapError (Option Factory) × Moment ω)
  | (w, world, .ended r) => some (r, ⟨w, world, interludes⟩)
  | (w, world, .waiting a) =>
    match interludes with
    | [] => none
    | others :: rest => a.course h ⟨(others (w, world)).1, (others (w, world)).2, rest⟩

def concluded (world : World ω) (info : HostInfo) :
    ω × Progress ω (Domain ω) → ω × World ω × Progress ω Factory
  | (w, progress) => (w, Bootstrapper.conclude world info progress)

namespace Attempt

theorem shellCourse_eq_onward (h : Host ω) (a : Attempt ω) {d : Domain ω}
    (hd : d.executed = d.modules.length) (shell : Fetching) (w : ω) (world : World ω)
    (interludes : List (Interlude ω)) :
    a.shellCourse h d shell ⟨w, world, interludes⟩ =
      onward h interludes (concluded world a.info (a.pollShell h w d shell)) := by
  unfold shellCourse pollShell
  rw [Host.fetch_eq_look, Course.bind_fetch]
  match h.look a.config.limit .shell ⟨a.config.shell, .binary⟩ shell w, interludes with
  | (w', .error e), _ => rfl
  | (w', .ok (.pending ticket deadline)), [] => rfl
  | (w', .ok (.pending ticket deadline)), others :: rest => rfl
  | (w', .ok .unasked), [] => rfl
  | (w', .ok .unasked), others :: rest => rfl
  | (w', .ok (.arrived r)), interludes =>
    dsimp only
    refine (Course.bind_run hd .shell r a.config.shell shellOrigin (fun d => do
      let factory ← Course.finalize h a.info d
      return some factory) w' world interludes).trans ?_
    match runModule w' .shell d r a.config.shell shellOrigin with
    | (w', .error e) => rfl
    | (w', .ok d') =>
      by_cases hcancelled : h.cancelled w' = true
      · simp only [Course.finalize, Course.bind_apply, Course.act, if_pos hcancelled]
        rfl
      · simp only [Course.finalize, Course.bind_apply, Course.act, if_neg hcancelled]
        rfl

theorem pollCatalog_eq_lookBoth (h : Host ω) (w : ω) (a : Attempt ω) (d : Domain ω)
    (code index : Fetching) :
    a.pollCatalog h w d code index =
      match h.lookBoth a.config.limit .catalog ⟨a.config.catalog, .binary⟩
        ⟨a.config.catalogIndex, .structured⟩ (code, index) w with
      | (w, .error e) => (w, .ended (.error e))
      | (w, .ok (.arrived code, .arrived index)) =>
        match makeCatalog a.config code index with
        | .error e => (w, .ended (.error e))
        | .ok catalog => a.pollShell h w (d.registerCatalog catalog) .unasked
      | (w, .ok (code, index)) => (w, .waiting { a with phase := .catalog d code index }) := by
  unfold pollCatalog Host.lookBoth
  simp only [Host.fetch_eq_look]
  obtain ⟨w₁, first⟩ := h.look a.config.limit .catalog ⟨a.config.catalog, .binary⟩ code w
  cases first with
  | error e => rfl
  | ok code' =>
    dsimp only
    obtain ⟨w₂, second⟩ :=
      h.look a.config.limit .catalog ⟨a.config.catalogIndex, .structured⟩ index w₁
    cases second with
    | error e => rfl
    | ok index' => cases code' <;> cases index' <;> rfl

theorem catalogCourse_eq_onward (h : Host ω) (a : Attempt ω) {d : Domain ω}
    (hd : d.executed = d.modules.length) (code index : Fetching) (w : ω) (world : World ω)
    (interludes : List (Interlude ω)) :
    a.catalogCourse h d code index ⟨w, world, interludes⟩ =
      onward h interludes (concluded world a.info (a.pollCatalog h w d code index)) := by
  unfold catalogCourse
  rw [pollCatalog_eq_lookBoth, Course.bind_fetchBoth]
  match h.lookBoth a.config.limit .catalog ⟨a.config.catalog, .binary⟩
    ⟨a.config.catalogIndex, .structured⟩ (code, index) w with
  | (w', .error e) => rfl
  | (w', .ok (.arrived r, .arrived s)) =>
    refine (Course.bind_makeCatalog a.config r s (fun catalog =>
      a.shellCourse h (d.registerCatalog catalog) .unasked) w' world interludes).trans ?_
    dsimp only
    match makeCatalog a.config r s with
    | .error e => rfl
    | .ok catalog =>
      have hcatalog : (d.registerCatalog catalog).executed =
          (d.registerCatalog catalog).modules.length := hd
      exact shellCourse_eq_onward h a hcatalog .unasked w' world interludes
  | (w', .ok (.arrived r, .unasked)) => cases interludes <;> rfl
  | (w', .ok (.arrived r, .pending _ _)) => cases interludes <;> rfl
  | (w', .ok (.unasked, index')) => cases interludes <;> rfl
  | (w', .ok (.pending _ _, index')) => cases interludes <;> rfl

theorem baselineCourse_eq_onward (h : Host ω) (a : Attempt ω) (x : Executor ω)
    (builtin : Fetching) (w : ω) (world : World ω) (interludes : List (Interlude ω)) :
    a.baselineCourse h x builtin ⟨w, world, interludes⟩ =
      onward h interludes (concluded world a.info (a.pollBaseline h w x builtin)) := by
  unfold baselineCourse pollBaseline
  rw [Host.fetch_eq_look, Course.bind_fetch]
  match h.look a.config.limit .baseline ⟨a.config.builtin, .binary⟩ builtin w with
  | (w', .error e) => rfl
  | (w', .ok (.pending ticket deadline)) => cases interludes <;> rfl
  | (w', .ok .unasked) => cases interludes <;> rfl
  | (w', .ok (.arrived r)) =>
    have hfresh : ({ executor := x, version := a.info.version } : Domain ω).Serves a.info :=
      ⟨rfl, rfl, rfl⟩
    dsimp only
    refine (Course.bind_run hfresh.executed_eq .baseline r a.config.builtin builtinOrigin
      (fun d => do
        if !a.flags.contains .playerglobal then return none
        a.catalogCourse h d .unasked .unasked) w' world interludes).trans ?_
    cases hrun : runModule w' .baseline { executor := x, version := a.info.version } r
      a.config.builtin builtinOrigin with
    | mk w'' ran =>
      cases ran with
      | error e => rfl
      | ok d =>
        have hd := runModule_serves hfresh hrun
        by_cases hflags : a.flags.contains .playerglobal = true
        · have hcourse := catalogCourse_eq_onward h a hd.executed_eq .unasked .unasked w'' world
            interludes
          simpa [hflags] using hcourse
        · simp [hflags]
          rfl

/-- The call does what is left of the bootstrap, up to the next interlude. -/
theorem course_eq_onward (b : Bootstrapper ω) {a : Attempt ω} {info : HostInfo}
    (ha : a.Serves info) (w : ω) (world : World ω) (interludes : List (Interlude ω)) :
    a.course b.host ⟨w, world, interludes⟩ = onward b.host interludes (b.resume w world a) := by
  have hresume : b.resume w world a = concluded world a.info (a.poll b.host w) := rfl
  rw [hresume]
  cases hphase : a.phase with
  | baseline x builtin =>
    simp only [course, poll, hphase]
    exact baselineCourse_eq_onward b.host a x builtin w world interludes
  | catalog d code index =>
    have hd : d.Serves info := ha.domain_serves d (by rw [hphase]; rfl)
    simp only [course, poll, hphase]
    exact catalogCourse_eq_onward b.host a hd.executed_eq code index w world interludes
  | shell d shell =>
    have hd : d.Serves info := ha.domain_serves d (by rw [hphase]; rfl)
    simp only [course, poll, hphase]
    exact shellCourse_eq_onward b.host a hd.executed_eq shell w world interludes

end Attempt

/-- What a call has given back, with the outside and the world as it left them. -/
def Stretch.outcome (s : Stretch ω) :
    Option (Except BootstrapError (Option Factory) × ω × World ω) :=
  s.progress.result?.map fun r => (r, s.outside, s.world)

def Course.outcome {α : Type} (c : Course ω α) (m : Moment ω) :
    Option (Except BootstrapError α × ω × World ω) :=
  (c m).map fun (r, m) => (r, m.outside, m.world)

namespace Bootstrapper

/-- Every interlude takes the call and the course by one stretch. -/
theorem foldl_nextStretch_outcome (b : Bootstrapper ω) {info : HostInfo}
    (interludes : List (Interlude ω)) {s : Stretch ω}
    (hs : ∀ a, s.progress = .waiting a → a.Serves info) :
    (interludes.foldl b.nextStretch s).outcome =
      (onward b.host interludes (s.outside, s.world, s.progress)).map
        fun (r, m) => (r, m.outside, m.world) := by
  -- the induction takes a stretch of the call and a look of the course at once
  induction interludes generalizing s with
  | nil =>
    obtain ⟨found, w, world, progress⟩ := s
    cases progress <;> rfl
  | cons others rest ih =>
    rw [List.foldl_cons]
    obtain ⟨found, w, world, progress⟩ := s
    cases progress with
    | ended r =>
      rw [ih (by intro a h; cases h)]
      rfl
    | waiting a =>
      have ha : a.Serves info := hs a rfl
      rw [ih, onward, Attempt.course_eq_onward b ha]
      · rfl
      · intro a' ha'
        exact b.resume_serves ha ha'

end Bootstrapper

/-- What decides a fetch. Once the attempt is cancelled nothing is asked for and no answer counts;
an answer counts even when the limit has passed. -/
structure Host.Ranked (h : Host ω) : Prop where
  unasked : ∀ w limit stage request, h.cancelled w = true →
    h.fetch w limit stage request .unasked = (w, .error (.cancelled stage))
  cancelled : ∀ w limit stage request ticket deadline, h.cancelled w = true →
    h.fetch w limit stage request (.pending ticket deadline) = (w, .error (.cancelled stage))
  answered : ∀ w limit stage request ticket deadline w' answer, h.cancelled w = false →
    h.fetcher.poll w ticket = (w', some answer) →
    h.fetch w limit stage request (.pending ticket deadline) =
      (w', (inStage stage .fetch answer).map .arrived)
  expired : ∀ w limit stage request ticket deadline w', h.cancelled w = false →
    h.fetcher.poll w ticket = (w', none) → h.now w' ≥ deadline →
    h.fetch w limit stage request (.pending ticket (some deadline)) =
      (w', .error (.failed stage (.fetch ⟨request.name, "timeout"⟩)))

theorem Host.ranked (h : Host ω) : h.Ranked where
  unasked := by
    intro w limit stage request hcancelled
    simp [fetch, hcancelled]
  cancelled := by
    intro w limit stage request ticket deadline hcancelled
    simp [fetch, hcancelled]
  answered := by
    intro w limit stage request ticket deadline w' answer hcancelled hpoll
    cases answer with
    | ok r => simp [fetch, await, hcancelled, hpoll, inStage_ok, Except.map]
    | error e => simp [fetch, await, hcancelled, hpoll, inStage_error, Except.map]
  expired := by
    intro w limit stage request ticket deadline w' hcancelled hpoll hdeadline
    simp [fetch, await, hcancelled, hpoll, hdeadline]

namespace Bootstrapper

/-- A bootstrap is its stages one after the other: however often others act while it waits, it gives
what they give in sequence, and leaves the outside and the world as they do. A catalog is made of
the entries of its index, if they all lie within its bytes. -/
theorem call_sequential (h : Host ω) (config : BootstrapConfig) (x : Executor ω) (w : ω)
    (world : World ω) (info : HostInfo) (flags : LibraryFlags) (interludes : List (Interlude ω))
    (hflags : flags.contains .builtin = true) (hready : world.session.isReady = false) :
    (call ⟨h, config, some x⟩ w world info flags interludes).outcome =
      (Course.bootstrap h config x info flags).outcome ⟨w, world, interludes⟩ ∧ h.Ranked ∧
      ∀ bytes index, Catalog.Opened bytes index (Catalog.ofJson bytes index) := by
  refine ⟨?_, h.ranked, fun bytes index => Catalog.opened_ofJson bytes index⟩
  let b : Bootstrapper ω := ⟨h, config, none⟩
  have ha := Attempt.serves_unasked info flags config x
  have hfirst : firstStretch ⟨h, config, some x⟩ w world info flags =
      ⟨world, (b.resume w world ⟨info, flags, config, .baseline x .unasked⟩).1,
        (b.resume w world ⟨info, flags, config, .baseline x .unasked⟩).2.1,
        (b.resume w world ⟨info, flags, config, .baseline x .unasked⟩).2.2⟩ := by
    simp [firstStretch, start, hflags, hready, b]
  have hwaiting : ∀ a, (b.resume w world ⟨info, flags, config, .baseline x .unasked⟩).2.2 =
      .waiting a → a.Serves info := by
    intro a heq
    exact b.resume_serves ha heq
  rw [call, hfirst, foldl_nextStretch_outcome _ interludes hwaiting, Course.outcome,
    ← Attempt.course_unasked, Attempt.course_eq_onward b ha]

/-- A bootstrap that is cancelled after its catalog has come, but before it looks, is cancelled. -/
theorem call_sequential_ticking :
    let h : Host Nat := .ticking 3 (some 7)
    let info : HostInfo := ⟨"file:///movie.swf", 10, { viewport := ⟨550, 400⟩ }⟩
    let interludes : List (Interlude Nat) := List.replicate 5 fun (now, world) => (now + 2, world)
    let outcome := (Course.bootstrap h {} .willing info (.builtin ||| .playerglobal)).outcome
      ⟨0, {}, interludes⟩
    (call ⟨h, {}, some .willing⟩ 0 {} info (.builtin ||| .playerglobal) interludes).outcome =
      outcome ∧ outcome.map Prod.fst = some (.error (.cancelled .catalog)) :=
  ⟨(call_sequential _ _ _ _ _ _ _ _ rfl rfl).1, rfl⟩

end Bootstrapper

end ContentPlayer
