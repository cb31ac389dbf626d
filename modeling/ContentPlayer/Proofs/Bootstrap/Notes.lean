import ContentPlayer.Proofs.Bootstrap.Call
import ContentPlayer.Proofs.Domain.Loading
import ContentPlayer.Proofs.Domain.Operation
import Mathlib.Data.Multiset.AddSub

namespace ContentPlayer

variable {ω : Type}

/-- What can be seen of a bootstrap: its requests, with their tickets, the answers to them, and its
calls of the executor. -/
inductive Visible where
  | request (r : LoadRequest) (ticket : Nat)
  | answer (ticket : Nat) (result : Except FetchError Resource)
  | call (c : Executor.Call)

/-- What a bootstrap does, as a script names it. -/
inductive Act where
  | request (r : LoadRequest)
  | load (origin : String)
  | execute
  | construct
  deriving DecidableEq, Repr

namespace Visible

/-- An answer is nothing that a bootstrap does. -/
def act? : Visible → Option Act
  | .request r _ => some (.request r)
  | .answer _ _ => none
  | .call (.load _ _ origin _) => some (.load origin)
  | .call (.execute _ _) => some .execute
  | .call (.construct _ _) => some .construct

def Fails : Visible → Prop
  | .request _ _ => False
  | .answer _ r => ∃ e, r = .error e
  | .call (.load _ _ _ r) => ∃ e, r = .error e
  | .call (.execute _ r) => ∃ e, r = .error e
  | .call (.construct _ r) => ∃ e, r = .error e

/-- A request waits until an answer to its ticket gives it a resource. -/
def settle (tickets : Multiset Nat) : Visible → Multiset Nat
  | .request _ ticket => ticket ::ₘ tickets
  | .answer ticket (.ok _) => tickets.erase ticket
  | _ => tickets

end Visible

def acts (log : List Visible) : List Act := log.filterMap Visible.act?

/-- The tickets of the requests that have not been answered with a resource. -/
def pending (log : List Visible) : Multiset Nat := log.foldl Visible.settle 0

theorem acts_concat (log : List Visible) (v : Visible) :
    acts (log ++ [v]) = acts log ++ v.act?.toList := by
  cases h : v.act? <;> simp [acts, h]

theorem pending_concat (log : List Visible) (v : Visible) :
    pending (log ++ [v]) = v.settle (pending log) := by
  simp [pending]

section Noted

/-! The same things, which note what can be seen of them behind what has been noted before. -/

def Host.noted (h : Host ω) : Host (ω × List Visible) where
  fetcher :=
    { request := fun s r =>
        let (w, ticket) := h.fetcher.request s.1 r
        ((w, s.2 ++ [.request r ticket]), ticket)
      poll := fun s ticket =>
        let (w, answer) := h.fetcher.poll s.1 ticket
        ((w, s.2 ++ (answer.map (Visible.answer ticket)).toList), answer) }
  cancelled s := h.cancelled s.1
  now s := h.now s.1

def Executor.noted (x : Executor ω) : Executor (ω × List Visible) where
  load s id code origin :=
    let (w, r) := x.load s.1 id code origin
    ((w, s.2 ++ [.call (.load id code origin r)]), r)
  execute s m :=
    let (w, r) := x.execute s.1 m
    ((w, s.2 ++ [.call (.execute m r)]), r)
  construct s call :=
    let (w, r) := x.construct s.1 call
    ((w, s.2 ++ [.call (.construct call r)]), r)

def Domain.noted (d : Domain ω) : Domain (ω × List Visible) where
  executor := d.executor.noted
  version := d.version
  modules := d.modules
  executed := d.executed
  registries := d.registries
  catalog := d.catalog
  resolved := d.resolved
  stage := d.stage

def World.noted (world : World ω) : World (ω × List Visible) where
  session := world.session
  domains := world.domains.map Domain.noted
  stages := world.stages
  nextApplication := world.nextApplication

def Phase.noted : Phase ω → Phase (ω × List Visible)
  | .baseline x builtin => .baseline x.noted builtin
  | .catalog d code index => .catalog d.noted code index
  | .shell d f => .shell d.noted f

def Attempt.noted (a : Attempt ω) : Attempt (ω × List Visible) :=
  ⟨a.info, a.flags, a.config, a.phase.noted⟩

def Bootstrapper.noted (b : Bootstrapper ω) : Bootstrapper (ω × List Visible) :=
  ⟨b.host.noted, b.config, b.executor.map Executor.noted⟩

def Progress.noted {α β : Type} (f : α → β) : Progress ω α → Progress (ω × List Visible) β
  | .waiting a => .waiting a.noted
  | .ended r => .ended (r.map (Option.map f))

def Stretch.noted (s : Stretch ω) (log : List Visible) : Stretch (ω × List Visible) :=
  ⟨s.found.noted, (s.outside, log), s.world.noted, s.progress.noted id⟩

/-- An executor without its notes. -/
def Executor.bare (x : Executor (ω × List Visible)) : Executor ω where
  load w id code origin :=
    let (s, r) := x.load (w, []) id code origin
    (s.1, r)
  execute w m :=
    let (s, r) := x.execute (w, []) m
    (s.1, r)
  construct w call :=
    let (s, r) := x.construct (w, []) call
    (s.1, r)

def Domain.bare (d : Domain (ω × List Visible)) : Domain ω where
  executor := d.executor.bare
  version := d.version
  modules := d.modules
  executed := d.executed
  registries := d.registries
  catalog := d.catalog
  resolved := d.resolved
  stage := d.stage

def World.bare (world : World (ω × List Visible)) : World ω where
  session := world.session
  domains := world.domains.map Domain.bare
  stages := world.stages
  nextApplication := world.nextApplication

/-- What others do is not noted. -/
def Interlude.noted (others : Interlude ω) : Interlude (ω × List Visible) := fun (s, world) =>
  let (w, world) := others (s.1, world.bare)
  ((w, s.2), world.noted)

theorem World.bare_noted (world : World ω) : world.noted.bare = world := by
  have hdomain : Domain.bare ∘ Domain.noted (ω := ω) = id := rfl
  simp [noted, bare, hdomain]

theorem Bootstrapper.conclude_noted (world : World ω) (info : HostInfo)
    (progress : Progress ω (Domain ω)) :
    conclude world.noted info (progress.noted Domain.noted) =
      ((conclude world info progress).1.noted,
        (conclude world info progress).2.noted id) := by
  match progress with
  | .waiting a => rfl
  | .ended (.error e) => rfl
  | .ended (.ok none) => rfl
  | .ended (.ok (some d)) =>
    simp [Progress.noted, conclude, World.publish, World.addStage, World.addDomain,
      World.noted, Except.map, Domain.noted]

end Noted

section Fetch

/-- What waiting for an answer adds to the log, and what comes of it. -/
inductive Awaits (ticket : Nat) (log : List Visible) :
    List Visible → Except BootstrapError Fetching → Prop where
  | waiting {deadline : Option Nat} : Awaits ticket log log (.ok (.pending ticket deadline))
  | late {e : BootstrapError} : Awaits ticket log log (.error e)
  | arrived {r : Resource} :
      Awaits ticket log (log ++ [.answer ticket (.ok r)]) (.ok (.arrived r))
  | failed {fault : FetchError} {e : BootstrapError} :
      Awaits ticket log (log ++ [.answer ticket (.error fault)]) (.error e)

/-- What a fetch adds to the log, and what comes of it. -/
inductive Fetches (request : LoadRequest) (log : List Visible) :
    Fetching → List Visible → Except BootstrapError Fetching → Prop where
  | here {r : Resource} : Fetches request log (.arrived r) log (.ok (.arrived r))
  | cancelled {f : Fetching} {e : BootstrapError} : Fetches request log f log (.error e)
  | asked {ticket : Nat} {log' : List Visible} {r : Except BootstrapError Fetching}
      (h : Awaits ticket (log ++ [.request request ticket]) log' r) :
      Fetches request log .unasked log' r
  | awaited {ticket : Nat} {deadline : Option Nat} {log' : List Visible}
      {r : Except BootstrapError Fetching} (h : Awaits ticket log log' r) :
      Fetches request log (.pending ticket deadline) log' r

theorem await_noted (h : Host ω) (w : ω) (log : List Visible) (stage : BootstrapStage)
    (name : String) (ticket : Nat) (deadline : Option Nat) :
    ∃ log', h.noted.await (w, log) stage name ticket deadline =
        (((h.await w stage name ticket deadline).1, log'),
          (h.await w stage name ticket deadline).2) ∧
      Awaits ticket log log' (h.await w stage name ticket deadline).2 := by
  have hpoll : h.noted.fetcher.poll (w, log) ticket =
      (((h.fetcher.poll w ticket).1,
          log ++ ((h.fetcher.poll w ticket).2.map (Visible.answer ticket)).toList),
        (h.fetcher.poll w ticket).2) := rfl
  unfold Host.await
  rw [hpoll]
  obtain ⟨w', answer⟩ := h.fetcher.poll w ticket
  match answer with
  | some (.ok r) => exact ⟨_, rfl, .arrived⟩
  | some (.error e) => exact ⟨_, rfl, .failed⟩
  | none =>
    have hnow : h.noted.now (w', log ++ []) = h.now w' := rfl
    by_cases hlate : (deadline.any fun d => d ≤ h.now w') = true
    · simp only [Option.map_none, Option.toList_none, hnow, if_pos hlate]
      exact ⟨_, rfl, by rw [List.append_nil]; exact .late⟩
    · simp only [Option.map_none, Option.toList_none, hnow, if_neg hlate]
      exact ⟨_, rfl, by rw [List.append_nil]; exact .waiting⟩

theorem fetch_noted (h : Host ω) (w : ω) (log : List Visible) (limit : Option Nat)
    (stage : BootstrapStage) (request : LoadRequest) (f : Fetching) :
    ∃ log', h.noted.fetch (w, log) limit stage request f =
        (((h.fetch w limit stage request f).1, log'), (h.fetch w limit stage request f).2) ∧
      Fetches request log f log' (h.fetch w limit stage request f).2 := by
  cases f with
  | arrived r => exact ⟨log, rfl, .here⟩
  | pending ticket deadline =>
    by_cases hcancelled : h.cancelled w = true
    · have hnoted : h.noted.cancelled (w, log) = true := hcancelled
      simp only [Host.fetch, if_pos hcancelled, if_pos hnoted]
      exact ⟨log, rfl, .cancelled⟩
    · have hnoted : ¬ h.noted.cancelled (w, log) = true := hcancelled
      simp only [Host.fetch, if_neg hcancelled, if_neg hnoted]
      obtain ⟨log', heq, hawaits⟩ := await_noted h w log stage request.name ticket deadline
      exact ⟨log', heq, .awaited hawaits⟩
  | unasked =>
    by_cases hcancelled : h.cancelled w = true
    · have hnoted : h.noted.cancelled (w, log) = true := hcancelled
      simp only [Host.fetch, if_pos hcancelled, if_pos hnoted]
      exact ⟨log, rfl, .cancelled⟩
    · have hnoted : ¬ h.noted.cancelled (w, log) = true := hcancelled
      simp only [Host.fetch, if_neg hcancelled, if_neg hnoted]
      obtain ⟨log', heq, hawaits⟩ := await_noted h (h.fetcher.request w request).1
        (log ++ [.request request (h.fetcher.request w request).2]) stage request.name
        (h.fetcher.request w request).2
        (limit.map (h.now (h.fetcher.request w request).1 + ·))
      exact ⟨log', heq, .asked hawaits⟩

end Fetch

section Run

/-- What running a system module adds to the log, and what comes of it. -/
inductive Runs (r : Resource) (origin : String) (log : List Visible) :
    List Visible → Except BootstrapError (Domain ω) → Prop where
  | refused {e : BootstrapError} : Runs r origin log log (.error e)
  | unloaded {id : Nat} {code : Bytes} {fault : ModuleError} {e : BootstrapError}
      (hcode : r = .binary code) :
      Runs r origin log (log ++ [.call (.load id code origin (.error fault))]) (.error e)
  | failed {id : Nat} {code : Bytes} {m : Module} {fault : ModuleError} {e : BootstrapError}
      (hcode : r = .binary code) :
      Runs r origin log (log ++ [.call (.load id code origin (.ok m))] ++
        [.call (.execute m (.error fault))]) (.error e)
  | ran {id : Nat} {code : Bytes} {m : Module} {d : Domain ω} (hcode : r = .binary code)
      (hd : d.executed = d.modules.length) :
      Runs r origin log (log ++ [.call (.load id code origin (.ok m))] ++
        [.call (.execute m (.ok ()))]) (.ok d)

/-- A module of bytes that is executed next. -/
theorem runModule_binary (w : ω) (stage : BootstrapStage) {d : Domain ω}
    (hd : d.executed = d.modules.length) (code : Bytes) (name origin : String) :
    Attempt.runModule w stage d (.binary code) name origin =
      match d.executor.load w d.modules.length code origin with
      | (w, .error e) => (w, .error (.failed stage (.module e)))
      | (w, .ok m) =>
        match d.executor.execute w m with
        | (w, .error e) => (w, .error (.failed stage (.module e)))
        | (w, .ok ()) =>
          (w, .ok { d with modules := d.modules ++ [m], executed := d.executed + 1 }) := by
  have hcode : inStage stage .fetch ((Resource.binary code).bytes name) = .ok code := rfl
  simp only [Attempt.runModule, hcode, Domain.loadAndExecute_of_executed _ _ _ _ hd]
  obtain ⟨w', loaded⟩ := d.executor.load w d.modules.length code origin
  cases loaded with
  | error e => rfl
  | ok m =>
    dsimp only
    obtain ⟨w'', executed⟩ := d.executor.execute w' m
    cases executed <;> rfl

theorem runModule_noted (w : ω) (log : List Visible) (stage : BootstrapStage) {d : Domain ω}
    (hd : d.executed = d.modules.length) (r : Resource) (name origin : String) :
    ∃ log', Attempt.runModule (w, log) stage d.noted r name origin =
        (((Attempt.runModule w stage d r name origin).1, log'),
          (Attempt.runModule w stage d r name origin).2.map Domain.noted) ∧
      Runs r origin log log' (Attempt.runModule w stage d r name origin).2 := by
  cases r with
  | structured v => exact ⟨log, rfl, .refused⟩
  | binary code =>
    have hnoted : d.noted.executed = d.noted.modules.length := hd
    have hload : d.noted.executor.load (w, log) d.noted.modules.length code origin =
        (((d.executor.load w d.modules.length code origin).1, log ++ [.call (.load d.modules.length
          code origin (d.executor.load w d.modules.length code origin).2)]),
        (d.executor.load w d.modules.length code origin).2) := rfl
    rw [runModule_binary w stage hd, runModule_binary (w, log) stage hnoted, hload]
    obtain ⟨w₁, loaded⟩ := d.executor.load w d.modules.length code origin
    cases loaded with
    | error e => exact ⟨_, rfl, .unloaded rfl⟩
    | ok m =>
      have hexecute (log : List Visible) : d.noted.executor.execute (w₁, log) m =
          (((d.executor.execute w₁ m).1, log ++ [.call (.execute m (d.executor.execute w₁ m).2)]),
            (d.executor.execute w₁ m).2) := rfl
      simp only [hexecute]
      obtain ⟨w₂, executed⟩ := d.executor.execute w₁ m
      cases executed with
      | error e => exact ⟨_, rfl, .failed rfl⟩
      | ok u => exact ⟨_, rfl, .ran rfl (by simp [hd])⟩

end Run

end ContentPlayer
