import ContentPlayer.Bootstrap.Error
import ContentPlayer.Bootstrap.Library
import ContentPlayer.Config.Basic
import ContentPlayer.Session.Factory

namespace ContentPlayer

/-- What the content is told about where it runs. -/
structure HostInfo where
  url : String
  version : UInt8
  surface : Surface
  deriving DecidableEq, Repr

/-- What an attempt finds outside: resources, a sign to give up, and a clock in milliseconds. -/
structure Host (ω : Type) where
  fetcher : Fetcher ω
  cancelled : ω → Bool
  now : ω → Nat

inductive Fetching where
  | unasked
  | pending (ticket : Nat) (deadline : Option Nat)
  | arrived (r : Resource)

namespace Host

variable {ω : Type}

/-- Looks for the answer to a request. An answer that is there counts even when its time is over. -/
def await (h : Host ω) (w : ω) (stage : BootstrapStage) (name : String) (ticket : Nat)
    (deadline : Option Nat) : ω × Except BootstrapError Fetching :=
  match h.fetcher.poll w ticket with
  | (w, some (.ok r)) => (w, .ok (.arrived r))
  | (w, some (.error e)) => (w, .error (.failed stage (.fetch e)))
  | (w, none) =>
    if deadline.any fun d => d ≤ h.now w then
      (w, .error (.failed stage (.fetch ⟨name, "timeout"⟩)))
    else (w, .ok (.pending ticket deadline))

/-- Takes a fetch as far as it goes now. Nothing is asked for, and no answer counts, once the
attempt is cancelled. -/
def fetch (h : Host ω) (w : ω) (limit : Option Nat) (stage : BootstrapStage)
    (request : LoadRequest) : Fetching → ω × Except BootstrapError Fetching
  | .arrived r => (w, .ok (.arrived r))
  | .pending ticket deadline =>
    if h.cancelled w then (w, .error (.cancelled stage))
    else h.await w stage request.name ticket deadline
  | .unasked =>
    if h.cancelled w then (w, .error (.cancelled stage))
    else
      let (w, ticket) := h.fetcher.request w request
      h.await w stage request.name ticket (limit.map (h.now w + ·))

end Host

/-- Where an attempt stands, with the domain made so far. -/
inductive Phase (ω : Type) where
  | baseline (executor : Executor ω) (builtin : Fetching)
  | catalog (domain : Domain ω) (code index : Fetching)
  | shell (domain : Domain ω) (shell : Fetching)

structure Attempt (ω : Type) where
  info : HostInfo
  flags : LibraryFlags
  config : BootstrapConfig
  phase : Phase ω

/-- What an attempt comes to: it waits, or ends with a domain, without one, or with an error. -/
inductive Progress (ω α : Type) where
  | waiting (attempt : Attempt ω)
  | ended (result : Except BootstrapError (Option α))

/-- The names under which the system modules run. -/
def builtinOrigin : String := "builtin.abc"

def shellOrigin : String := "avmplus.abc"

def inStage (stage : BootstrapStage) (failure : ε → StageFailure) (r : Except ε α) :
    Except BootstrapError α :=
  r.mapError fun e => .failed stage (failure e)

namespace Attempt

variable {ω : Type}

/-- Executes a system module that was fetched. -/
def runModule (w : ω) (stage : BootstrapStage) (d : Domain ω) (r : Resource)
    (name origin : String) : ω × Except BootstrapError (Domain ω) :=
  match inStage stage .fetch (r.bytes name) with
  | .error e => (w, .error e)
  | .ok code =>
    match d.loadAndExecute w code origin with
    | (w, d, .ok _) => (w, .ok d)
    | (w, _, .error e) => (w, .error (.failed stage (.module e)))

/-- The catalog of the two resources that were fetched for it. -/
def makeCatalog (config : BootstrapConfig) (code index : Resource) :
    Except BootstrapError Catalog := do
  let bytes ← inStage .catalog .fetch (code.bytes config.catalog)
  let v ← inStage .catalog .fetch (index.json config.catalogIndex)
  inStage .catalog .catalog (Catalog.ofJson bytes v)

/-- The last stage: the shell module, and a last look whether the attempt is cancelled. -/
def pollShell (h : Host ω) (w : ω) (a : Attempt ω) (d : Domain ω) (shell : Fetching) :
    ω × Progress ω (Domain ω) :=
  match h.fetch w a.config.limit .shell ⟨a.config.shell, .binary⟩ shell with
  | (w, .error e) => (w, .ended (.error e))
  | (w, .ok (.arrived r)) =>
    match runModule w .shell d r a.config.shell shellOrigin with
    | (w, .error e) => (w, .ended (.error e))
    | (w, .ok d) =>
      if h.cancelled w then (w, .ended (.error (.cancelled .finalize)))
      else (w, .ended (.ok (some d)))
  | (w, .ok shell) => (w, .waiting { a with phase := .shell d shell })

/-- The catalog and its index are fetched together; the first fault ends both. -/
def pollCatalog (h : Host ω) (w : ω) (a : Attempt ω) (d : Domain ω) (code index : Fetching) :
    ω × Progress ω (Domain ω) :=
  match h.fetch w a.config.limit .catalog ⟨a.config.catalog, .binary⟩ code with
  | (w, .error e) => (w, .ended (.error e))
  | (w, .ok code) =>
    match h.fetch w a.config.limit .catalog ⟨a.config.catalogIndex, .structured⟩ index with
    | (w, .error e) => (w, .ended (.error e))
    | (w, .ok index) =>
      match code, index with
      | .arrived code, .arrived index =>
        match makeCatalog a.config code index with
        | .error e => (w, .ended (.error e))
        | .ok catalog => a.pollShell h w (d.registerCatalog catalog) .unasked
      | code, index => (w, .waiting { a with phase := .catalog d code index })

/-- The first stage: the builtin module in a fresh domain. -/
def pollBaseline (h : Host ω) (w : ω) (a : Attempt ω) (x : Executor ω) (builtin : Fetching) :
    ω × Progress ω (Domain ω) :=
  match h.fetch w a.config.limit .baseline ⟨a.config.builtin, .binary⟩ builtin with
  | (w, .error e) => (w, .ended (.error e))
  | (w, .ok (.arrived r)) =>
    let d : Domain ω := { executor := x, version := a.info.version }
    match runModule w .baseline d r a.config.builtin builtinOrigin with
    | (w, .error e) => (w, .ended (.error e))
    | (w, .ok d) =>
      if a.flags.contains .playerglobal then a.pollCatalog h w d .unasked .unasked
      else (w, .ended (.ok none))
  | (w, .ok builtin) => (w, .waiting { a with phase := .baseline x builtin })

def poll (h : Host ω) (w : ω) (a : Attempt ω) : ω × Progress ω (Domain ω) :=
  match a.phase with
  | .baseline x builtin => a.pollBaseline h w x builtin
  | .catalog d code index => a.pollCatalog h w d code index
  | .shell d shell => a.pollShell h w d shell

/-- The deadlines that an attempt waits for. -/
def deadlines (a : Attempt ω) : List Nat :=
  let deadline : Fetching → Option Nat
    | .pending _ d => d
    | _ => none
  match a.phase with
  | .baseline _ f => (deadline f).toList
  | .catalog _ f g => (deadline f).toList ++ (deadline g).toList
  | .shell _ f => (deadline f).toList

end Attempt

end ContentPlayer
