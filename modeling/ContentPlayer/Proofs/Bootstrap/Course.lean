import ContentPlayer.Proofs.Bootstrap.Call

namespace ContentPlayer

/-- A moment in a course of events, and what others are going to do whenever it has to wait. -/
structure Moment (ω : Type) where
  outside : ω
  world : World ω
  interludes : List (Interlude ω)

/-- Things done one after the other, of which the first that goes wrong ends all. Nothing comes of a
course that still waits when the others have done all they do. -/
def Course (ω α : Type) : Type := Moment ω → Option (Except BootstrapError α × Moment ω)

namespace Course

variable {ω α β σ ε : Type}

instance : Monad (Course ω) where
  pure a m := some (.ok a, m)
  bind c next m :=
    match c m with
    | none => none
    | some (.error e, m) => some (.error e, m)
    | some (.ok a, m) => next a m

theorem bind_apply (c : Course ω α) (next : α → Course ω β) (m : Moment ω) :
    (c >>= next) m =
      match c m with
      | none => none
      | some (.error e, m) => some (.error e, m)
      | some (.ok a, m) => next a m := rfl

/-- Something done at once, in which the outside takes part. -/
def act (f : ω → ω × Except BootstrapError α) : Course ω α := fun m =>
  some ((f m.outside).2, { m with outside := (f m.outside).1 })

/-- What goes wrong in a stage is told with the stage. -/
def failing (stage : BootstrapStage) (failure : ε → StageFailure) :
    Except ε α → Except BootstrapError α
  | .ok a => .ok a
  | .error e => .error (.failed stage (failure e))

theorem failing_eq (stage : BootstrapStage) (failure : ε → StageFailure) (r : Except ε α) :
    failing stage failure r = inStage stage failure r := by
  cases r <;> rfl

def check (stage : BootstrapStage) (failure : ε → StageFailure) (r : Except ε α) : Course ω α :=
  act fun w => (w, failing stage failure r)

def waitFrom (look : σ → ω → ω × Except BootstrapError σ) (result : σ → Option α) :
    List (Interlude ω) → World ω → σ → ω → Option (Except BootstrapError α × Moment ω)
  | interludes, world, s, w =>
    match look s w with
    | (w, .error e) => some (.error e, ⟨w, world, interludes⟩)
    | (w, .ok s) =>
      match result s, interludes with
      | some a, interludes => some (.ok a, ⟨w, world, interludes⟩)
      | none, [] => none
      | none, others :: rest =>
        let (w, world) := others (w, world)
        waitFrom look result rest world s w

/-- Looks now, and after each interlude again, until there is a result. -/
def wait (look : σ → ω → ω × Except BootstrapError σ) (result : σ → Option α) (s : σ) :
    Course ω α := fun m =>
  waitFrom look result m.interludes m.world s m.outside

end Course

variable {ω : Type}

def Fetching.resource? : Fetching → Option Resource
  | .arrived r => some r
  | _ => none

/-- The ticket and the deadline of a fetch, which is asked for first if it has not been. -/
def Host.ask (h : Host ω) (limit : Option Nat) (request : LoadRequest) (w : ω) :
    Fetching → ω × Nat × Option Nat
  | .pending ticket deadline => (w, ticket, deadline)
  | _ =>
    let (w, ticket) := h.fetcher.request w request
    (w, ticket, limit.map (h.now w + ·))

/-- What becomes of a fetch that was asked for, by the answer that is there or not. -/
def Fetching.judge (stage : BootstrapStage) (name : String) (ticket : Nat) (deadline : Option Nat)
    (now : Nat) : Option (Except FetchError Resource) → Except BootstrapError Fetching
  | some (.ok r) => .ok (.arrived r)
  | some (.error e) => .error (.failed stage (.fetch e))
  | none =>
    if deadline.any fun t => t ≤ now then .error (.failed stage (.fetch ⟨name, "timeout"⟩))
    else .ok (.pending ticket deadline)

/-- Looks at a fetch once. A cancellation outranks an answer, and an answer outranks the limit. -/
def Host.look (h : Host ω) (limit : Option Nat) (stage : BootstrapStage) (request : LoadRequest) :
    Fetching → ω → ω × Except BootstrapError Fetching
  | .arrived r, w => (w, .ok (.arrived r))
  | f, w =>
    if h.cancelled w then (w, .error (.cancelled stage))
    else
      let (w, ticket, deadline) := h.ask limit request w f
      let (w, answer) := h.fetcher.poll w ticket
      (w, Fetching.judge stage request.name ticket deadline (h.now w) answer)

/-- Looks at two fetches of one stage, the first fault counting. -/
def Host.lookBoth (h : Host ω) (limit : Option Nat) (stage : BootstrapStage)
    (first second : LoadRequest) :
    Fetching × Fetching → ω → ω × Except BootstrapError (Fetching × Fetching)
  | (f, g), w =>
    match h.look limit stage first f w with
    | (w, .error e) => (w, .error e)
    | (w, .ok f) =>
      match h.look limit stage second g w with
      | (w, .error e) => (w, .error e)
      | (w, .ok g) => (w, .ok (f, g))

namespace Course

variable (h : Host ω) (config : BootstrapConfig) (x : Executor ω)

/-- The milliseconds after which a fetch has failed; none are no limit. -/
def allowance : Option Nat :=
  match config.fetchTimeout.toNat with
  | 0 => none
  | n + 1 => some (n + 1)

theorem allowance_eq : allowance config = config.limit := by
  unfold allowance BootstrapConfig.limit
  cases hn : config.fetchTimeout.toNat with
  | zero =>
    have hzero : config.fetchTimeout = 0 := UInt64.toNat_inj.mp hn
    rw [if_pos hzero]
  | succ n =>
    have hpos : config.fetchTimeout ≠ 0 := fun hzero => by simp [hzero] at hn
    rw [if_neg hpos]

/-- The library of the platform is asked for. -/
def wantsPlatform (flags : LibraryFlags) : Bool := flags.bits.toNat.testBit 1

theorem wantsPlatform_eq (flags : LibraryFlags) :
    wantsPlatform flags = flags.contains .playerglobal := by
  obtain ⟨⟨bits⟩⟩ := flags
  revert bits
  decide

/-- The bytes of a resource, which must be one of bytes. -/
def bytesOf (stage : BootstrapStage) (name : String) : Resource → Course ω Bytes
  | .binary bytes => fun m => some (.ok bytes, m)
  | .structured _ => fun m =>
    some (.error (.failed stage (.fetch ⟨name, "expected binary response"⟩)), m)

theorem bytesOf_eq (stage : BootstrapStage) (name : String) (r : Resource) :
    (bytesOf stage name r : Course ω Bytes) = check stage .fetch (r.bytes name) := by
  cases r <;> rfl

/-- The value of a resource, which must be a document. -/
def documentOf (stage : BootstrapStage) (name : String) : Resource → Course ω Json
  | .structured v => fun m => some (.ok v, m)
  | .binary _ => fun m =>
    some (.error (.failed stage (.fetch ⟨name, "expected structured response"⟩)), m)

theorem documentOf_eq (stage : BootstrapStage) (name : String) (r : Resource) :
    (documentOf stage name r : Course ω Json) = check stage .fetch (r.json name) := by
  cases r <;> rfl

/-- Fetches a resource, from where the fetch is. -/
def fetch (limit : Option Nat) (stage : BootstrapStage) (request : LoadRequest) (f : Fetching) :
    Course ω Resource :=
  wait (h.look limit stage request) Fetching.resource? f

def fetchBoth (limit : Option Nat) (stage : BootstrapStage) (first second : LoadRequest)
    (f g : Fetching) : Course ω (Resource × Resource) :=
  wait (h.lookBoth limit stage first second)
    (fun s => do return (← s.1.resource?, ← s.2.resource?)) (f, g)

def run (stage : BootstrapStage) (id : Nat) (code : Bytes) (origin : String) : Course ω Module := do
  let m ← act fun w =>
    ((x.load w id code origin).1, failing stage .module (x.load w id code origin).2)
  act fun w => ((x.execute w m).1, failing stage .module (x.execute w m).2)
  return m

def baseline (builtin : Fetching) : Course ω Module := do
  let r ← fetch h (allowance config) .baseline ⟨config.builtin, .binary⟩ builtin
  let code ← bytesOf .baseline config.builtin r
  run x .baseline 0 code builtinOrigin

def catalog (code index : Fetching) : Course ω Catalog := do
  let (code, index) ← fetchBoth h (allowance config) .catalog ⟨config.catalog, .binary⟩
    ⟨config.catalogIndex, .structured⟩ code index
  let bytes ← bytesOf .catalog config.catalog code
  let document ← documentOf .catalog config.catalogIndex index
  check .catalog .catalog (Catalog.ofJson bytes document)

def shell (shell : Fetching) : Course ω Module := do
  let r ← fetch h (allowance config) .shell ⟨config.shell, .binary⟩ shell
  let code ← bytesOf .shell config.shell r
  run x .shell 1 code shellOrigin

def publish (info : HostInfo) (d : Domain ω) : Course ω Factory := fun m =>
  some (.ok (m.world.publish d info).2, { m with world := (m.world.publish d info).1 })

/-- Publishes the domain, unless the bootstrap is cancelled by then. -/
def finalize (info : HostInfo) (d : Domain ω) : Course ω Factory := do
  act fun w => (w, if h.cancelled w then .error (.cancelled .finalize) else .ok ())
  publish info d

/-- A bootstrap as a sequence of stages. Without the library of the platform it ends after the
first, and there is no factory. -/
def bootstrap (info : HostInfo) (flags : LibraryFlags) : Course ω (Option Factory) := do
  let builtin ← baseline h config x .unasked
  if !wantsPlatform flags then return none
  let catalog ← catalog h config .unasked .unasked
  let shell ← shell h config x .unasked
  let factory ← finalize h info
    { executor := x
      version := info.version
      modules := [builtin, shell]
      executed := 2
      catalog := some catalog }
  return some factory

end Course

end ContentPlayer
