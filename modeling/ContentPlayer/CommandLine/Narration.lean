import ContentPlayer.CommandLine.Console

namespace ContentPlayer.Narration

def ofRequest (root : String) (r : LoadRequest) : List LogLine :=
  [⟨.debug, "bootstrap", s!"Fetching {r.name} ({r.kind.name})"⟩,
    ⟨.debug, "resources", s!"Fetching {r.name} from {Text.quotedPath root}"⟩]

def completed (stage : BootstrapStage) : LogLine :=
  ⟨.info, "bootstrap", s!"Stage {stage.name} complete"⟩

/-- What is said when an attempt that stood in a phase has got as far as another. -/
def ofProgress {ω α : Type} (phase : Phase ω) : Progress ω α → List LogLine
  | .waiting a =>
    match phase, a.phase with
    | .baseline _ _, .catalog _ _ _ => [completed .baseline]
    | .catalog _ _ _, .shell d _ =>
      let size := (d.catalog.map Catalog.size).getD 0
      [⟨.info, "domain", s!"Registered catalog with {size} entries"⟩, completed .catalog]
    | _, _ => []
  | .ended (.ok (some _)) => [completed .shell]
  | .ended (.ok none) => [completed .baseline]
  | .ended (.error (.failed _ (.fetch e))) =>
    [⟨.error, "bootstrap", s!"Failed to fetch {e.name}: {e.status}"⟩]
  | .ended (.error _) => []

def begun (info : HostInfo) (flags : LibraryFlags) : LogLine :=
  let bits := String.ofList (Nat.toDigits 2 flags.bits.toNat)
  let padded := if bits.length < 2 then "0" ++ bits else bits
  ⟨.info, "bootstrap",
    s!"Bootstrapping {info.url} (content version {info.version}, flags 0b{padded})"⟩

def published (info : HostInfo) : List LogLine :=
  [⟨.debug, "display", "Stage linked to render surface"⟩,
    ⟨.info, "bootstrap", s!"Execution domain published for {info.url}"⟩,
    ⟨.info, "player", "Execution domain ready"⟩]

def describeOutcome : DispatchOutcome → String
  | .registered registry duplicate =>
    "Registered \x7b registry: " ++ registry.name ++ ", duplicate_root: " ++ toString duplicate ++
      " \x7d"
  | .rootGrafted content report =>
    "RootGrafted \x7b content: " ++ describeNode content ++
      ", report: ConstructorReport \x7b executed: " ++ toString report.executed ++
      ", failures: [] \x7d \x7d"
  | .ignored => "Ignored"
  | .unhandled typeName => "Unhandled \x7b type_name: " ++ Text.quoted typeName ++ " \x7d"

def ofEvent (e : DisplayEvent) : LogLine :=
  ⟨.trace, "display", s!"{e.kind.name} -> {describeNode e.target}"⟩

/-- What is said when the root scene was put on the stage. -/
def ofGraft (template : Template) (report : ConstructorReport) (events : List DisplayEvent) :
    List LogLine :=
  let failed := s!"{report.failures.length} of {report.executed} constructors failed"
  (if report.isClean then []
    else [⟨.warn, "assets", s!"{failed} while grafting {template.name}"⟩]) ++
  events.map ofEvent ++
  [⟨.info, "assets", s!"Root scene {template.name} grafted onto stage"⟩]

/-- What is said of an asset that was dispatched, around what its constructors brought. -/
def ofDispatch (asset : Asset) (outcome : DispatchOutcome) (constructing : List LogLine)
    (events : List DisplayEvent) : List LogLine :=
  ⟨.trace, "assets", s!"Dispatching {asset.name} ({asset.type.name})"⟩ ::
  match outcome, asset.payload with
  | .rootGrafted _ report, .scene template => constructing ++ ofGraft template report events
  | _, .graphic kind =>
    [⟨.trace, "assets", s!"Graphic {asset.name} ({kind.name}) not registered"⟩]
  | _, .unknown typeName =>
    [⟨.warn, "assets", s!"Unknown asset type {typeName} for {asset.name}"⟩]
  | _, _ => []

/-- The last word on an asset. -/
def ofOutcome (path : String) (outcome : DispatchOutcome) : LogLine :=
  match outcome with
  | .rootGrafted _ report =>
    if report.isClean then ⟨.info, "player", s!"Dispatched {path}: {describeOutcome outcome}"⟩
    else ⟨.warn, "player", s!"{report.failures.length} constructors failed"⟩
  | _ => ⟨.info, "player", s!"Dispatched {path}: {describeOutcome outcome}"⟩

def ofTick (t : FrameTick) : LogLine :=
  let objects := s!"{t.started.length} started, {t.advanced} advanced"
  ⟨.info, "player", s!"Frame {t.frame}: {objects}, {t.events.length} events"⟩

end ContentPlayer.Narration
