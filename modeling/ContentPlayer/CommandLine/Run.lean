import ContentPlayer.Asset.Read
import ContentPlayer.CommandLine.Narration
import ContentPlayer.Config.Load
import ContentPlayer.Log.Filter
import ContentPlayer.Script.Executor

namespace ContentPlayer.CommandLine

/-- How a command ends, and what it has logged. -/
structure Ending where
  success : Bool
  lines : List LogLine
  deriving DecidableEq, Repr

namespace Ending

def exitCode (e : Ending) : Nat := if e.success then 0 else 1

def output (e : Ending) : List String := e.lines.flatMap LogLine.rows

end Ending

def failed (lines : List LogLine) (message : String) : Ending :=
  ⟨false, lines ++ [⟨.error, "player", message⟩]⟩

variable {m : Type → Type} [Monad m] {σ : Type} (read : String → m (Except FileError Bytes))

def answerAll (root : String) : List LoadRequest → m (List (Except FetchError Resource))
  | [] => return []
  | r :: rest => do
    let answer := r.answer (← read (r.path root))
    return answer :: (← answerAll root rest)

/-- What is logged of the last step of an attempt: what was executed, what it came to, and what was
asked for. -/
def narrate {α : Type} (root : String) (phase : Phase (Console σ)) (asked : Nat) (c : Console σ)
    (progress : Progress (Console σ) α) : Console σ × List LogLine :=
  let (c, executed) := c.takeLines
  let requests := (c.requests.drop asked).flatMap (Narration.ofRequest root)
  (c, executed ++ Narration.ofProgress phase progress ++ requests)

/-- Goes on with a bootstrap, with all its requests answered at each step. Its three stages wait
once each. -/
def finish (root : String) : Nat → Console σ → Player (Console σ) → List LogLine →
    Progress (Console σ) Factory →
    m (Console σ × Player (Console σ) × List LogLine ×
      Option (Except BootstrapError (Option Factory)))
  | _, c, p, lines, .ended result => return (c, p, lines, some result)
  | 0, c, p, lines, .waiting _ => return (c, p, lines, none)
  | fuel + 1, c, p, lines, .waiting a => do
    let answers ← answerAll read root c.unanswered
    let c := { c with answers := c.answers ++ answers }
    let asked := c.requests.length
    let (c, p, progress) := p.resume c a
    let (c, more) := narrate root a.phase asked c progress
    finish root fuel c p (lines ++ more) progress

/-- An asset from what was read of its file. -/
def readAssetFile (file : Except FileError Bytes) : Except String Asset := do
  let text ← (fileText file).mapError FileError.message
  (Asset.ofText text).mapError Shape.Fault.message

/-- Dispatches an asset as a candidate for the root, and takes a frame. -/
def present (c : Console σ) (p : Player (Console σ)) (path : String) (asset : Asset)
    (lines : List LogLine) : Ending :=
  match p.dispatch c asset true with
  | (_, _, .error e) => failed lines e.message
  | (c, p, .ok outcome) =>
    let tick := p.enterFrame.2
    let events := (tick.map FrameTick.events).getD []
    ⟨true, lines ++ Narration.ofDispatch asset outcome c.lines events ++
      [Narration.ofOutcome path outcome] ++ (tick.map Narration.ofTick).toList⟩

def viewport : Viewport := ⟨550, 400⟩

def defaultUrl : String := "file:///movie.swf"

def contentVersion : UInt8 := 10

section Play

variable (i : Script.Interpreter σ)

/-- Bootstraps a player from files, and presents the asset of a second file if one is named. -/
def play (config : PlayerConfig) (args : List String) (lines : List LogLine) : m Ending := do
  let root := config.bootstrap.assetRoot
  let info : HostInfo := ⟨args.head?.getD defaultUrl, contentVersion, { viewport }⟩
  let flags := LibraryFlags.builtin ||| LibraryFlags.playerglobal
  let p := Player.ofParts Console.host config.bootstrap (Console.executor i)
  let (c, p, progress) := p.start (Console.start i) info flags
  let (c, more) := narrate root (.baseline (Console.executor i) .unasked) 0 c progress
  let (c, p, lines, result) ←
    finish read root 4 c p (lines ++ Narration.begun info flags :: more) progress
  match result with
  | some (.ok (some _)) =>
    let lines := lines ++ Narration.published info
    match args.tail.head? with
    | none => return ⟨true, lines⟩
    | some path =>
      match readAssetFile (← read path) with
      | .error e => return failed lines s!"Failed to read {path}: {e}"
      | .ok asset => return present c p path asset lines
  | some (.error e) => return failed lines s!"Bootstrap failed: {e.message}"
  | _ =>
    return ⟨true, lines ++ [⟨.warn, "player", "Bootstrap finished without a content factory"⟩]⟩

/-- The command with an engine that has started: `[url] [root-scene.json]`. -/
def runWith (env : Environment) (args : List String) : m Ending := do
  let config := (← PlayerConfig.load read).override env
  let lines : List LogLine := [⟨.info, "player", "Player runtime starting"⟩]
  let ending ← match config.validate with
    | .error e => pure (failed lines s!"Invalid configuration: {e.message}")
    | .ok () => play read i config args lines
  match config.logging.filter? (env "RUST_LOG") with
  | none => return { ending with lines := [] }
  | some filter => return { ending with lines := ending.lines.filter filter.shows }

end Play

def run (env : Environment) (args : List String) : m Ending :=
  runWith read Script.realm.interpreter env args

end ContentPlayer.CommandLine
