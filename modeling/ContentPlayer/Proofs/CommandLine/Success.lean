import ContentPlayer.Proofs.CommandLine.Lines
import ContentPlayer.Proofs.CommandLine.Outcome

namespace ContentPlayer

/-- What a first frame comes to after an asset was presented on an empty stage: how many objects
start, how many others are taken on, and how many events there were. -/
def Asset.opening (a : Asset) : Nat × Nat × Nat :=
  match a.payload, a.isRootScene with
  | .scene t, true => (1, t.nodeCount - 1, t.nodeCount + 1)
  | _, _ => (0, 0, 0)

theorem Asset.opening_of_root {a : Asset} {t : Template} (hroot : a.rootTemplate? true = some t) :
    a.opening = (1, t.nodeCount - 1, t.nodeCount + 1) := by
  obtain ⟨name, payload, isRootScene⟩ := a
  cases payload <;> cases isRootScene <;> simp_all [rootTemplate?, opening]

theorem Asset.opening_of_no_root {a : Asset} (hroot : a.rootTemplate? true = none) :
    a.opening = (0, 0, 0) := by
  obtain ⟨name, payload, isRootScene⟩ := a
  cases payload <;> cases isRootScene <;> simp_all [rootTemplate?, opening]

def FrameTick.counts (t : FrameTick) : Nat × Nat × Nat :=
  (t.started.length, t.advanced, t.events.length)

namespace World

variable {ω : Type} (world : World ω)

theorem sessionDomain?_publish (d : Domain ω) (info : HostInfo) :
    (world.publish d info).1.sessionDomain? =
      some (world.domains.length, { d with stage := some world.stages.length }) :=
  sessionDomain?_eq_some.mpr ⟨rfl, List.getElem?_concat_length⟩

theorem sessionStage?_publish (d : Domain ω) (info : HostInfo) :
    (world.publish d info).1.sessionStage? = some (world.stages.length, .attach info.surface) :=
  sessionStage?_eq_some.mpr ⟨rfl, List.getElem?_concat_length⟩

variable {world}

theorem tick_enterFrame {id : StageId} {s : Stage} (hstage : world.sessionStage? = some (id, s)) :
    world.enterFrame.2 = some s.enterFrame.2 := by
  rw [enterFrame, hstage]

end World

namespace Stage

/-- The first frame of a stage with nothing on it but a content. -/
theorem counts_enterFrame_graft {ω : Type}
    (run : ω → ConstructorCall → ω × Except ScriptError Unit) (w : ω) (surface : Surface)
    (template : Template) (loader : Option LoaderInfo) :
    let tick := ((attach surface).graft run w template loader).2.1.enterFrame.2
    tick.frame = 1 ∧ tick.counts = (1, template.nodeCount - 1, template.nodeCount + 1) := by
  have hlinked : (attach surface).tree.Linked := DisplayTree.linked_empty.spawn "stage" 1
  have hroot : (attach surface).root < (attach surface).tree.size := Nat.zero_lt_one
  intro tick
  have htick : tick = _ := enterFrame_graft run w template loader hlinked hroot rfl
  rw [htick]
  refine ⟨rfl, ?_⟩
  have hevents : (attach surface).tree.events = [] := rfl
  simp [FrameTick.counts, hevents]

end Stage

/-- What the first frame comes to when the asset is all that was dispatched. -/
theorem GraftState.tick_of_idle {ω : Type} (w : ω) {world : World ω} {p : DomainId × Domain ω}
    {id : StageId} {surface : Surface} (hdomain : world.sessionDomain? = some p)
    (hstage : world.sessionStage? = some (id, .attach surface)) (asset : Asset) :
    ∃ w' world' graft outcome tick,
      GraftState.idle.dispatch w world asset true = (w', world', graft, .ok outcome) ∧
      world'.enterFrame.2 = some tick ∧ tick.frame = 1 ∧ tick.counts = asset.opening := by
  let world₁ := world.setDomain p.1 (p.2.taking asset world.session.loader)
  have hstage₁ : world₁.sessionStage? = some (id, .attach surface) := hstage
  cases hroot : asset.rootTemplate? true with
  | none =>
    exact ⟨w, world₁, .idle, _, _, dispatch_of_no_root w hdomain hroot .idle,
      World.tick_enterFrame hstage₁, rfl, (Asset.opening_of_no_root hroot).symm⟩
  | some template =>
    have hdomain₁ : world₁.sessionDomain? = some (p.1, p.2.taking asset world.session.loader) :=
      World.sessionDomain?_setDomain hdomain _
    have hgraft := graft_eq w hdomain₁ hstage₁ template
    let run (w : ω) (call : ConstructorCall) :=
      (p.2.taking asset world.session.loader).construct w call
    let stage := ((Stage.attach surface).graft run w template world.session.loader).2.1
    have hset : (world₁.setStage id stage).sessionStage? = some (id, stage) :=
      World.sessionStage?_setStage hstage₁ stage
    obtain ⟨hframe, hcounts⟩ :=
      Stage.counts_enterFrame_graft run w surface template world.session.loader
    exact ⟨_, _, _, _, _, dispatch_of_graft w hdomain hroot hgraft, World.tick_enterFrame hset,
      hframe, hcounts.trans (Asset.opening_of_root hroot).symm⟩

namespace CommandLine

variable {σ : Type}

/-- Once a domain is published, any asset can be presented, and the last that is said is what the
first frame came to. -/
theorem present_eq (c : Console σ) {p : Player (Console σ)} {d : Domain (Console σ)}
    {info : HostInfo} (hworld : p.world = (({} : World (Console σ)).publish d info).1)
    (hgraft : p.graft = .idle) (path : String) (asset : Asset) (lines : List LogLine) :
    ∃ shown tick, present c p path asset lines = ⟨true, shown ++ [Narration.ofTick tick]⟩ ∧
      tick.frame = 1 ∧ tick.counts = asset.opening := by
  have hdomain := World.sessionDomain?_publish {} d info
  have hstage := World.sessionStage?_publish {} d info
  rw [← hworld] at hdomain hstage
  obtain ⟨c', world, graft, outcome, tick, hdispatch, htick, hframe, hcounts⟩ :=
    GraftState.tick_of_idle c hdomain hstage asset
  have hplayer : p.dispatch c asset true = (c', { p with world, graft }, .ok outcome) := by
    rw [Player.dispatch, hgraft, hdispatch]
  have henter : ({ p with world, graft } : Player (Console σ)).enterFrame.2 = some tick := htick
  refine ⟨lines ++ Narration.ofDispatch asset outcome c'.lines tick.events ++
    [Narration.ofOutcome path outcome], tick, ?_, hframe, hcounts⟩
  rw [present, hplayer]
  simp only [henter]
  rfl

section Playing

variable (read : String → Except FileError Bytes) (config : PlayerConfig) (args : List String)
  (lines : List LogLine)

def hostInfo : HostInfo := ⟨args.head?.getD defaultUrl, contentVersion, { viewport }⟩

/-- How the command ends once its bootstrap has come to a result. -/
def conclude :
    Console σ × Player (Console σ) × List LogLine ×
      Option (Except BootstrapError (Option Factory)) → Ending
  | (c, p, lines, some (.ok (some _))) =>
    let lines := lines ++ Narration.published (hostInfo args)
    match args[1]? with
    | none => ⟨true, lines⟩
    | some path =>
      match readAssetFile (read path) with
      | .error e => failed lines s!"Failed to read {path}: {e}"
      | .ok asset => present c p path asset lines
  | (_, _, lines, some (.error e)) => failed lines s!"Bootstrap failed: {e.message}"
  | (_, _, lines, _) =>
    ⟨true, lines ++ [⟨.warn, "player", "Bootstrap finished without a content factory"⟩]⟩

variable (i : Script.Interpreter σ)

theorem play_eq :
    let root := config.bootstrap.assetRoot
    let flags := LibraryFlags.builtin ||| LibraryFlags.playerglobal
    let went := (Player.ofParts Console.host config.bootstrap (Console.executor i)).start
      (Console.start i) (hostInfo args) flags
    let said := (narrate root (.baseline (Console.executor i) .unasked) 0 went.1 went.2.2).2
    Id.run (play (m := Id) read i config args lines) =
      conclude read args (Id.run (finish (m := Id) read root 4 went.1.takeLines.1 went.2.1
        (lines ++ Narration.begun (hostInfo args) flags :: said) went.2.2)) := by
  have hargs : args[1]? = args.tail.head? := List.head?_tail.symm
  have hthen {r} (x : Id (Console σ × Player (Console σ) × List LogLine × r)) (next)
      (e : _ → Ending) (h : ∀ r, Id.run (next r) = e r) : Id.run (x >>= next) = e (Id.run x) := h _
  dsimp only [play]
  refine (hthen _ _ (conclude read args) ?_).trans ?_
  · rintro ⟨c, p, lines, _ | _ | _ | _⟩
    · rfl
    · rfl
    · rfl
    · simp only [conclude, hargs]
      cases args.tail.head? with
      | none => rfl
      | some path =>
        have hread : Id.run (read path) = read path := rfl
        simp only [Id.run_bind, hread]
        cases readAssetFile (read path) with
        | error e => rfl
        | ok asset => rfl
  · rfl

/-- A bootstrap that has what it needs publishes a domain to a player; any other one fails. -/
theorem play_cases :
    ∃ (c : Console σ) (p : Player (Console σ)) (lines' : List LogLine) (boot : Except _ _),
      Id.run (play (m := Id) read i config args lines) =
        conclude read args (c, p, lines', some boot) ∧
      (Work.Bootable i (filed read config.bootstrap.assetRoot) config.bootstrap i.sandbox ∧
          (∃ factory d, boot = .ok (some factory) ∧ p.graft = .idle ∧
            p.world = (({} : World (Console σ)).publish d (hostInfo args)).1) ∨
        ¬ Work.Bootable i (filed read config.bootstrap.assetRoot) config.bootstrap i.sandbox ∧
          ∃ fault, boot = .error fault) := by
  have hbuiltin : (LibraryFlags.builtin ||| .playerglobal).contains .builtin = true := by decide
  have hplayer : (LibraryFlags.builtin ||| .playerglobal).contains .playerglobal = true := by
    decide
  rw [play_eq]
  obtain ⟨c, p, lines', hfinish, hworld, hgraft⟩ :=
    start_finish read config.bootstrap.assetRoot i config.bootstrap (hostInfo args) hbuiltin _
  refine ⟨c, p, lines', _, congrArg (conclude read args) hfinish, ?_⟩
  rcases Work.bootstrap_cases i (filed read config.bootstrap.assetRoot) config.bootstrap
      (Console.executor i) (hostInfo args) hplayer i.sandbox {} with
    ⟨hboot, e', d, hdone⟩ | ⟨hboot, s', fault, hdone⟩
  · rw [hdone] at hworld ⊢
    exact .inl ⟨hboot, _, d, rfl, hgraft, hworld⟩
  · rw [hdone]
    exact .inr ⟨hboot, fault, rfl⟩

end Playing

/-- A file with something in it, for a name below the root. -/
def Provides (read : String → Except FileError Bytes) (root name : String) (bytes : Bytes) : Prop :=
  read (Path.join root name) = .ok bytes ∧ bytes ≠ []

section Files

variable {read : String → Except FileError Bytes} {root name : String}

theorem filed_binary {bytes : Bytes} :
    filed read root ⟨name, .binary⟩ = .ok (.binary bytes) ↔ Provides read root name bytes := by
  simp only [filed, LoadRequest.answer, LoadRequest.path, Provides]
  cases read (Path.join root name) with
  | error e => simp
  | ok found =>
    cases found with
    | nil => simp
    | cons b rest =>
      simp only [Except.ok.injEq, Resource.binary.injEq]
      constructor
      · rintro rfl
        exact ⟨rfl, List.cons_ne_nil _ _⟩
      · exact And.left

theorem filed_structured {document : Json} :
    filed read root ⟨name, .structured⟩ = .ok (.structured document) ↔
      ∃ bytes, Provides read root name bytes ∧ documentOfBytes bytes = .ok document := by
  simp only [filed, LoadRequest.answer, LoadRequest.path, Provides]
  cases read (Path.join root name) with
  | error e => simp
  | ok found =>
    cases found with
    | nil => simp
    | cons b rest =>
      have hfound : (∃ bytes, ((Except.ok (b :: rest) : Except FileError Bytes) = .ok bytes ∧
          bytes ≠ []) ∧ documentOfBytes bytes = .ok document) ↔
          documentOfBytes (b :: rest) = .ok document := by
        simp
      rw [hfound]
      cases hdocument : documentOfBytes (b :: rest) with
      | error e => simp [hdocument]
      | ok v => simp [hdocument]

end Files

/-- The files of the system modules and of the catalog: the two scripts run one after the other,
and the entries of the index lie within the catalog. -/
def SystemFiles (i : Script.Interpreter σ) (read : String → Except FileError Bytes)
    (config : BootstrapConfig) : Prop :=
  ∃ builtin catalog index shell e e' document entries,
    Provides read config.assetRoot config.builtin builtin ∧
    Provides read config.assetRoot config.catalog catalog ∧
    Provides read config.assetRoot config.catalogIndex index ∧
    Provides read config.assetRoot config.shell shell ∧
    Script.Runs i i.sandbox builtin e ∧ Script.Runs i e shell e' ∧
    documentOfBytes index = .ok document ∧ Shape.ofValue Catalog.readIndex document = .ok entries ∧
    ∀ entry ∈ entries, entry.stop ≤ catalog.length

/-- A file that holds an asset. -/
def HoldsAsset (file : Except FileError Bytes) (asset : Asset) : Prop :=
  ∃ bytes text, file = .ok bytes ∧ Text.decode bytes = .ok text ∧ Asset.ofText text = .ok asset

theorem readAssetFile_eq_ok {file : Except FileError Bytes} {asset : Asset} :
    readAssetFile file = .ok asset ↔ HoldsAsset file asset := by
  rw [readAssetFile, HoldsAsset, fileText]
  cases file with
  | error e => simp [Except.mapError, bind, Except.bind]
  | ok bytes =>
    cases hdecode : Text.decode bytes with
    | error fault => simp [Except.mapError, bind, Except.bind, hdecode]
    | ok text =>
      cases hasset : Asset.ofText text with
      | error fault => simp [Except.mapError, bind, Except.bind, hdecode, hasset]
      | ok found => simp [Except.mapError, bind, Except.bind, hdecode, hasset]

theorem systemFiles_iff {i : Script.Interpreter σ} {read : String → Except FileError Bytes}
    {config : BootstrapConfig} :
    SystemFiles i read config ↔
      Work.Bootable i (filed read config.assetRoot) config i.sandbox := by
  simp only [Work.Bootable, filed_binary, filed_structured]
  constructor
  · rintro ⟨builtin, bytes, index, shell, e, e', document, entries, hbuiltin, hbytes, hindex,
      hshell, hruns, hruns', hdocument, hentries, hwithin⟩
    obtain ⟨catalog, hcatalog⟩ := Catalog.ofJson_eq_ok.mpr ⟨entries, hentries, hwithin⟩
    exact ⟨builtin, bytes, document, catalog, shell, e, e', hbuiltin, hruns, hbytes,
      ⟨index, hindex, hdocument⟩, hcatalog, hshell, hruns'⟩
  · rintro ⟨builtin, bytes, document, catalog, shell, e, e', hbuiltin, hruns, hbytes,
      ⟨index, hindex, hdocument⟩, hcatalog, hshell, hruns'⟩
    obtain ⟨entries, hentries, hwithin⟩ := Catalog.ofJson_eq_ok.mp ⟨catalog, hcatalog⟩
    exact ⟨builtin, bytes, index, shell, e, e', document, entries, hbuiltin, hbytes, hindex,
      hshell, hruns, hruns', hdocument, hentries, hwithin⟩

section Run

variable (i : Script.Interpreter σ) (read : String → Except FileError Bytes)
  (config : PlayerConfig) (args : List String) (lines : List LogLine)

theorem success_play :
    (Id.run (play (m := Id) read i config args lines)).success = true ↔
      SystemFiles i read config.bootstrap ∧
        ∀ path, args[1]? = some path → ∃ asset, HoldsAsset (read path) asset := by
  obtain ⟨c, p, said, boot, hplay,
      ⟨hboot, factory, d, rfl, hgraft, hworld⟩ | ⟨hboot, fault, rfl⟩⟩ :=
    play_cases read config args lines i
  · rw [hplay, systemFiles_iff]
    simp only [hboot, true_and, conclude]
    cases args[1]? with
    | none => simp
    | some path =>
      simp only [Option.some.injEq, forall_eq', ← readAssetFile_eq_ok]
      cases readAssetFile (read path) with
      | error e => simp [failed]
      | ok asset =>
        obtain ⟨shown, tick, hpresent, -⟩ :=
          present_eq c hworld hgraft path asset (said ++ Narration.published (hostInfo args))
        simp [hpresent]
  · rw [hplay, systemFiles_iff]
    simp [hboot, conclude, failed]

variable {i read config args}

/-- The last that is said of an asset is what the first frame came to. -/
theorem play_of_asset (hfiles : SystemFiles i read config.bootstrap) {path : String}
    (hpath : args[1]? = some path) {asset : Asset} (hasset : HoldsAsset (read path) asset) :
    ∃ shown tick, Id.run (play (m := Id) read i config args lines) =
        ⟨true, shown ++ [Narration.ofTick tick]⟩ ∧
      tick.frame = 1 ∧ tick.counts = asset.opening := by
  obtain ⟨c, p, said, boot, hplay, ⟨-, factory, d, rfl, hgraft, hworld⟩ | ⟨hboot, -⟩⟩ :=
    play_cases read config args lines i
  · obtain ⟨shown, tick, hpresent, hframe, hcounts⟩ :=
      present_eq c hworld hgraft path asset (said ++ Narration.published (hostInfo args))
    refine ⟨shown, tick, ?_, hframe, hcounts⟩
    simp only [hplay, conclude, hpath, readAssetFile_eq_ok.mpr hasset, hpresent]
  · exact absurd (systemFiles_iff.mp hfiles) hboot

end Run

/-- An ending of which a log shows some lines, or none. -/
def Ending.shown (e : Ending) : Option LogFilter → Ending
  | none => { e with lines := [] }
  | some filter => { e with lines := e.lines.filter filter.shows }

theorem Ending.success_shown (e : Ending) (filter : Option LogFilter) :
    (e.shown filter).success = e.success := by
  cases filter <;> rfl

theorem runWith_eq (i : Script.Interpreter σ) (read : String → Except FileError Bytes)
    (env : Environment) (args : List String) :
    let config := (Id.run (PlayerConfig.load (m := Id) read)).override env
    let lines : List LogLine := [⟨.info, "player", "Player runtime starting"⟩]
    Id.run (runWith (m := Id) read i env args) =
      (match config.validate with
        | .error e => failed lines s!"Invalid configuration: {e.message}"
        | .ok () => Id.run (play (m := Id) read i config args lines)).shown
          (config.logging.filter? (env "RUST_LOG")) := by
  dsimp only [runWith]
  simp only [Id.run_bind]
  generalize (Id.run (PlayerConfig.load (m := Id) read)).override env = config
  cases config.validate with
  | error e => cases config.logging.filter? (env "RUST_LOG") <;> rfl
  | ok _ => cases config.logging.filter? (env "RUST_LOG") <;> rfl

/-- Whatever the engine is, the command succeeds when its configuration is valid, its system files
run, and a second argument names a file with an asset in it. Then the last line is what the first
frame came to. -/
theorem run_succeeds_iff (i : Script.Interpreter σ) (read : String → Except FileError Bytes)
    (env : Environment) (args : List String) :
    let config := (Id.run (PlayerConfig.load (m := Id) read)).override env
    let ending := Id.run (runWith (m := Id) read i env args)
    (ending.exitCode = 0 ↔
      config.validate = .ok () ∧ SystemFiles i read config.bootstrap ∧
        ∀ path, args[1]? = some path → ∃ asset, HoldsAsset (read path) asset) ∧
    (ending.exitCode = 0 → ∀ path asset filter, args[1]? = some path →
      HoldsAsset (read path) asset → config.logging.filter? (env "RUST_LOG") = some filter →
      (∀ message, filter.shows ⟨.info, "player", message⟩ = true) →
      let (started, advanced, events) := asset.opening
      ending.output.getLast? = some
        (s!"INFO player: Frame 1: {started} started, {advanced} advanced, " ++
          s!"{events} events")) := by
  intro config ending
  have hrun : ending = _ := runWith_eq i read env args
  have hsuccess : ending.exitCode = 0 ↔ ending.success = true := by
    rw [Ending.exitCode]
    cases ending.success <;> simp
  rw [hsuccess]
  cases hvalid : config.validate with
  | error e =>
    have hfailed : ending.success = false := by
      rw [hrun, hvalid, Ending.success_shown]
      rfl
    simp [hfailed]
  | ok _ =>
    have hiff : ending.success = true ↔ SystemFiles i read config.bootstrap ∧
        ∀ path, args[1]? = some path → ∃ asset, HoldsAsset (read path) asset := by
      rw [hrun, hvalid, Ending.success_shown, success_play]
    refine ⟨by simpa using hiff, ?_⟩
    intro hsucceeded path asset filter hpath hasset hfilter hshows
    obtain ⟨shown, tick, hplay, hframe, hcounts⟩ :=
      play_of_asset [⟨.info, "player", "Player runtime starting"⟩] (hiff.mp hsucceeded).1 hpath
        hasset
    have hending : ending = ⟨true, (shown ++ [Narration.ofTick tick]).filter filter.shows⟩ := by
      rw [hrun, hvalid, hfilter, hplay]
      rfl
    have hlast := output_of_shown shown (rows_ofTick tick) (hshows _) true
    rw [hending, hlast, ← hcounts, hframe]
    rfl

/-- A movie of a scene with one object in it, in short. -/
def movieText : String := "[\"m\",\x7b\"Scene\":[[\"m\",1,null,[[\"b\"]]]]\x7d,true]"

theorem ofText_movieText : Asset.ofText movieText =
    .ok ⟨"m", .scene { name := "m", children := [{ name := "b" }] }, true⟩ := by
  have hchars : movieText.toList =
      ['[', '"', 'm', '"', ',', '\x7b', '"', 'S', 'c', 'e', 'n', 'e', '"', ':', '[', '[', '"', 'm',
        '"', ',', '1', ',', 'n', 'u', 'l', 'l', ',', '[', '[', '"', 'b', '"', ']', ']', ']', ']',
        '\x7d', ',', 't', 'r', 'u', 'e', ']'] := by decide +kernel
  rw [Asset.ofText, Shape.ofText, Json.Document.ofText, hchars]
  rfl

/-- The files of the movie. Both scripts are an empty statement, and the catalog has no entries. -/
def movieFiles : String → Except FileError Bytes
  | "assets/builtins/builtin.abc" => .ok [0x3b]
  | "assets/builtins/playerglobal.abcs" => .ok [0]
  | "assets/builtins/playerglobal.json" => .ok [0x5b, 0x5d]
  | "assets/builtins/avmplus.abc" => .ok [0x3b]
  | "movie.json" => .ok (Text.encode movieText)
  | _ => .error .notFound

theorem run_succeeds_iff_movie :
    let ending := Id.run (runWith (m := Id) movieFiles Script.realm.interpreter (fun _ => none)
      ["movie", "movie.json"])
    ending.exitCode = 0 ∧ ending.output.getLast? =
      some "INFO player: Frame 1: 1 started, 1 advanced, 3 events" := by
  let movie : Asset := ⟨"m", .scene { name := "m", children := [{ name := "b" }] }, true⟩
  let i := Script.realm.interpreter
  obtain ⟨hiff, hlast⟩ :=
    run_succeeds_iff i movieFiles (fun _ => none) ["movie", "movie.json"]
  have hruns : Script.Runs i i.sandbox [0x3b] i.sandbox := ⟨";", by decide +kernel, rfl⟩
  have hfiles : SystemFiles i movieFiles {} :=
    ⟨[0x3b], [0], [0x5b, 0x5d], [0x3b], i.sandbox, i.sandbox, .array [], [], ⟨rfl, by decide⟩,
      ⟨rfl, by decide⟩, ⟨rfl, by decide⟩, ⟨rfl, by decide⟩, hruns, hruns, rfl, rfl, by decide⟩
  have hmovie : HoldsAsset (movieFiles "movie.json") movie := by
    have hdecode : Text.decode (Text.encode movieText) = .ok movieText := by decide +kernel
    exact ⟨_, movieText, rfl, hdecode, ofText_movieText⟩
  have hsucceeds :=
    hiff.mpr ⟨rfl, hfiles, fun path hpath => ⟨movie, Option.some.inj hpath ▸ hmovie⟩⟩
  exact ⟨hsucceeds, hlast hsucceeds "movie.json" movie _ rfl hmovie rfl fun _ => rfl⟩

end CommandLine

end ContentPlayer
