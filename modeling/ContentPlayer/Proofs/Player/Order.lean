import ContentPlayer.Proofs.Bootstrap.Timing
import ContentPlayer.Proofs.Player.Boot
import ContentPlayer.Script.Executor

namespace ContentPlayer

open Script (Interpreter Sandbox piecesOf)

namespace Timed

variable {σ : Type} (i : Interpreter σ) {answer : LoadRequest → Except FetchError Resource}
  {config : BootstrapConfig} {latencies : List Nat}

/-- The script engine inside. -/
def scripts : Executor (Timed (Sandbox σ)) :=
  i.executor.within inside fun inside w => { w with inside }

theorem engages_scripts : (scripts i).Engages i inside where
  load _ _ _ _ := rfl
  execute _ _ := rfl
  construct _ _ := rfl

theorem employs_scripts (h : InTime config latencies) :
    (service answer config latencies h).Employs (scripts i) i.executor where
  over_core := (engages_scripts i).toOver
  good_load _ _ _ _ _ := trivial
  good_execute _ _ _ := trivial

/-- All scripts run in one scope, in one order: the system modules, and then what is asked for, an
entry of the catalog where a definition is resolved, and the constructors of the root scene,
children first. Each starts from what the one before it has left, and nothing else prints. -/
theorem scripts_in_order (hlatencies : InTime config latencies) {builtin bytes shell : Bytes}
    {document : Json} {c : Catalog}
    (hbuiltin : answer ⟨config.builtin, .binary⟩ = .ok (.binary builtin))
    (hcode : answer ⟨config.catalog, .binary⟩ = .ok (.binary bytes))
    (hindex : answer ⟨config.catalogIndex, .structured⟩ = .ok (.structured document))
    (hcatalog : Catalog.ofJson bytes document = .ok c)
    (hshell : answer ⟨config.shell, .binary⟩ = .ok (.binary shell)) (info : HostInfo)
    {flags : LibraryFlags} (hflags : flags.contains .builtin = true)
    (hplayer : flags.contains .playerglobal = true) (waits : List Nat) :
    let l := (Life.ofParts ⟨i.sandbox, 0, []⟩ (host answer latencies) config (scripts i)).run
      (Life.bootSteps info flags (waits.map elapse))
    (3 * latencies.sum ≤ waits.countP (0 < ·) → l.attempt = none) ∧
      (l.attempt = none → l.player.factory ≠ none →
        i.systemPieces builtin shell = piecesOf builtin ++ piecesOf shell) ∧
      (l.attempt = none → ∀ requests, (∀ r ∈ requests, Request.Quiet inside r) →
        let after := l.serveAll requests
        after.outside.inside =
          i.play (i.systemPieces builtin shell ++ l.allPieces requests) i.initial ∧
        ∀ d ∈ after.player.world.domains, ∀ w code origin,
          (d.loadModule w code origin).1.inside = w.inside) := by
  intro l
  obtain ⟨hends, hengages⟩ := Life.engages_of_boot (service answer config latencies hlatencies)
    (w := ⟨i.sandbox, 0, []⟩) rfl (employs_scripts i hlatencies) (engages_scripts i)
    (fun _ _ => rfl) hbuiltin hcode hindex hcatalog hshell info hflags hplayer trivial rfl waits
  refine ⟨hends, fun hover => (hengages hover).2.2, ?_⟩
  intro hover requests hquiet
  obtain ⟨hl, hbooted, -⟩ := hengages hover
  obtain ⟨hafter, hplayed⟩ := hl.serveAll hquiet
  refine ⟨?_, ?_⟩
  · rw [← i.playing_sandbox, i.playing_append]
    exact hplayed.trans (congrArg (i.playing · _) hbooted)
  · intro d hd w code origin
    exact d.core_loadModule (hafter.world d hd).executor w code origin

/-- Two scripts of which the second prints what the first has kept, and a catalog with one entry,
which throws behind its one effect. -/
def filmAnswer (q : LoadRequest) : Except FetchError Resource :=
  if q.kind = .structured then
    .ok (.structured (.array [.array [.string "e", .int 0, .int 12, .array [.string "d"]]]))
  else .ok (.binary (Text.encode (
    if q.name = ({} : BootstrapConfig).builtin then "var n = 'a'"
    else if q.name = ({} : BootstrapConfig).shell then "trace(n)"
    else "n = 'b'; f()")))

/-- A scene of which both objects print. -/
def film : Asset :=
  let inner : Template := { name := "c", constructor := some "trace(n + currentTarget)" }
  let outer : Template :=
    { name := "m", constructor := some "trace(currentTarget)", children := [inner] }
  ⟨"m", .scene outer, true⟩

/-- The catalog's entry has thrown, but its effect is there for the constructors. -/
theorem scripts_in_order_film :
    let info : HostInfo := ⟨"file:///movie.swf", 10, { viewport := ⟨550, 400⟩ }⟩
    let i := Script.realm.interpreter
    let l := (Life.ofParts ⟨i.sandbox, 0, []⟩ (host filmAnswer [1, 2]) {} (scripts i)).run
      (Life.bootSteps info (.builtin ||| .playerglobal) ((List.replicate 9 1).map elapse))
    let requests := [.resolve "d", .step (.dispatch film true), .step (.dispatch film true)]
    l.attempt = none ∧ (l.serveAll requests).outside.inside.printed = ["a", "bc", "m"] := by
  intro info i l requests
  have hlatencies : InTime {} [1, 2] := by
    intro limit hlimit
    obtain rfl : 30000 = limit := Option.some.inj hlimit
    decide
  have hbuiltin : filmAnswer ⟨({} : BootstrapConfig).builtin, .binary⟩ =
      .ok (.binary (Text.encode "var n = 'a'")) := rfl
  have hflags : (LibraryFlags.builtin ||| .playerglobal).contains .builtin = true := by decide
  have hplayer : (LibraryFlags.builtin ||| .playerglobal).contains .playerglobal = true := by
    decide
  obtain ⟨c, hcatalog⟩ : ∃ c, Catalog.ofJson (Text.encode "n = 'b'; f()")
      (.array [.array [.string "e", .int 0, .int 12, .array [.string "d"]]]) = .ok c :=
    Catalog.ofJson_eq_ok.mpr ⟨[⟨"e", 0, 12, ["d"]⟩], rfl, by decide +kernel⟩
  obtain ⟨hends, -, hplays⟩ := scripts_in_order i hlatencies hbuiltin rfl rfl hcatalog rfl info
    hflags hplayer (List.replicate 9 1)
  have hover : l.attempt = none := hends (by decide)
  have hquiet : ∀ r ∈ requests, Request.Quiet inside r := by
    simp [requests, Request.Quiet]
  have hpieces : l.allPieces requests =
      [.module "n = 'b'; f()", .constructor ⟨"c", "trace(n + currentTarget)"⟩,
        .constructor ⟨"m", "trace(currentTarget)"⟩] := by
    decide +kernel
  refine ⟨hover, ?_⟩
  rw [(hplays hover requests hquiet).1, hpieces]
  decide +kernel

end Timed

end ContentPlayer
