import ContentPlayer.Proofs.Bootstrap.Bootable
import ContentPlayer.Proofs.Session.Scripts

namespace ContentPlayer

open Script (Interpreter Piece Sandbox piecesOf)

/-- The scripts of the system modules. The shell does not run behind a builtin module that fails. -/
def Script.Interpreter.systemPieces {σ : Type} (i : Interpreter σ) (builtin shell : Bytes) :
    List Piece :=
  piecesOf builtin ++
    match (i.executor.execute i.sandbox ⟨0, builtinOrigin, builtin⟩).2 with
    | .ok _ => piecesOf shell
    | .error _ => []

namespace Work

variable {ω σ α : Type} {answer : LoadRequest → Except FetchError Resource}
  {config : BootstrapConfig}

theorem check_bind_of_ok {β ε : Type} {stage : BootstrapStage} {failure : ε → StageFailure}
    {r : Except ε β} {a : β} (hr : r = .ok a) (next : β → Work σ α) :
    check stage failure r >>= next = next a := by
  funext s
  rw [check_bind_apply, hr, inStage_ok]

theorem fetch_bind_of_ok {stage : BootstrapStage} {q : LoadRequest} {r : Resource}
    (hanswer : answer q = .ok r) (next : Resource → Work σ α) :
    fetch answer stage q >>= next = next r :=
  check_bind_of_ok hanswer next

theorem baseline_of_answer (y : Executor σ) {code : Bytes}
    (hanswer : answer ⟨config.builtin, .binary⟩ = .ok (.binary code)) :
    baseline answer config y = run y .baseline 0 code builtinOrigin := by
  rw [baseline, fetch_bind_of_ok hanswer, check_bind_of_ok (Resource.bytes_eq_ok.mpr rfl)]

theorem shell_of_answer (y : Executor σ) {code : Bytes}
    (hanswer : answer ⟨config.shell, .binary⟩ = .ok (.binary code)) :
    shell answer config y = run y .shell 1 code shellOrigin := by
  rw [shell, fetch_bind_of_ok hanswer, check_bind_of_ok (Resource.bytes_eq_ok.mpr rfl)]

theorem catalog_of_answers {bytes : Bytes} {document : Json} {c : Catalog}
    (hcode : answer ⟨config.catalog, .binary⟩ = .ok (.binary bytes))
    (hindex : answer ⟨config.catalogIndex, .structured⟩ = .ok (.structured document))
    (hcatalog : Catalog.ofJson bytes document = .ok c) (s : σ) :
    catalog answer config s = (s, .ok c) :=
  catalog_eq_ok.mpr ⟨bytes, document, hcode, hindex, hcatalog, rfl⟩

/-- A bootstrap that finds everything plays the system modules. It publishes a domain of the engine
behind both of them, or fails. -/
theorem bootstrap_plays {i : Interpreter σ} {x : Executor ω} {core : ω → Sandbox σ}
    (hx : x.Engages i core)
    {builtin bytes shell : Bytes} {document : Json} {c : Catalog}
    (hbuiltin : answer ⟨config.builtin, .binary⟩ = .ok (.binary builtin))
    (hcode : answer ⟨config.catalog, .binary⟩ = .ok (.binary bytes))
    (hindex : answer ⟨config.catalogIndex, .structured⟩ = .ok (.structured document))
    (hcatalog : Catalog.ofJson bytes document = .ok c)
    (hshell : answer ⟨config.shell, .binary⟩ = .ok (.binary shell)) (info : HostInfo)
    {flags : LibraryFlags} (hflags : flags.contains .playerglobal = true) (world : World ω) :
    let done := bootstrap answer config i.executor x info flags (i.sandbox, world)
    done.1.1 = i.playing i.sandbox (i.systemPieces builtin shell) ∧
      ((∃ fault, done.2 = .error fault ∧ done.1.2 = world) ∨
        ∃ d, d.Engages i core ∧ done.2 = .ok (some (world.publish d info).2) ∧
          done.1.2 = (world.publish d info).1 ∧
          i.systemPieces builtin shell = piecesOf builtin ++ piecesOf shell) := by
  rw [bootstrap, baseline_of_answer _ hbuiltin, shell_of_answer _ hshell, hflags,
    Interpreter.systemPieces]
  simp only [bind_apply, onCore, Script.run_apply, i.fst_execute]
  cases (i.executor.execute i.sandbox ⟨0, builtinOrigin, builtin⟩).2 with
  | error fault =>
    dsimp only
    rw [List.append_nil]
    exact ⟨rfl, .inl ⟨_, rfl, rfl⟩⟩
  | ok _ =>
    simp only [Bool.not_true, Bool.false_eq_true, if_false, bind_apply, onCore, inStage_ok,
      Except.map, catalog_of_answers hcode hindex hcatalog, Script.run_apply, i.fst_execute,
      i.playing_append]
    cases (i.executor.execute (i.playing i.sandbox (piecesOf builtin))
      ⟨1, shellOrigin, shell⟩).2 with
    | error fault => exact ⟨rfl, .inl ⟨_, rfl, rfl⟩⟩
    | ok _ => exact ⟨rfl, .inr ⟨_, ⟨hx, rfl⟩, rfl, rfl, trivial⟩⟩

end Work

end ContentPlayer
