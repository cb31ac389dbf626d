import ContentPlayer.Proofs.Bootstrap.Service
import ContentPlayer.Script.Interpreter

namespace ContentPlayer

namespace Work

variable {σ ω α β ε : Type}

theorem bind_eq_ok {c : Work σ α} {next : α → Work σ β} {s s' : σ} {b : β} :
    (c >>= next) s = (s', .ok b) ↔ ∃ s₁ a, c s = (s₁, .ok a) ∧ next a s₁ = (s', .ok b) := by
  rw [bind_apply]
  obtain ⟨s₁, result⟩ := c s
  cases result with
  | error e => simp
  | ok a => simp

theorem pure_eq_ok {s s' : σ} {a b : α} :
    (pure a : Work σ α) s = (s', .ok b) ↔ s = s' ∧ a = b := by
  have hpure : (pure a : Work σ α) s = (s, .ok a) := rfl
  simp [hpure]

theorem onCore_eq_ok {f : Work σ α} {s s' : σ × World ω} {a : α} :
    onCore f s = (s', .ok a) ↔ f s.1 = (s'.1, .ok a) ∧ s.2 = s'.2 := by
  obtain ⟨s₁, world₁⟩ := s'
  simp only [onCore]
  obtain ⟨s₂, result⟩ := f s.1
  simp only [Prod.mk.injEq]
  constructor
  · rintro ⟨⟨rfl, rfl⟩, rfl⟩
    exact ⟨⟨rfl, rfl⟩, rfl⟩
  · rintro ⟨⟨rfl, rfl⟩, rfl⟩
    exact ⟨⟨rfl, rfl⟩, rfl⟩

theorem check_eq_ok {stage : BootstrapStage} {failure : ε → StageFailure} {r : Except ε α}
    {s s' : σ} {a : α} : check stage failure r s = (s', .ok a) ↔ r = .ok a ∧ s = s' := by
  cases r with
  | error e => simp [check, act, inStage_error]
  | ok b => simp [check, act, inStage_ok, and_comm]

theorem fetch_eq_ok {answer : LoadRequest → Except FetchError Resource} {stage : BootstrapStage}
    {q : LoadRequest} {s s' : σ} {r : Resource} :
    fetch answer stage q s = (s', .ok r) ↔ answer q = .ok r ∧ s = s' :=
  check_eq_ok

end Work

theorem Resource.bytes_eq_ok {r : Resource} {name : String} {bytes : Bytes} :
    r.bytes name = .ok bytes ↔ r = .binary bytes := by
  cases r <;> simp [Resource.bytes]

theorem Resource.json_eq_ok {r : Resource} {name : String} {v : Json} :
    r.json name = .ok v ↔ r = .structured v := by
  cases r <;> simp [Resource.json]

namespace Catalog

theorem ofEntries_eq_ok {bytes : Bytes} {entries : List CatalogEntry} :
    (∃ c, ofEntries bytes entries = .ok c) ↔ ∀ entry ∈ entries, entry.stop ≤ bytes.length := by
  unfold ofEntries
  split
  case h_1 e hfind =>
    have hstop : bytes.length < e.stop := by simpa using List.find?_some hfind
    have hmem : e ∈ entries := List.mem_of_find?_eq_some hfind
    simp only [reduceCtorEq, exists_false, false_iff]
    intro hwithin
    exact absurd hstop (Nat.not_lt.mpr (hwithin e hmem))
  case h_2 hfind =>
    have hwithin : ∀ entry ∈ entries, entry.stop ≤ bytes.length := by simpa using hfind
    exact iff_of_true ⟨_, rfl⟩ hwithin

/-- An index fits the bytes when it reads, and none of its entries reaches beyond them. -/
theorem ofJson_eq_ok {bytes : Bytes} {document : Json} :
    (∃ c, ofJson bytes document = .ok c) ↔
      ∃ entries, Shape.ofValue readIndex document = .ok entries ∧
        ∀ entry ∈ entries, entry.stop ≤ bytes.length := by
  rw [ofJson]
  cases Shape.ofValue readIndex document with
  | error e => simp [Except.mapError, bind, Except.bind]
  | ok entries => simpa [Except.mapError, bind, Except.bind] using ofEntries_eq_ok

end Catalog

namespace Script

variable {σ : Type} {i : Interpreter σ}

/-- Code that spells a script which an engine executes without throwing. -/
def Runs (i : Interpreter σ) (e : Sandbox σ) (code : Bytes) (e' : Sandbox σ) : Prop :=
  ∃ source, Text.decode code = .ok source ∧ i.eval e source = (e', .ok ())

/-- Running a module comes to what executing it comes to. -/
theorem run_apply (stage : BootstrapStage) (id : Nat) (code : Bytes) (origin : String)
    (e : Sandbox σ) :
    Work.run i.executor stage id code origin e =
      ((i.executor.execute e ⟨id, origin, code⟩).1,
        (inStage stage .module (i.executor.execute e ⟨id, origin, code⟩).2).map fun _ =>
          ⟨id, origin, code⟩) := by
  rw [Work.run, Work.bind_apply, Work.act]
  cases hdecode : Text.decode code with
  | error fault =>
    simp [Interpreter.executor, sourceText, hdecode, Except.mapError, Except.map, inStage_error]
  | ok source =>
    simp only [Interpreter.executor, sourceText, hdecode, Except.mapError, Except.map, inStage_ok]
    rw [Work.bind_apply, Work.act]
    cases (i.eval e source).2 <;> rfl

theorem run_eq_ok {stage : BootstrapStage} {id : Nat} {code : Bytes} {origin : String}
    {e e' : Sandbox σ} :
    (∃ m, Work.run i.executor stage id code origin e = (e', .ok m)) ↔ Runs i e code e' := by
  rw [run_apply]
  cases hdecode : Text.decode code with
  | error fault =>
    simp [Interpreter.executor, sourceText, hdecode, Except.mapError, inStage_error, Except.map,
      Runs]
  | ok source =>
    simp only [Interpreter.executor, sourceText, hdecode, Except.mapError, Runs]
    cases heval : i.eval e source with
    | mk e₁ result => cases result <;> simp [inStage, Except.mapError, Except.map, heval]

end Script

namespace Work

variable {ω σ : Type} {i : Script.Interpreter σ}
  {answer : LoadRequest → Except FetchError Resource} {config : BootstrapConfig}

/-- A system module runs when its code has come, is a text, and throws nothing. -/
theorem fetched_eq_ok {stage : BootstrapStage} {name origin : String} {id : Nat}
    {e e' : Script.Sandbox σ} :
    (∃ m, (do
      let r ← fetch answer stage ⟨name, .binary⟩
      let code ← check stage .fetch (r.bytes name)
      run i.executor stage id code origin : Work (Script.Sandbox σ) Module) e = (e', .ok m)) ↔
      ∃ code, answer ⟨name, .binary⟩ = .ok (.binary code) ∧ Script.Runs i e code e' := by
  simp only [bind_eq_ok, fetch_eq_ok, check_eq_ok, Resource.bytes_eq_ok]
  constructor
  · rintro ⟨m, _, _, ⟨hanswer, rfl⟩, _, code, ⟨rfl, rfl⟩, hrun⟩
    exact ⟨code, hanswer, Script.run_eq_ok.mp ⟨m, hrun⟩⟩
  · rintro ⟨code, hanswer, hruns⟩
    obtain ⟨m, hrun⟩ := Script.run_eq_ok.mpr hruns
    exact ⟨m, e, _, ⟨hanswer, rfl⟩, e, code, ⟨rfl, rfl⟩, hrun⟩

theorem baseline_eq_ok {e e' : Script.Sandbox σ} :
    (∃ m, baseline answer config i.executor e = (e', .ok m)) ↔
      ∃ code, answer ⟨config.builtin, .binary⟩ = .ok (.binary code) ∧ Script.Runs i e code e' :=
  fetched_eq_ok

theorem shell_eq_ok {e e' : Script.Sandbox σ} :
    (∃ m, shell answer config i.executor e = (e', .ok m)) ↔
      ∃ code, answer ⟨config.shell, .binary⟩ = .ok (.binary code) ∧ Script.Runs i e code e' :=
  fetched_eq_ok

theorem catalog_eq_ok {s s' : σ} {c : Catalog} :
    catalog answer config s = (s', .ok c) ↔
      ∃ bytes document, answer ⟨config.catalog, .binary⟩ = .ok (.binary bytes) ∧
        answer ⟨config.catalogIndex, .structured⟩ = .ok (.structured document) ∧
        Catalog.ofJson bytes document = .ok c ∧ s = s' := by
  simp only [catalog, fetchBoth, bind_eq_ok, fetch_eq_ok, check_eq_ok, pure_eq_ok,
    Resource.bytes_eq_ok, Resource.json_eq_ok]
  constructor
  · rintro ⟨_, ⟨code, index⟩, ⟨_, _, ⟨hcode, rfl⟩, _, _, ⟨hindex, rfl⟩, rfl, hpair⟩, _, bytes,
      ⟨hbytes, rfl⟩, _, document, ⟨hdocument, rfl⟩, hcatalog, rfl⟩
    obtain ⟨rfl, rfl⟩ := Prod.mk.inj hpair
    exact ⟨bytes, document, hbytes ▸ hcode, hdocument ▸ hindex, hcatalog, rfl⟩
  · rintro ⟨bytes, document, hcode, hindex, hcatalog, rfl⟩
    exact ⟨s, _, ⟨s, _, ⟨hcode, rfl⟩, s, _, ⟨hindex, rfl⟩, rfl, rfl⟩, s, bytes, ⟨rfl, rfl⟩, s,
      document, ⟨rfl, rfl⟩, hcatalog, rfl⟩

/-- What a bootstrap needs, of the answers and of an engine. -/
def Bootable (i : Script.Interpreter σ) (answer : LoadRequest → Except FetchError Resource)
    (config : BootstrapConfig) (e : Script.Sandbox σ) : Prop :=
  ∃ builtin bytes document catalog shell e₁ e₂,
    answer ⟨config.builtin, .binary⟩ = .ok (.binary builtin) ∧ Script.Runs i e builtin e₁ ∧
    answer ⟨config.catalog, .binary⟩ = .ok (.binary bytes) ∧
    answer ⟨config.catalogIndex, .structured⟩ = .ok (.structured document) ∧
    Catalog.ofJson bytes document = .ok catalog ∧
    answer ⟨config.shell, .binary⟩ = .ok (.binary shell) ∧ Script.Runs i e₁ shell e₂

theorem bootable_iff {e : Script.Sandbox σ} :
    Bootable i answer config e ↔ ∃ e₁ builtin catalog e₂ shell,
      baseline answer config i.executor e = (e₁, .ok builtin) ∧
      Work.catalog answer config e₁ = (e₁, .ok catalog) ∧
      Work.shell answer config i.executor e₁ = (e₂, .ok shell) := by
  constructor
  · rintro ⟨builtin, bytes, document, catalog, shell, e₁, e₂, hbuiltin, hruns, hbytes, hdocument,
      hcatalog, hshell, hruns'⟩
    obtain ⟨m, hbaseline⟩ := baseline_eq_ok.mpr ⟨builtin, hbuiltin, hruns⟩
    obtain ⟨m', hshell⟩ := shell_eq_ok.mpr ⟨shell, hshell, hruns'⟩
    exact ⟨e₁, m, catalog, e₂, m', hbaseline,
      catalog_eq_ok.mpr ⟨bytes, document, hbytes, hdocument, hcatalog, rfl⟩, hshell⟩
  · rintro ⟨e₁, m, catalog, e₂, m', hbaseline, hcatalog, hshell⟩
    obtain ⟨builtin, hbuiltin, hruns⟩ := baseline_eq_ok.mp ⟨m, hbaseline⟩
    obtain ⟨bytes, document, hbytes, hdocument, hcatalog, -⟩ := catalog_eq_ok.mp hcatalog
    obtain ⟨shell, hshell, hruns'⟩ := shell_eq_ok.mp ⟨m', hshell⟩
    exact ⟨builtin, bytes, document, catalog, shell, e₁, e₂, hbuiltin, hruns, hbytes, hdocument,
      hcatalog, hshell, hruns'⟩

/-- What the stages come to when a bootstrap ends with a domain. -/
theorem bootstrap_eq_ok {x : Executor ω} {info : HostInfo} {flags : LibraryFlags}
    (hflags : flags.contains .playerglobal = true) {e : Script.Sandbox σ} {world : World ω}
    {s' : Script.Sandbox σ × World ω} {r : Option Factory} :
    bootstrap answer config i.executor x info flags (e, world) = (s', .ok r) ↔
      ∃ e₁ builtin catalog e₂ shell,
        baseline answer config i.executor e = (e₁, .ok builtin) ∧
        Work.catalog answer config e₁ = (e₁, .ok catalog) ∧
        Work.shell answer config i.executor e₁ = (e₂, .ok shell) ∧
        let d : Domain ω :=
          { executor := x
            version := info.version
            modules := [builtin, shell]
            executed := 2
            catalog := some catalog }
        s' = (e₂, (world.publish d info).1) ∧ r = some (world.publish d info).2 := by
  have hpublish (d : Domain ω) (s : Script.Sandbox σ × World ω) {s' : Script.Sandbox σ × World ω}
      {f : Factory} : publish info d s = (s', .ok f) ↔
        s' = (s.1, (s.2.publish d info).1) ∧ f = (s.2.publish d info).2 := by
    simp [publish, eq_comm]
  simp only [bootstrap, hflags, Bool.not_true, Bool.false_eq_true, if_false, bind_eq_ok,
    onCore_eq_ok, pure_eq_ok, hpublish]
  constructor
  · rintro ⟨⟨e₁, _⟩, builtin, ⟨hbaseline, rfl⟩, ⟨e₁', _⟩, catalog, ⟨hcatalog, rfl⟩, ⟨e₂, _⟩,
      shell, ⟨hshell, rfl⟩, _, _, ⟨rfl, rfl⟩, rfl, rfl⟩
    obtain ⟨-, -, -, -, -, rfl⟩ := catalog_eq_ok.mp hcatalog
    exact ⟨e₁, builtin, catalog, e₂, shell, hbaseline, hcatalog, hshell, rfl, rfl⟩
  · rintro ⟨e₁, builtin, catalog, e₂, shell, hbaseline, hcatalog, hshell, rfl, rfl⟩
    exact ⟨(e₁, world), builtin, ⟨hbaseline, rfl⟩, (e₁, world), catalog, ⟨hcatalog, rfl⟩,
      (e₂, world), shell, ⟨hshell, rfl⟩, _, _, ⟨rfl, rfl⟩, rfl, rfl⟩

variable (i answer config)

/-- A bootstrap that has what it needs publishes a domain; any other one fails. -/
theorem bootstrap_cases (x : Executor ω) (info : HostInfo) {flags : LibraryFlags}
    (hflags : flags.contains .playerglobal = true) (e : Script.Sandbox σ) (world : World ω) :
    Bootable i answer config e ∧ (∃ e' d, bootstrap answer config i.executor x info flags
        (e, world) = ((e', (world.publish d info).1), .ok (some (world.publish d info).2))) ∨
      ¬ Bootable i answer config e ∧ ∃ s' fault,
        bootstrap answer config i.executor x info flags (e, world) = (s', .error fault) := by
  by_cases hboot : Bootable i answer config e
  · obtain ⟨e₁, builtin, catalog, e₂, shell, hbaseline, hcatalog, hshell⟩ := bootable_iff.mp hboot
    exact .inl ⟨hboot, e₂, _, (bootstrap_eq_ok hflags).mpr
      ⟨e₁, builtin, catalog, e₂, shell, hbaseline, hcatalog, hshell, rfl, rfl⟩⟩
  · refine .inr ⟨hboot, ?_⟩
    cases hdone : bootstrap answer config i.executor x info flags (e, world) with
    | mk s' result =>
      cases result with
      | error fault => exact ⟨s', fault, rfl⟩
      | ok r =>
        obtain ⟨e₁, builtin, catalog, e₂, shell, hbaseline, hcatalog, hshell, -⟩ :=
          (bootstrap_eq_ok hflags).mp hdone
        exact absurd (bootable_iff.mpr
          ⟨e₁, builtin, catalog, e₂, shell, hbaseline, hcatalog, hshell⟩) hboot

end Work

end ContentPlayer
