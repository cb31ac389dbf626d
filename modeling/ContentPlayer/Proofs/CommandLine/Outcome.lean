import ContentPlayer.Proofs.Bootstrap.Bootable
import ContentPlayer.Proofs.CommandLine.Answers
import ContentPlayer.Proofs.Display.Frames
import ContentPlayer.Proofs.Session.Grafting

namespace ContentPlayer

theorem Player.keep_eq {ω : Type} (p : Player ω) (progress : Progress ω Factory) :
    (p.keep progress).bootstrapper = p.bootstrapper ∧ (p.keep progress).world = p.world ∧
      (p.keep progress).graft = p.graft := by
  unfold keep
  split <;> exact ⟨rfl, rfl, rfl⟩

theorem Bootstrapper.host_start {ω : Type} (w : ω) (world : World ω) (b : Bootstrapper ω)
    (info : HostInfo) (flags : LibraryFlags) :
    (b.start w world info flags).2.2.1.host = b.host := by
  cases ha : b.attempt? world info flags with
  | none => rw [start_of_refused w ha]
  | some a => rw [start_of_attempt w ha]

namespace CommandLine

/-! The files stay as they are while a command runs. -/

variable {σ : Type} (read : String → Except FileError Bytes) (root : String)

/-- The answer that the files have for a request. -/
def filed (q : LoadRequest) : Except FetchError Resource := q.answer (read (q.path root))

theorem answerAll_eq (requests : List LoadRequest) :
    Id.run (answerAll (m := Id) read root requests) = requests.map (filed read root) := by
  induction requests with
  | nil => rfl
  | cons q rest ih => exact congrArg (filed read root q :: ·) ih

/-- What happens between two steps of a bootstrap. -/
def interlude : Interlude (Console σ) := Prod.map (Console.attend (filed read root)) id

/-- A bootstrap goes on as a call does, whatever is said of it. -/
theorem finish_eq (b : Bootstrapper (Console σ)) (fuel : Nat) {s : Stretch (Console σ)}
    {p : Player (Console σ)} (hhost : p.bootstrapper.host = b.host) (hworld : p.world = s.world)
    (lines : List LogLine) :
    let s' := (List.replicate fuel (interlude read root)).foldl b.nextStretch s
    ∃ p' lines', Id.run (finish (m := Id) read root fuel s.outside.takeLines.1 p lines s.progress) =
        (s'.outside.takeLines.1, p', lines', s'.progress.result?) ∧
      p'.world = s'.world ∧ p'.graft = p.graft := by
  induction fuel generalizing s p lines with
  | zero =>
    obtain ⟨found, c, world, progress⟩ := s
    cases progress with
    | ended r => exact ⟨p, lines, rfl, hworld, rfl⟩
    | waiting a => exact ⟨p, lines, rfl, hworld, rfl⟩
  | succ fuel ih =>
    obtain ⟨found, c, world, progress⟩ := s
    cases progress with
    | ended r =>
      have hstays : (List.replicate (fuel + 1) (interlude read root)).foldl b.nextStretch
          ⟨found, c, world, .ended r⟩ = ⟨found, c, world, .ended r⟩ := by
        generalize List.replicate (fuel + 1) (interlude read root) = interludes
        induction interludes with
        | nil => rfl
        | cons others rest ih => exact ih
      rw [hstays]
      exact ⟨p, lines, rfl, hworld, rfl⟩
    | waiting a =>
      let c' := c.attend (filed read root)
      have hanswers : Id.run (answerAll (m := Id) read root c.takeLines.1.unanswered) =
          c.unanswered.map (filed read root) := answerAll_eq read root _
      let went := b.resume c' world a
      have hresume : p.resume c' a =
          (went.1, { p with world := went.2.1 }.keep went.2.2, went.2.2) := by
        have hsame : p.bootstrapper.resume c' p.world a = went := by
          rw [hworld, Bootstrapper.resume, hhost]
          rfl
        rw [Player.resume, hsame]
      obtain ⟨hbootstrapper, hworld', hgraft⟩ :=
        { p with world := went.2.1 }.keep_eq went.2.2
      obtain ⟨p', lines', hfinish, hp', hgraft'⟩ :=
        ih (s := ⟨world, went.1, went.2.1, went.2.2⟩)
          ((congrArg Bootstrapper.host hbootstrapper).trans hhost) hworld'
          (lines ++ (narrate root a.phase c'.requests.length went.1 went.2.2).2)
      refine ⟨p', lines', ?_, hp', hgraft'.trans hgraft⟩
      rw [List.replicate_succ, List.foldl_cons]
      refine Eq.trans ?_ hfinish
      rw [finish]
      simp only [Id.run_bind, hanswers]
      have hc' : { c.takeLines.1 with
          answers := c.takeLines.1.answers ++ c.unanswered.map (filed read root) } = c' := rfl
      rw [hc', hresume]
      rfl

/-- A bootstrap of the command comes to what its files make of it. -/
theorem start_finish (i : Script.Interpreter σ) (config : BootstrapConfig) (info : HostInfo)
    {flags : LibraryFlags} (hflags : flags.contains .builtin = true) (lines : List LogLine) :
    let went := (Player.ofParts Console.host config (Console.executor i)).start (Console.start i)
      info flags
    let done := Work.bootstrap (filed read root) config i.executor (Console.executor i) info flags
      (i.sandbox, {})
    ∃ c p lines', Id.run (finish (m := Id) read root 4 went.1.takeLines.1 went.2.1 lines
        went.2.2) = (c, p, lines', some done.2) ∧ p.world = done.1.2 ∧ p.graft = .idle := by
  intro went done
  let b : Bootstrapper (Console σ) := ⟨Console.host, config, some (Console.executor i)⟩
  let s := b.firstStretch (Console.start i) {} info flags
  let p : Player (Console σ) := Player.ofParts Console.host config (Console.executor i)
  let r := b.start (Console.start i) {} info flags
  obtain ⟨hbootstrapper, hworld, hgraft⟩ :=
    { p with world := r.2.1, bootstrapper := r.2.2.1 }.keep_eq r.2.2.2
  have hhost : went.2.1.bootstrapper.host = b.host :=
    (congrArg Bootstrapper.host hbootstrapper).trans (b.host_start (Console.start i) {} info flags)
  obtain ⟨p', lines', hfinish, hp', hgraft'⟩ :=
    finish_eq read root b 4 (s := s) (p := went.2.1) hhost hworld lines
  rcases (Console.service (filed read root) config).outcome_call (w := .start i) {} info rfl
      (Console.employs_executor i config) (.inr (Console.prompt_service config)) List.nil_prefix
      hflags rfl (List.replicate 4 ()) with
    ⟨-, hcount⟩ | ⟨w, hsome, -, -⟩
  · have hcount : (List.replicate 4 ()).countP (fun _ => true) < 3 * 1 := hcount
    exact absurd hcount (by decide)
  · obtain ⟨result, hresult, hdone⟩ := Option.map_eq_some_iff.mp hsome
    simp only [Prod.mk.injEq] at hdone
    obtain ⟨hdone, -, hworld'⟩ := hdone
    let call := (List.replicate 4 (interlude read root)).foldl b.nextStretch s
    have hresult : call.progress.result? = some done.2 := hresult.trans (congrArg some hdone)
    refine ⟨call.outside.takeLines.1, p', lines', ?_, hp'.trans hworld', hgraft'.trans hgraft⟩
    rw [← hresult]
    exact hfinish

end CommandLine

end ContentPlayer
