import ContentPlayer.CommandLine.Run
import ContentPlayer.Proofs.Bootstrap.Service

namespace ContentPlayer

namespace Console

variable {σ : Type} (answer : LoadRequest → Except FetchError Resource)

/-- The answers that are there are those of the first requests. -/
def Answered (c : Console σ) : Prop := c.answers <+: c.requests.map answer

/-- What was said is taken, and every request is answered. -/
def attend (c : Console σ) : Console σ :=
  { c with lines := [], answers := c.answers ++ c.unanswered.map answer }

/-- A request with its deadline, which is answered, or will be when all are the next time. -/
def Pending (c : Console σ) (q : LoadRequest) (ticket : Nat) (deadline : Option Nat) (left : Nat) :
    Prop :=
  c.requests[ticket]? = some q ∧ left = (if ticket < c.answers.length then 0 else 1) ∧
    ∀ d ∈ deadline, 0 < d

variable {answer}

theorem Answered.attend {c : Console σ} (hc : c.Answered answer) :
    (c.attend answer).answers = c.requests.map answer := by
  have htake := List.prefix_iff_eq_take.mp hc
  have hdrop : c.unanswered.map answer = (c.requests.map answer).drop c.answers.length := by
    rw [unanswered, List.map_drop]
  calc (c.attend answer).answers
      = (c.requests.map answer).take c.answers.length ++
          (c.requests.map answer).drop c.answers.length := by rw [← htake, ← hdrop]; rfl
    _ = c.requests.map answer := List.take_append_drop _ _

/-- Whoever asks waits until all requests are answered together. -/
def service (answer : LoadRequest → Except FetchError Resource) (config : BootstrapConfig) :
    Service (Console σ) (Script.Sandbox σ) Unit where
  host := host
  limit := config.limit
  answer := answer
  core := engine
  pass _ := attend answer
  counts _ := true
  most := 1
  Good := Answered answer
  Pending := Pending
  not_cancelled _ _ := rfl
  good_request := by
    intro c q hc
    have happend : c.requests.map answer <+: (c.requests ++ [q]).map answer := by
      rw [List.map_append]
      exact List.prefix_append _ _
    exact List.IsPrefix.trans hc happend
  core_request _ _ _ := rfl
  pending_request := by
    intro c q hc
    have hle : c.answers.length ≤ c.requests.length := by
      simpa using List.IsPrefix.length_le hc
    refine ⟨List.getElem?_concat_length, (if_neg (Nat.not_lt.mpr hle)).symm, ?_⟩
    intro d hd
    obtain ⟨limit, hlimit, rfl⟩ := Option.map_eq_some_iff.mp hd
    exact Nat.add_pos_right _ (BootstrapConfig.limit_pos hlimit)
  keeps_request := by
    rintro c q _ q' ticket deadline left ⟨hrequest, hleft, hlate⟩
    have hticket : ticket < c.requests.length := (List.getElem?_eq_some_iff.mp hrequest).1
    exact ⟨(List.getElem?_append_left hticket).trans hrequest, hleft, hlate⟩
  poll := by
    rintro c q ticket deadline left hc ⟨hrequest, hleft, hlate⟩
    by_cases hticket : ticket < c.answers.length
    · left
      have hanswer : (c.requests.map answer)[ticket]? = some (answer q) := by
        rw [List.getElem?_map, hrequest, Option.map_some]
      rw [List.prefix_iff_getElem?.mp hc ticket hticket] at hanswer
      exact congrArg (Prod.mk c) ((List.getElem?_eq_getElem hticket).trans hanswer)
    · right
      have hnone := List.getElem?_eq_none (Nat.le_of_not_lt hticket)
      refine ⟨congrArg (Prod.mk c) hnone, ?_, ?_⟩
      · rw [hleft, if_neg hticket]
        exact Nat.one_pos
      · cases deadline with
        | none => rfl
        | some d => exact decide_eq_false (Nat.not_le.mpr (hlate d rfl))
  good_pass := by
    intro c _ hc
    exact ⟨[], (List.append_nil _).trans (Answered.attend hc)⟩
  core_pass _ _ _ := rfl
  pending_pass := by
    rintro c _ q ticket deadline left hc ⟨hrequest, hleft, hlate⟩
    refine ⟨hrequest, ?_, hlate⟩
    have hticket : ticket < (c.attend answer).answers.length := by
      rw [Answered.attend hc, List.length_map]
      exact (List.getElem?_eq_some_iff.mp hrequest).1
    rw [if_pos hticket, if_pos rfl, hleft]
    split <;> rfl

/-- All requests of a stage are answered together, so that it is plain which goes wrong first. -/
theorem prompt_service (config : BootstrapConfig) : (service (σ := σ) answer config).Prompt := by
  rintro c q ticket deadline left _ ⟨-, hleft, -⟩ hpos
  have hticket : ¬ ticket < c.answers.length := by
    intro hlt
    rw [if_pos hlt] at hleft
    omega
  exact List.getElem?_eq_none (Nat.le_of_not_lt hticket)

theorem onEngine_eq {α : Type} (c : Console σ) (f : Script.Sandbox σ → Script.Sandbox σ × α) :
    c.onEngine f =
      ({ c with
          engine := (f c.engine).1
          lines := c.lines ++ ((f c.engine).1.printed.drop c.engine.printed.length).map
            (⟨.info, "trace", ·⟩) }, (f c.engine).2) := rfl

variable (i : Script.Interpreter σ)

/-- What the executor does to the engine, and that it leaves requests and answers alone. -/
theorem load_eq (c : Console σ) (id : Nat) (code : Bytes) (origin : String) :
    ∃ c', c.load i id code origin =
        (c', (i.executor.load c.engine id code origin).2) ∧
      c'.engine = (i.executor.load c.engine id code origin).1 ∧
      c'.requests = c.requests ∧ c'.answers = c.answers := by
  rw [Console.load, onEngine_eq]
  cases (i.executor.load c.engine id code origin).2 <;> exact ⟨_, rfl, rfl, rfl, rfl⟩

theorem execute_eq (c : Console σ) (m : Module) :
    ∃ c', c.execute i m = (c', (i.executor.execute c.engine m).2) ∧
      c'.engine = (i.executor.execute c.engine m).1 ∧
      c'.requests = c.requests ∧ c'.answers = c.answers := by
  have hengine : (c.say .debug "script" s!"Executing module {m.origin}").engine = c.engine := rfl
  rw [Console.execute, onEngine_eq, hengine]
  cases (i.executor.execute c.engine m).2 <;> exact ⟨_, rfl, rfl, rfl, rfl⟩

theorem employs_executor (config : BootstrapConfig) :
    (service answer config).Employs (executor i) i.executor where
  over_core := by
    refine ⟨fun c id code origin => ?_, fun c m => ?_⟩
    · obtain ⟨c', hload, hengine, -, -⟩ := c.load_eq i id code origin
      have hload : (executor i).load c id code origin = _ := hload
      rw [hload]
      exact congrArg (·, _) hengine.symm
    · obtain ⟨c', hexecute, hengine, -, -⟩ := c.execute_eq i m
      have hexecute : (executor i).execute c m = _ := hexecute
      rw [hexecute]
      exact congrArg (·, _) hengine.symm
  good_load := by
    intro c id code origin hc
    obtain ⟨c', hload, -, hrequests, hanswers⟩ := c.load_eq i id code origin
    have hload : (executor i).load c id code origin = _ := hload
    have hgood : c'.answers <+: c'.requests.map answer := hrequests ▸ hanswers ▸ hc
    rw [hload]
    exact hgood
  good_execute := by
    intro c m hc
    obtain ⟨c', hexecute, -, hrequests, hanswers⟩ := c.execute_eq i m
    have hexecute : (executor i).execute c m = _ := hexecute
    have hgood : c'.answers <+: c'.requests.map answer := hrequests ▸ hanswers ▸ hc
    rw [hexecute]
    exact hgood

end Console

end ContentPlayer
