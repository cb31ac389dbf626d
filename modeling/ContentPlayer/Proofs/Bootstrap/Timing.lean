import ContentPlayer.Proofs.Bootstrap.Service
import Mathlib.Algebra.Order.BigOperators.Group.List
import Mathlib.Algebra.Order.Ring.Nat

namespace ContentPlayer

variable {σ : Type}

/-- An outside with a clock, and with what has been asked for: each request with the time at which
its answer is there. -/
structure Timed (σ : Type) where
  inside : σ
  now : Nat := 0
  asked : List (LoadRequest × Nat) := []

namespace Timed

def elapse (d : Nat) (w : Timed σ) : Timed σ := { w with now := w.now + d }

/-- When the answer to a request made now is there; the first request takes the first latency. -/
def due (latencies : List Nat) (w : Timed σ) : Nat := w.now + latencies.getD w.asked.length 0

/-- A host that answers every request after the latency that it has. Nobody cancels. -/
def host (answer : LoadRequest → Except FetchError Resource) (latencies : List Nat) :
    Host (Timed σ) where
  fetcher :=
    { request := fun w q => ({ w with asked := w.asked ++ [(q, w.due latencies)] }, w.asked.length)
      poll := fun w ticket =>
        (w, (w.asked[ticket]?).bind fun (q, due) =>
          if due ≤ w.now then some (answer q) else none) }
  cancelled _ := false
  now := Timed.now

/-- An executor inside, whose calls are written down. -/
def executor (x : Executor σ) : Executor (Timed (σ × List Executor.Call)) :=
  x.traced.within inside fun inside w => { w with inside }

/-- No latency reaches the limit of a fetch. -/
def InTime (config : BootstrapConfig) (latencies : List Nat) : Prop :=
  ∀ limit, config.limit = some limit → ∀ l ∈ latencies, l < limit

/-- A request with its deadline, whose answer is there in time, and soon. -/
def Pending (w : Timed σ) (q : LoadRequest) (ticket : Nat) (deadline : Option Nat) (left : Nat) :
    Prop :=
  ∃ due, w.asked[ticket]? = some (q, due) ∧ due ≤ w.now + left ∧ ∀ d ∈ deadline, due < d

theorem InTime.latency_lt {config : BootstrapConfig} {latencies : List Nat}
    (h : InTime config latencies) {limit : Nat} (hlimit : config.limit = some limit) (n : Nat) :
    latencies.getD n 0 < limit := by
  rw [List.getD_eq_getElem?_getD]
  cases hn : latencies[n]? with
  | some l => exact h limit hlimit l (List.mem_of_getElem? hn)
  | none => exact BootstrapConfig.limit_pos hlimit

theorem getD_le_sum (latencies : List Nat) (n : Nat) : latencies.getD n 0 ≤ latencies.sum := by
  rw [List.getD_eq_getElem?_getD]
  cases hn : latencies[n]? with
  | some l => exact List.le_sum_of_mem (List.mem_of_getElem? hn)
  | none => exact Nat.zero_le _

/-- Whatever the latencies are, every answer comes, unless they reach the limit. Only the time that
passes is of account while a bootstrap waits. -/
def service (answer : LoadRequest → Except FetchError Resource) (config : BootstrapConfig)
    (latencies : List Nat) (h : InTime config latencies) : Service (Timed σ) σ Nat where
  host := host answer latencies
  limit := config.limit
  answer := answer
  core := inside
  pass := elapse
  counts d := 0 < d
  most := latencies.sum
  Good _ := True
  Pending := Pending
  not_cancelled _ _ := rfl
  good_request _ _ _ := trivial
  core_request _ _ _ := rfl
  pending_request := by
    intro w q _
    have hle := getD_le_sum latencies w.asked.length
    refine ⟨w.due latencies, List.getElem?_concat_length, Nat.add_le_add_left hle _, ?_⟩
    intro d hd
    obtain ⟨limit, hlimit, rfl⟩ := Option.map_eq_some_iff.mp hd
    exact Nat.add_lt_add_left (h.latency_lt hlimit _) _
  keeps_request := by
    rintro w q _ q' ticket deadline left ⟨due, hdue, hleft, hlate⟩
    have hticket : ticket < w.asked.length := (List.getElem?_eq_some_iff.mp hdue).1
    exact ⟨due, (List.getElem?_append_left hticket).trans hdue, hleft, hlate⟩
  poll := by
    rintro w q ticket deadline left _ ⟨due, hdue, hleft, hlate⟩
    by_cases hnow : due ≤ w.now
    · left
      simp [host, hdue, hnow]
    · right
      refine ⟨by simp [host, hdue, hnow], by omega, ?_⟩
      cases deadline with
      | none => rfl
      | some d =>
        have hd : due < d := hlate d rfl
        have hnow' : ¬ d ≤ w.now := by omega
        exact decide_eq_false hnow'
  good_pass _ _ _ := trivial
  core_pass _ _ _ := rfl
  pending_pass := by
    rintro w d q ticket deadline left _ ⟨due, hdue, hleft, hlate⟩
    refine ⟨due, hdue, ?_, hlate⟩
    have hpassed : due ≤ w.now + d + (if 0 < d then left - 1 else left) := by
      split <;> omega
    simpa [elapse] using hpassed

theorem employs_executor {answer : LoadRequest → Except FetchError Resource}
    {config : BootstrapConfig} {latencies : List Nat} (h : InTime config latencies)
    (x : Executor σ) : (service answer config latencies h).Employs (executor x) x.traced where
  over_core := ⟨fun _ _ _ _ => rfl, fun _ _ => rfl⟩
  good_load _ _ _ _ _ := trivial
  good_execute _ _ _ := trivial

section Run

variable (answer : LoadRequest → Except FetchError Resource) (config : BootstrapConfig)
  (x : Option (Executor σ)) (s : σ) (world : World (Timed (σ × List Executor.Call)))
  (info : HostInfo) (flags : LibraryFlags)

/-- A call at time zero, looked at again after each of some waits. -/
def call (latencies waits : List Nat) : Stretch (Timed (σ × List Executor.Call)) :=
  Bootstrapper.call ⟨host answer latencies, config, x.map executor⟩ ⟨(s, []), 0, []⟩ world info
    flags (waits.map fun d => Prod.map (elapse d) id)

/-- What a call has given back, and what it leaves: what is inside, the calls of the executor, and
the session with its domains. -/
def ending {α : Type} (call : Stretch (Timed α)) :
    Option (Except BootstrapError (Option Factory) × α × World (Timed α)) :=
  call.outcome.map fun (r, w, world) => (r, w.inside, world)

/-- A call that is refused is over at once. -/
theorem ending_of_refused (hrefused : Bootstrapper.attempt?
      ⟨host answer [], config, x.map executor⟩ world info flags = none)
    (latencies waits : List Nat) :
    ending (call answer config x s world info flags latencies waits) =
      some (.error (Bootstrapper.refusal world.session flags), (s, []), world) := by
  let b : Bootstrapper (Timed (σ × List Executor.Call)) :=
    ⟨host answer latencies, config, x.map executor⟩
  have hrefused : b.attempt? world info flags = none := hrefused
  have hfirst : b.firstStretch ⟨(s, []), 0, []⟩ world info flags =
      ⟨world, ⟨(s, []), 0, []⟩, world,
        .ended (.error (Bootstrapper.refusal world.session flags))⟩ := by
    simp only [Bootstrapper.firstStretch, Bootstrapper.start_of_refused _ hrefused]
  have hwaiting : ∀ a, (b.firstStretch ⟨(s, []), 0, []⟩ world info flags).progress = .waiting a →
      a.Serves info := by
    intro a ha
    rw [hfirst] at ha
    cases ha
  rw [ending, call, Bootstrapper.call, b.foldl_nextStretch_outcome _ hwaiting, hfirst]
  rfl

/-- However long the answers take, a call that is looked at often enough comes to one and the same
end. -/
theorem ending_call
    (hone : ∀ e e', answer ⟨config.catalog, .binary⟩ = .error e →
      answer ⟨config.catalogIndex, .structured⟩ ≠ .error e') :
    ∃ done, ∀ latencies waits, InTime config latencies →
      ending (call answer config x s world info flags latencies waits) = some done ∨
        ending (call answer config x s world info flags latencies waits) = none ∧
          waits.countP (0 < ·) < 3 * latencies.sum := by
  cases hattempt : Bootstrapper.attempt? ⟨host answer [], config, x.map executor⟩ world info flags
    with
  | none => exact ⟨_, fun latencies waits _ =>
      .inl (ending_of_refused answer config x s world info flags hattempt latencies waits)⟩
  | some a =>
    obtain ⟨hflags, hready, x', hx', -⟩ := Bootstrapper.attempt?_eq_some.mp hattempt
    obtain ⟨y, rfl, -⟩ := Option.map_eq_some_iff.mp hx'
    let done := Work.bootstrap answer config y.traced (executor y) info flags ((s, []), world)
    refine ⟨(done.2, done.1.1, done.1.2), ?_⟩
    intro latencies waits hlatencies
    rcases (service answer config latencies hlatencies).outcome_call
        (w := ⟨(s, []), 0, []⟩) world info rfl (employs_executor hlatencies y) (.inl hone)
        trivial
        hflags hready waits with
      ⟨hnone, hcount⟩ | ⟨w', hsome, -, hcore⟩
    · right
      exact ⟨congrArg (Option.map _) hnone, hcount⟩
    · left
      have hinside : w'.inside = done.1.1 := hcore
      rw [← hinside]
      exact congrArg (Option.map _) hsome

end Run

/-- How long the answers take changes nothing of what a bootstrap comes to, unless a limit is
reached, or both answers of the catalog stage are errors. -/
theorem latency_irrelevant (answer : LoadRequest → Except FetchError Resource)
    (config : BootstrapConfig) (x : Option (Executor σ)) (s : σ)
    (world : World (Timed (σ × List Executor.Call))) (info : HostInfo) (flags : LibraryFlags)
    (latencies latencies' : List Nat) (hlatencies : InTime config latencies)
    (hlatencies' : InTime config latencies')
    (hone : ∀ e e', answer ⟨config.catalog, .binary⟩ = .error e →
      answer ⟨config.catalogIndex, .structured⟩ ≠ .error e') (waits waits' : List Nat) :
    let first := call answer config x s world info flags latencies waits
    let second := call answer config x s world info flags latencies' waits'
    (∀ done done', ending first = some done → ending second = some done' → done = done') ∧
      (3 * latencies.sum ≤ waits.countP (0 < ·) → (ending first).isSome) ∧
      (3 * latencies'.sum ≤ waits'.countP (0 < ·) → (ending second).isSome) := by
  obtain ⟨done, hdone⟩ := ending_call answer config x s world info flags hone
  have hfirst := hdone latencies waits hlatencies
  have hsecond := hdone latencies' waits' hlatencies'
  refine ⟨?_, ?_, ?_⟩
  · intro e e' he he'
    rcases hfirst with hfirst | ⟨hfirst, -⟩
    · rcases hsecond with hsecond | ⟨hsecond, -⟩
      · rw [hfirst] at he
        rw [hsecond] at he'
        exact (Option.some.inj he).symm.trans (Option.some.inj he')
      · simp [hsecond] at he'
    · simp [hfirst] at he
  · intro hcount
    rcases hfirst with hfirst | ⟨-, hlt⟩
    · simp [hfirst]
    · omega
  · intro hcount
    rcases hsecond with hsecond | ⟨-, hlt⟩
    · simp [hsecond]
    · omega

/-- One byte for every binary resource, and an empty catalog. -/
def plainAnswer (q : LoadRequest) : Except FetchError Resource :=
  .ok (if q.kind = .binary then .binary [1] else .structured (.array []))

/-- The catalog may come before its index, or after it. -/
theorem latency_irrelevant_reversed :
    let info : HostInfo := ⟨"file:///movie.swf", 10, { viewport := ⟨550, 400⟩ }⟩
    let run := call plainAnswer {} (some Executor.willing) () {} info (.builtin ||| .playerglobal)
    let first := ending (run [3, 2, 5, 1] (List.replicate 33 1))
    let second := ending (run [0, 9, 4, 0] (List.replicate 39 2))
    first = second ∧ first.map Prod.fst = some (.ok (some ⟨0⟩)) := by
  refine ⟨?_, rfl⟩
  have hlimit (latencies : List Nat) (h : ∀ l ∈ latencies, l < 30000) : InTime {} latencies := by
    intro limit hlimit
    obtain rfl : 30000 = limit := Option.some.inj hlimit
    exact h
  obtain ⟨hsame, hfirst, hsecond⟩ := latency_irrelevant plainAnswer {} (some Executor.willing) ()
    {} _ _ [3, 2, 5, 1] [0, 9, 4, 0] (hlimit _ (by decide)) (hlimit _ (by decide))
    (by intro e e' he; cases he) (List.replicate 33 1) (List.replicate 39 2)
  obtain ⟨done, hdone⟩ := Option.isSome_iff_exists.mp (hfirst (by decide))
  obtain ⟨done', hdone'⟩ := Option.isSome_iff_exists.mp (hsecond (by decide))
  exact hdone.trans ((congrArg some (hsame done done' hdone hdone')).trans hdone'.symm)

end Timed

end ContentPlayer
