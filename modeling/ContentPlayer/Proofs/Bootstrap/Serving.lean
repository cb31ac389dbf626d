import ContentPlayer.Bootstrap.Bootstrapper
import ContentPlayer.Proofs.Domain.Loading

namespace ContentPlayer

variable {ω : Type}

/-- A domain for the host's facts, in which every module has been executed and nothing is
registered. -/
structure Domain.Serves (info : HostInfo) (d : Domain ω) : Prop where
  version_eq : d.version = info.version
  executed_eq : d.executed = d.modules.length
  registries_eq : d.registries = {}

def Phase.domain? : Phase ω → Option (Domain ω)
  | .baseline _ _ => none
  | .catalog d _ _ => some d
  | .shell d _ => some d

/-- An attempt serves the host's facts with which it was begun. -/
structure Attempt.Serves (info : HostInfo) (a : Attempt ω) : Prop where
  info_eq : a.info = info
  domain_serves : ∀ d, a.phase.domain? = some d → d.Serves info

def Progress.Serves (info : HostInfo) : Progress ω (Domain ω) → Prop
  | .waiting a => a.Serves info
  | .ended r => ∀ d, r = .ok (some d) → d.Serves info

namespace Attempt

variable {h : Host ω} {a : Attempt ω} {info : HostInfo}

theorem serves_unasked (info : HostInfo) (flags : LibraryFlags) (config : BootstrapConfig)
    (x : Executor ω) : Serves info ⟨info, flags, config, .baseline x .unasked⟩ :=
  ⟨rfl, fun d hd => by cases hd⟩

theorem runModule_serves {w w' : ω} {stage : BootstrapStage} {d d' : Domain ω} {r : Resource}
    {name origin : String} (hd : d.Serves info)
    (hrun : runModule w stage d r name origin = (w', .ok d')) : d'.Serves info := by
  unfold runModule at hrun
  split at hrun
  next => simp at hrun
  next code _ =>
    split at hrun
    next w₁ d₁ id heq =>
      obtain rfl : d₁ = d' := by simpa using congrArg Prod.snd hrun
      obtain ⟨m, rfl⟩ := Domain.eq_of_loadAndExecute_ok hd.executed_eq heq
      exact ⟨hd.version_eq, by simp [hd.executed_eq], hd.registries_eq⟩
    next => simp at hrun

theorem pollShell_serves (w : ω) {d : Domain ω} (shell : Fetching) (ha : a.info = info)
    (hd : d.Serves info) : (a.pollShell h w d shell).2.Serves info := by
  unfold pollShell
  split
  next => simp [Progress.Serves]
  next =>
    split
    next => simp [Progress.Serves]
    next heq =>
      have hd' := runModule_serves hd heq
      split
      · simp [Progress.Serves]
      · simpa [Progress.Serves] using hd'
  next => exact ⟨ha, fun d' h' => by cases h'; exact hd⟩

theorem pollCatalog_serves (w : ω) {d : Domain ω} (code index : Fetching) (ha : a.info = info)
    (hd : d.Serves info) : (a.pollCatalog h w d code index).2.Serves info := by
  unfold pollCatalog
  split
  next => simp [Progress.Serves]
  next =>
    split
    next => simp [Progress.Serves]
    next =>
      split
      next =>
        split
        next => simp [Progress.Serves]
        next catalog _ =>
          have hcatalog : (d.registerCatalog catalog).Serves info :=
            ⟨hd.version_eq, hd.executed_eq, hd.registries_eq⟩
          exact pollShell_serves _ _ ha hcatalog
      next => exact ⟨ha, fun d' h' => by cases h'; exact hd⟩

theorem pollBaseline_serves (w : ω) (x : Executor ω) (builtin : Fetching) (ha : a.info = info) :
    (a.pollBaseline h w x builtin).2.Serves info := by
  unfold pollBaseline
  split
  next => simp [Progress.Serves]
  next =>
    dsimp only
    split
    next => simp [Progress.Serves]
    next d heq =>
      have hfresh : ({ executor := x, version := a.info.version } : Domain ω).Serves info :=
        ⟨congrArg HostInfo.version ha, rfl, rfl⟩
      have hd := runModule_serves hfresh heq
      split
      · exact pollCatalog_serves _ _ _ ha hd
      · simp [Progress.Serves]
  next => exact ⟨ha, fun d h' => by cases h'⟩

theorem poll_serves (w : ω) (ha : a.Serves info) : (a.poll h w).2.Serves info := by
  unfold poll
  split
  next => exact pollBaseline_serves _ _ _ ha.info_eq
  next d _ _ hphase =>
    have hd : d.Serves info := ha.domain_serves d (by rw [hphase]; rfl)
    exact pollCatalog_serves _ _ _ ha.info_eq hd
  next d _ hphase =>
    have hd : d.Serves info := ha.domain_serves d (by rw [hphase]; rfl)
    exact pollShell_serves _ _ ha.info_eq hd

end Attempt

theorem Bootstrapper.resume_serves (b : Bootstrapper ω) {w : ω} {world : World ω}
    {a a' : Attempt ω} {info : HostInfo} (ha : a.Serves info)
    (hwaiting : (b.resume w world a).2.2 = .waiting a') : a'.Serves info := by
  have hserves := Attempt.poll_serves (h := b.host) w ha
  unfold resume at hwaiting
  generalize a.poll b.host w = polled at hserves hwaiting
  obtain ⟨w', progress⟩ := polled
  match progress with
  | .waiting a'' =>
    obtain rfl : a'' = a' := by simpa [conclude] using hwaiting
    exact hserves
  | .ended (.error e) => cases hwaiting
  | .ended (.ok none) => cases hwaiting
  | .ended (.ok (some d)) => cases hwaiting

end ContentPlayer
