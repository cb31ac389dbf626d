import ContentPlayer.Proofs.Bootstrap.Call
import ContentPlayer.Proofs.Bootstrap.Serving

namespace ContentPlayer

variable {ω : Type}

/-- What a successful call leaves of the world that its last stretch found: one new domain on one
new stage, and five of the session's six fields filled in about them. -/
structure World.PublishedFrom (found world : World ω) (info : HostInfo) (f : Factory) : Prop where
  loader : world.session.loader = some ⟨info.url, info.version⟩
  domain : world.session.domain = some f.domain
  application : ∃ a, world.session.application = some a ∧ a.domain = f.domain
  context : ∃ c, world.session.context = some c ∧ c.application.domain = f.domain
  stage : ∃ d s, world.domain? f.domain = some d ∧ d.version = info.version ∧
    d.stage = some s ∧ world.session.stage = some s ∧ world.stage? s = some (.attach info.surface)
  others : (∃ d, world.domains = found.domains ++ [d]) ∧ (∃ s, world.stages = found.stages ++ [s]) ∧
    world.session.constructorsAllowed = found.session.constructorsAllowed

theorem World.publish_publishedFrom (world : World ω) (d : Domain ω) (info : HostInfo)
    (hd : d.version = info.version) :
    world.PublishedFrom (world.publish d info).1 info (world.publish d info).2 where
  loader := rfl
  domain := rfl
  application := ⟨_, rfl, rfl⟩
  context := ⟨_, rfl, rfl⟩
  stage := ⟨{ d with stage := some world.stages.length }, world.stages.length,
    by simp [publish, addDomain, addStage, domain?], hd, rfl, rfl,
    by simp [publish, addDomain, addStage, stage?]⟩
  others := ⟨⟨_, rfl⟩, ⟨_, rfl⟩, rfl⟩

/-- A stretch of a call has published everything, or has not touched the world. While the call
waits, its attempt serves the call's facts. -/
def Stretch.AllOrNothing (info : HostInfo) (s : Stretch ω) : Prop :=
  match s.progress with
  | .waiting a => s.world = s.found ∧ a.Serves info
  | .ended (.ok (some f)) => s.found.PublishedFrom s.world info f
  | .ended _ => s.world = s.found

namespace Bootstrapper

theorem resume_allOrNothing (b : Bootstrapper ω) (w : ω) (world : World ω) {a : Attempt ω}
    {info : HostInfo} (ha : a.Serves info) :
    Stretch.AllOrNothing info
      ⟨world, (b.resume w world a).1, (b.resume w world a).2.1, (b.resume w world a).2.2⟩ := by
  have hserves := Attempt.poll_serves (h := b.host) w ha
  unfold resume
  generalize a.poll b.host w = polled at hserves
  obtain ⟨w', progress⟩ := polled
  match progress with
  | .waiting a' => exact ⟨rfl, hserves⟩
  | .ended (.error e) => rfl
  | .ended (.ok none) => rfl
  | .ended (.ok (some d)) =>
    have hpublished := world.publish_publishedFrom d info (hserves d rfl).version_eq
    simpa only [Stretch.AllOrNothing, conclude, ha.info_eq] using hpublished

theorem firstStretch_allOrNothing (b : Bootstrapper ω) (w : ω) (world : World ω) (info : HostInfo)
    (flags : LibraryFlags) : (b.firstStretch w world info flags).AllOrNothing info := by
  by_cases hflags : (!flags.contains .builtin) = true
  · simp only [firstStretch, start, if_pos hflags]
    rfl
  by_cases hready : world.session.isReady = true
  · simp only [firstStretch, start, if_neg hflags, if_pos hready]
    rfl
  cases hexecutor : b.executor with
  | none =>
    simp only [firstStretch, start, if_neg hflags, if_neg hready, hexecutor]
    rfl
  | some x =>
    simp only [firstStretch, start, if_neg hflags, if_neg hready, hexecutor]
    exact resume_allOrNothing { b with executor := none } w world
      (Attempt.serves_unasked info flags b.config x)

theorem nextStretch_allOrNothing (b : Bootstrapper ω) (others : Interlude ω) {info : HostInfo}
    {s : Stretch ω} (hs : s.AllOrNothing info) : (b.nextStretch s others).AllOrNothing info := by
  unfold nextStretch
  split
  next => exact hs
  next a heq =>
    rw [Stretch.AllOrNothing, heq] at hs
    exact resume_allOrNothing b _ _ hs.2

/-- What holds of the world, and is kept by those who act in between, holds when the next stretch
begins. -/
theorem nextStretch_found (b : Bootstrapper ω) {others : Interlude ω} {info : HostInfo}
    {s : Stretch ω} {P : World ω → Prop} (hs : s.AllOrNothing info)
    (hothers : ∀ w world, P world → P (others (w, world)).2) (hfound : P s.found) :
    P (b.nextStretch s others).found := by
  unfold nextStretch
  split
  next => exact hfound
  next a heq =>
    rw [Stretch.AllOrNothing, heq] at hs
    exact hothers _ _ (hs.1 ▸ hfound)

theorem foldl_nextStretch (b : Bootstrapper ω) {info : HostInfo} {P : World ω → Prop}
    (interludes : List (Interlude ω)) {s : Stretch ω} (hs : s.AllOrNothing info)
    (hothers : ∀ others ∈ interludes, ∀ w world, P world → P (others (w, world)).2)
    (hfound : P s.found) :
    (interludes.foldl b.nextStretch s).AllOrNothing info ∧
      P (interludes.foldl b.nextStretch s).found := by
  induction interludes generalizing s with
  | nil => exact ⟨hs, hfound⟩
  | cons others rest ih =>
    refine ih (b.nextStretch_allOrNothing others hs) ?_ ?_
    · intro others' hmem
      exact hothers others' (List.mem_cons_of_mem _ hmem)
    · exact b.nextStretch_found hs (hothers others (by simp)) hfound

/-- Publishing is all or nothing. The stretch in which a call succeeds fills in the session at once
and about one domain; no other stretch touches the world, so that those who act in between only ever
see what they themselves have made of it. -/
theorem call_all_or_nothing (b : Bootstrapper ω) (w : ω) (world : World ω) (info : HostInfo)
    (flags : LibraryFlags) (interludes : List (Interlude ω)) :
    let s := b.call w world info flags interludes
    (∀ f, s.progress.result? = some (.ok (some f)) → s.found.PublishedFrom s.world info f) ∧
    ((∀ f, s.progress.result? ≠ some (.ok (some f))) → s.world = s.found) ∧
    ∀ P : World ω → Prop, P world →
      (∀ others ∈ interludes, ∀ w world, P world → P (others (w, world)).2) → P s.found := by
  intro s
  have hfirst := b.firstStretch_allOrNothing w world info flags
  have hs : s.AllOrNothing info :=
    (b.foldl_nextStretch (P := fun _ => True) interludes hfirst (by simp) trivial).1
  refine ⟨?_, ?_, ?_⟩
  · intro f hf
    cases hprogress : s.progress with
    | waiting a => simp [hprogress, Progress.result?] at hf
    | ended r =>
      obtain rfl : r = .ok (some f) := by simpa [hprogress, Progress.result?] using hf
      rwa [Stretch.AllOrNothing, hprogress] at hs
  · intro hf
    cases hprogress : s.progress with
    | waiting a =>
      rw [Stretch.AllOrNothing, hprogress] at hs
      exact hs.1
    | ended r =>
      rw [Stretch.AllOrNothing, hprogress] at hs
      match r with
      | .error e => exact hs
      | .ok none => exact hs
      | .ok (some f) => exact absurd (by rw [hprogress]; rfl) (hf f)
  · intro P hP hothers
    exact (b.foldl_nextStretch interludes hfirst hothers hP).2

/-- A bootstrap that waits three times succeeds, and has then published its domain. -/
theorem call_all_or_nothing_ticking :
    let b : Bootstrapper Nat := ⟨.ticking 3 none, {}, some .willing⟩
    let info : HostInfo := ⟨"file:///movie.swf", 10, { viewport := ⟨550, 400⟩ }⟩
    let s := b.call 0 {} info (.builtin ||| .playerglobal)
      (List.replicate 3 fun (now, world) => (now + 3, world))
    s.progress.result? = some (.ok (some ⟨0⟩)) ∧ s.found.PublishedFrom s.world info ⟨0⟩ :=
  ⟨rfl, (call_all_or_nothing _ _ _ _ _ _).1 ⟨0⟩ rfl⟩

end Bootstrapper

end ContentPlayer
