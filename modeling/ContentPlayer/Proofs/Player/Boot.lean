import ContentPlayer.Proofs.Bootstrap.Playing
import ContentPlayer.Proofs.Player.Scripts

namespace ContentPlayer

open Script (Interpreter Sandbox piecesOf)

variable {ω σ π : Type}

namespace Progress

variable {α : Type} {progress : Progress ω α}

theorem result?_eq_some {r : Except BootstrapError (Option α)} :
    progress.result? = some r ↔ progress = .ended r := by
  cases progress <;> simp [result?]

theorem attempt?_ne_none : progress.attempt? ≠ none ↔ progress.result? = none := by
  cases progress <;> simp [attempt?, result?]

end Progress

/-- A bootstrap that is admitted takes the executor, and goes on from there. -/
theorem Player.start_of_attempt {p : Player ω} {info : HostInfo} {flags : LibraryFlags}
    {a : Attempt ω} (w : ω) (ha : p.bootstrapper.attempt? p.world info flags = some a) :
    p.start w info flags = p.taken.resume w a := by
  rw [start, Bootstrapper.start_of_attempt w ha]
  rfl

namespace Life

/-- A bootstrap that is looked at again whenever something has passed outside. -/
def bootSteps (info : HostInfo) (flags : LibraryFlags) (passes : List (ω → ω)) : List (Step ω) :=
  .start info flags :: passes.flatMap fun f => [.elapse f, .resume]

/-- The life of a player stands where a call does. When the call is over only the outside goes
on. -/
structure Follows (l : Life ω) (p : Player ω) (core : ω → σ) (s : Stretch ω) : Prop where
  player_eq : l.player = ({ p with world := s.world } : Player ω).keep s.progress
  attempt_eq : l.attempt = s.progress.attempt?
  outside_eq : s.progress.attempt? ≠ none → l.outside = s.outside
  core_eq : core l.outside = core s.outside

variable {l : Life ω} {p : Player ω} {core : ω → σ} {s : Stretch ω} {b : Bootstrapper ω}

theorem Follows.next (hl : l.Follows p core s) (hhost : p.bootstrapper.host = b.host) {f : ω → ω}
    (hf : ∀ w, core (f w) = core w) :
    (l.run [.elapse f, .resume]).Follows p core (b.nextStretch s (Prod.map f id)) := by
  obtain ⟨found, w, world, progress⟩ := s
  cases progress with
  | ended r =>
    have hnone : l.attempt = none := hl.attempt_eq
    have hrun : l.run [.elapse f, .resume] = { l with outside := f l.outside } := by
      simp [run, turn, act, hnone]
    rw [hrun]
    refine ⟨hl.player_eq, hl.attempt_eq, fun hwaiting => absurd rfl hwaiting, ?_⟩
    exact (hf l.outside).trans hl.core_eq
  | waiting a =>
    have hsome : l.attempt = some a := hl.attempt_eq
    have houtside : l.outside = w := hl.outside_eq (Option.some_ne_none a)
    have hplayer : l.player = { p with world } := hl.player_eq
    have hresume : Bootstrapper.resume (f w) world p.bootstrapper a = b.resume (f w) world a := by
      rw [Bootstrapper.resume, hhost, Bootstrapper.resume]
    have hrun : l.run [.elapse f, .resume] =
        ⟨(b.resume (f w) world a).1,
          ({ p with world := (b.resume (f w) world a).2.1 } : Player ω).keep
            (b.resume (f w) world a).2.2,
          (b.resume (f w) world a).2.2.attempt?⟩ := by
      simp only [run, turn, act, hsome, houtside, hplayer, Player.resume, hresume]
    rw [hrun]
    exact ⟨rfl, rfl, fun _ => rfl, rfl⟩

theorem Follows.run (hl : l.Follows p core s) (hhost : p.bootstrapper.host = b.host)
    {passes : List (ω → ω)} (hpasses : ∀ f ∈ passes, ∀ w, core (f w) = core w) :
    (l.run (passes.flatMap fun f => [.elapse f, .resume])).Follows p core
      ((passes.map fun f => Prod.map f id).foldl b.nextStretch s) := by
  induction passes generalizing l s with
  | nil => exact hl
  | cons f rest ih =>
    have hnext := hl.next hhost (hpasses f (List.mem_cons_self ..))
    have hrest := ih hnext fun f' hf' => hpasses f' (List.mem_cons_of_mem _ hf')
    rw [List.flatMap_cons, run_append]
    exact hrest

/-- The life of a player that bootstraps stands where the call of its bootstrap does. -/
theorem follows_call (core : ω → σ) (w : ω) (host : Host ω) (config : BootstrapConfig)
    (x : Executor ω) (info : HostInfo) {flags : LibraryFlags}
    (hflags : flags.contains .builtin = true) {passes : List (ω → ω)}
    (hpasses : ∀ f ∈ passes, ∀ w, core (f w) = core w) :
    ((ofParts w host config x).run (bootSteps info flags passes)).Follows
      (Player.ofParts host config x).taken core
      (Bootstrapper.call ⟨host, config, some x⟩ w {} info flags
        (passes.map fun f => Prod.map f id)) := by
  let b : Bootstrapper ω := ⟨host, config, some x⟩
  let p : Player ω := .ofParts host config x
  have hattempt : b.attempt? {} info flags = some ⟨info, flags, config, .baseline x .unasked⟩ :=
    Bootstrapper.attempt?_eq_some.mpr ⟨hflags, rfl, x, rfl, rfl⟩
  have hstart : p.start w info flags =
      p.taken.resume w ⟨info, flags, config, .baseline x .unasked⟩ :=
    Player.start_of_attempt w hattempt
  have hturn : ((ofParts w host config x).turn (.start info flags)).after =
      ⟨(p.start w info flags).1, (p.start w info flags).2.1,
        (p.start w info flags).2.2.attempt?.or none⟩ := rfl
  have hfirst : ((ofParts w host config x).turn (.start info flags)).after.Follows p.taken core
      (b.firstStretch w {} info flags) := by
    rw [hturn, hstart, Bootstrapper.firstStretch, Bootstrapper.start_of_attempt w hattempt]
    exact ⟨rfl, Option.or_none, fun _ => rfl, rfl⟩
  exact hfirst.run rfl hpasses

section Boot

variable (S : Service ω σ π) {x : Executor ω} {config : BootstrapConfig}
  (hlimit : config.limit = S.limit) (hpass : ∀ p w, S.core (S.pass p w) = S.core w)
  (info : HostInfo) {flags : LibraryFlags} (hflags : flags.contains .builtin = true) {w : ω}
  (hw : S.Good w) (waits : List π)

include hlimit hpass hflags hw

/-- A bootstrap that gets its answers ends when they have come, with what they make of it. -/
theorem boot_cases {y : Executor σ} (hx : S.Employs x y)
    (hone : S.OneFault ⟨config.catalog, .binary⟩ ⟨config.catalogIndex, .structured⟩) :
    let l := (ofParts w S.host config x).run (bootSteps info flags (waits.map S.pass))
    let done := Work.bootstrap S.answer config y x info flags (S.core w, {})
    l.attempt ≠ none ∧ waits.countP S.counts < 3 * S.most ∨
      l.attempt = none ∧ S.core l.outside = done.1.1 ∧
        l.player = ({ (Player.ofParts S.host config x).taken with world := done.1.2 } :
          Player ω).keep (.ended done.2) := by
  intro l done
  let call := Bootstrapper.call ⟨S.host, config, some x⟩ w {} info flags (waits.map S.interlude)
  have hfollows : l.Follows (Player.ofParts S.host config x).taken S.core call := by
    have hpasses : ∀ f ∈ waits.map S.pass, ∀ w, S.core (f w) = S.core w := by
      intro f hf
      obtain ⟨p, -, rfl⟩ := List.mem_map.mp hf
      exact hpass p
    have hcall := follows_call S.core w S.host config x info hflags hpasses
    rwa [List.map_map] at hcall
  rcases S.outcome_call {} info hlimit hx hone hw hflags rfl waits with
    ⟨hnone, hcount⟩ | ⟨w', hsome, -, hcore⟩
  · refine .inl ⟨?_, hcount⟩
    rw [hfollows.attempt_eq]
    exact Progress.attempt?_ne_none.mpr (Option.map_eq_none_iff.mp hnone)
  · obtain ⟨r, hresult, hdone⟩ := Option.map_eq_some_iff.mp hsome
    simp only [Prod.mk.injEq] at hdone
    obtain ⟨rfl, houtside, hworld⟩ := hdone
    have hended : call.progress = .ended done.2 := Progress.result?_eq_some.mp hresult
    have houtside : call.outside = w' := houtside
    have hworld : call.world = done.1.2 := hworld
    refine .inr ⟨?_, ?_, ?_⟩
    · rw [hfollows.attempt_eq, hended]
      rfl
    · rw [hfollows.core_eq, houtside, hcore]
    · rw [hfollows.player_eq, hended, hworld]

end Boot

/-- A bootstrap that gets its answers ends when they have come. The engine has then played the
system modules, and does everything from there on. -/
theorem engages_of_boot {i : Interpreter σ} (S : Service ω (Sandbox σ) π) {x : Executor ω}
    {config : BootstrapConfig} (hlimit : config.limit = S.limit)
    (hemploys : S.Employs x i.executor) (hx : x.Engages i S.core)
    (hpass : ∀ p w, S.core (S.pass p w) = S.core w)
    {builtin bytes shell : Bytes} {document : Json} {c : Catalog}
    (hbuiltin : S.answer ⟨config.builtin, .binary⟩ = .ok (.binary builtin))
    (hcode : S.answer ⟨config.catalog, .binary⟩ = .ok (.binary bytes))
    (hindex : S.answer ⟨config.catalogIndex, .structured⟩ = .ok (.structured document))
    (hcatalog : Catalog.ofJson bytes document = .ok c)
    (hshell : S.answer ⟨config.shell, .binary⟩ = .ok (.binary shell)) (info : HostInfo)
    {flags : LibraryFlags} (hflags : flags.contains .builtin = true)
    (hplayer : flags.contains .playerglobal = true) {w : ω} (hw : S.Good w)
    (hnew : S.core w = i.sandbox) (waits : List π) :
    let l := (ofParts w S.host config x).run (bootSteps info flags (waits.map S.pass))
    (3 * S.most ≤ waits.countP S.counts → l.attempt = none) ∧
      (l.attempt = none → l.Engages i S.core ∧
        S.core l.outside = i.playing i.sandbox (i.systemPieces builtin shell) ∧
        (l.player.factory ≠ none →
          i.systemPieces builtin shell = piecesOf builtin ++ piecesOf shell)) := by
  intro l
  let p : Player ω := (Player.ofParts S.host config x).taken
  have hp : p.Unpublished := ⟨rfl, rfl, rfl⟩
  have hone : S.OneFault ⟨config.catalog, .binary⟩ ⟨config.catalogIndex, .structured⟩ := by
    refine .inl ?_
    intro e e' he
    rw [hcode] at he
    cases he
  rcases boot_cases S hlimit hpass info hflags hw waits hemploys hone with
    ⟨hwaiting, hcount⟩ | ⟨hover, hcore, hafter⟩
  · exact ⟨fun hle => absurd hcount (Nat.not_lt.mpr hle), fun hnone => absurd hnone hwaiting⟩
  · refine ⟨fun _ => hover, fun _ => ?_⟩
    rw [hnew] at hcore hafter
    obtain ⟨hplays, ⟨fault, hfault, hworld⟩ | ⟨d, hd, hdone, hworld, hboth⟩⟩ :=
      Work.bootstrap_plays hx hbuiltin hcode hindex hcatalog hshell info hplayer {}
    · have hsame : l.player = p := by
        rw [hafter, hworld, hfault]
        rfl
      have hspent : l.Spent := by
        refine ⟨?_, ?_, hover⟩
        · rw [hsame]
          exact hp
        · rw [hsame]
          rfl
      have hnothing : l.player.world.Engages i S.core := by
        rw [hsame]
        exact fun d hd => absurd hd List.not_mem_nil
      exact ⟨⟨.inl hspent, hnothing⟩, hcore.trans hplays, absurd hspent.player.factory_eq⟩
    · have hsame : l.player = p.publishing d info := by
        rw [hafter, hworld, hdone]
        rfl
      obtain ⟨y, hy⟩ := hp.publishing rfl d info
      have hpublished : l.Published y := by
        refine ⟨?_, hover⟩
        rw [hsame]
        exact hy
      have hengages : l.player.world.Engages i S.core := by
        rw [hsame]
        intro d' hd'
        obtain rfl : d' = { d with stage := some 0 } := List.mem_singleton.mp hd'
        exact ⟨hd.executor, hd.executed_eq⟩
      exact ⟨⟨.inr ⟨y, hpublished⟩, hengages⟩, hcore.trans hplays, fun _ => hboth⟩

end Life

end ContentPlayer
