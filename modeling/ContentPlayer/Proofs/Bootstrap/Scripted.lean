import ContentPlayer.Proofs.Bootstrap.Script

namespace ContentPlayer

variable {ω : Type}

section Shown

variable {q : LoadRequest} {f f' : Fetching} {log log' entries : List Visible}

/-- Some entries show how far a fetch has come. -/
inductive Fetching.ShownIn (q : LoadRequest) (entries : List Visible) : Fetching → Prop where
  | unasked : ShownIn q entries .unasked
  | pending {ticket : Nat} {deadline : Option Nat} (hasked : .request q ticket ∈ entries) :
      ShownIn q entries (.pending ticket deadline)
  | arrived {ticket : Nat} {r : Resource} (hasked : .request q ticket ∈ entries)
      (hcame : .answer ticket (.ok r) ∈ entries) : ShownIn q entries (.arrived r)

theorem Fetching.ShownIn.append (h : f.ShownIn q entries) (more : List Visible) :
    f.ShownIn q (entries ++ more) := by
  cases h with
  | unasked => exact .unasked
  | pending hasked => exact .pending (List.mem_append_left _ hasked)
  | arrived hasked hcame =>
    exact .arrived (List.mem_append_left _ hasked) (List.mem_append_left _ hcame)

theorem Awaits.shownIn {ticket : Nat} (h : Awaits ticket log log' (.ok f))
    (hasked : .request q ticket ∈ entries) :
    ∃ more, log' = log ++ more ∧ f.ShownIn q (entries ++ more) := by
  cases h with
  | waiting => exact ⟨[], by simp, .pending (by simpa using hasked)⟩
  | arrived => exact ⟨_, rfl, .arrived (List.mem_append_left _ hasked) (by simp)⟩

theorem Fetches.shownIn (h : Fetches q log f log' (.ok f')) (hf : f.ShownIn q entries) :
    ∃ more, log' = log ++ more ∧ f'.ShownIn q (entries ++ more) := by
  cases h with
  | here => exact ⟨[], by simp, by simpa using hf⟩
  | @asked ticket _ _ h =>
    have hasked : .request q ticket ∈ entries ++ [.request q ticket] := by simp
    obtain ⟨more, rfl, hmore⟩ := h.shownIn hasked
    exact ⟨.request q ticket :: more, by simp, by simpa using hmore⟩
  | awaited h =>
    cases hf with
    | pending hasked => exact h.shownIn hasked

/-- The log shows how far the two fetches of the catalog have come since the builtin module was
executed. -/
def CatalogShown (config : BootstrapConfig) (log : List Visible) (code index : Fetching) : Prop :=
  ∃ base entries, log = base ++ entries ∧ (acts base).length = 3 ∧
    code.ShownIn ⟨config.catalog, .binary⟩ entries ∧
    index.ShownIn ⟨config.catalogIndex, .structured⟩ entries

variable {config : BootstrapConfig} {flags : LibraryFlags} {code code' index index' : Fetching}

theorem CatalogShown.code_fetched (h : CatalogShown config log code index)
    (hfetch : Fetches ⟨config.catalog, .binary⟩ log code log' (.ok code')) :
    CatalogShown config log' code' index := by
  obtain ⟨base, entries, rfl, hbase, hcode, hindex⟩ := h
  obtain ⟨more, rfl, hcode'⟩ := hfetch.shownIn hcode
  exact ⟨base, entries ++ more, by simp, hbase, hcode', hindex.append more⟩

theorem CatalogShown.index_fetched (h : CatalogShown config log code index)
    (hfetch : Fetches ⟨config.catalogIndex, .structured⟩ log index log' (.ok index')) :
    CatalogShown config log' code index' := by
  obtain ⟨base, entries, rfl, hbase, hcode, hindex⟩ := h
  obtain ⟨more, rfl, hindex'⟩ := hfetch.shownIn hindex
  exact ⟨base, entries ++ more, by simp, hbase, hcode.append more, hindex'⟩

/-- A catalog is made of resources of the right kinds. -/
theorem Attempt.of_makeCatalog_ok {code index : Resource} {c : Catalog}
    (h : makeCatalog config code index = .ok c) : ∃ bytes v, code = .binary bytes ∧
      index = .structured v ∧ Catalog.ofJson bytes v = .ok c := by
  cases code with
  | structured v => cases h
  | binary bytes =>
    cases index with
    | binary bytes' => cases h
    | structured v =>
      refine ⟨bytes, v, rfl, rfl, ?_⟩
      have hmake : makeCatalog config (.binary bytes) (.structured v) =
          inStage .catalog .catalog (Catalog.ofJson bytes v) := rfl
      rw [hmake] at h
      cases hc : Catalog.ofJson bytes v with
      | error e =>
        rw [hc] at h
        cases h
      | ok c' =>
        rw [hc] at h
        cases h
        rfl

theorem CatalogShown.came {code index : Resource} {c : Catalog}
    (h : CatalogShown config log (.arrived code) (.arrived index))
    (hcatalog : Attempt.makeCatalog config code index = .ok c) : CatalogCame config log := by
  obtain ⟨bytes, v, rfl, rfl, hc⟩ := Attempt.of_makeCatalog_ok hcatalog
  obtain ⟨base, entries, rfl, hbase, hcode, hindex⟩ := h
  cases hcode with
  | arrived hcode hcode' =>
    cases hindex with
    | arrived hindex hindex' =>
      exact ⟨base, entries, _, _, bytes, v, c, rfl, hbase, hcode, hcode', hindex, hindex', hc⟩

/-- The index is asked for when the catalog has come, or right behind the catalog. -/
theorem allowed_index (hlog : Standing config flags 3 0 log)
    (hcode : Fetched config flags 3 0 ⟨config.catalog, .binary⟩ .unasked log log' (.ok code))
    (ticket : Nat) :
    Allowed config log' (.request ⟨config.catalogIndex, .structured⟩ ticket) := by
  cases hcode with
  | here hf => exact nomatch hf
  | came hearlier => exact (hearlier.answer _).allowed_request (by simp) _ ticket
  | @waiting _ ticket _ hlog' hnew =>
    exact {
      clean := hlog'.clean
      pending := .inr ⟨hlog'.length_eq, log, ticket, hnew rfl, hlog.pending_eq⟩
      load := by simp
      execute := by simp
      catalog := fun hlength => absurd (hlog'.length_eq.symm.trans hlength) (by decide) }

/-- Where the two fetches of the catalog stand, of which either both have been asked for or none. -/
structure CatalogStands (config : BootstrapConfig) (flags : LibraryFlags) (log : List Visible)
    (code index : Fetching) : Prop where
  asked_eq : code.asked = index.asked
  standing : Standing config flags (3 + index.asked + code.asked) (code.tickets + index.tickets) log
  shown : CatalogShown config log code index

theorem CatalogStands.code_fetched {r : Except BootstrapError Fetching}
    (h : CatalogStands config flags log code index)
    (hflags : flags.contains .playerglobal = true)
    (hfetch : Fetches ⟨config.catalog, .binary⟩ log code log' r) :
    Fetched config flags (3 + index.asked) index.tickets ⟨config.catalog, .binary⟩ code log log'
      r := by
  refine h.standing.fetched ?_ hfetch
  rintro rfl
  cases index with
  | unasked =>
    have hstanding : Standing config flags 3 0 log := h.standing
    exact ⟨by simp [script, hflags, Fetching.asked], hstanding.allowed_request (by simp) _⟩
  | pending => cases h.asked_eq
  | arrived => cases h.asked_eq

theorem CatalogStands.index_fetched {middle : List Visible} {r : Except BootstrapError Fetching}
    (h : CatalogStands config flags log code index)
    (hflags : flags.contains .playerglobal = true)
    (hcode : Fetches ⟨config.catalog, .binary⟩ log code middle (.ok code'))
    (hindex : Fetches ⟨config.catalogIndex, .structured⟩ middle index log' r) :
    Fetched config flags 4 code'.tickets ⟨config.catalogIndex, .structured⟩ index middle log'
      r := by
  have hfetched := h.code_fetched hflags hcode
  have hmiddle := hfetched.standing
  -- the catalog's ticket is now one of the others
  rw [Nat.add_right_comm 3, Multiset.add_comm] at hmiddle
  refine hmiddle.fetched ?_ hindex
  rintro rfl
  cases code with
  | unasked => exact ⟨by simp [script, hflags], allowed_index h.standing hfetched⟩
  | pending => cases h.asked_eq
  | arrived => cases h.asked_eq

theorem CatalogStands.fetched {middle : List Visible}
    (h : CatalogStands config flags log code index)
    (hflags : flags.contains .playerglobal = true)
    (hcode : Fetches ⟨config.catalog, .binary⟩ log code middle (.ok code'))
    (hindex : Fetches ⟨config.catalogIndex, .structured⟩ middle index log' (.ok index')) :
    CatalogStands config flags log' code' index' := by
  have hcode' := h.code_fetched hflags hcode
  have hindex' := h.index_fetched hflags hcode hindex
  refine ⟨hcode'.asked_eq.trans hindex'.asked_eq.symm, ?_, ?_⟩
  · rw [hcode'.asked_eq, hindex'.asked_eq, Multiset.add_comm]
    exact hindex'.standing
  · exact (h.shown.code_fetched hcode).index_fetched hindex

end Shown

section Phase

/-- Where an attempt stands when its log stands so. -/
inductive Phase.Stands (config : BootstrapConfig) (flags : LibraryFlags) (log : List Visible) :
    Phase ω → Prop where
  | baseline {x : Executor ω} {builtin : Fetching} (hnew : ∀ r, builtin ≠ .arrived r)
      (hlog : Standing config flags (0 + builtin.asked) (builtin.tickets + 0) log) :
      Stands config flags log (.baseline x builtin)
  | catalog {d : Domain ω} {code index : Fetching} (hd : d.executed = d.modules.length)
      (hflags : flags.contains .playerglobal = true)
      (hcatalog : CatalogStands config flags log code index) :
      Stands config flags log (.catalog d code index)
  | shell {d : Domain ω} {shell : Fetching} (hd : d.executed = d.modules.length)
      (hflags : flags.contains .playerglobal = true) (hnew : ∀ r, shell ≠ .arrived r)
      (hlog : Standing config flags (5 + shell.asked) (shell.tickets + 0) log)
      (hcame : shell = .unasked → CatalogCame config log) : Stands config flags log (.shell d shell)

/-- While it waits, an attempt stands where its log does; what has ended was lawful. -/
def Progress.Stands {α : Type} (config : BootstrapConfig) (flags : LibraryFlags)
    (log : List Visible) : Progress ω α → Prop
  | .waiting a => a.config = config ∧ a.flags = flags ∧ a.phase.Stands config flags log
  | .ended _ => Lawful config flags log

theorem Phase.Stands.lawful {config : BootstrapConfig} {flags : LibraryFlags} {log : List Visible}
    {phase : Phase ω} (h : phase.Stands config flags log) : Lawful config flags log := by
  cases h with
  | baseline _ hlog => exact hlog.toLawful
  | catalog _ _ hcatalog => exact hcatalog.standing.toLawful
  | shell _ _ _ hlog => exact hlog.toLawful

theorem Progress.Stands.lawful {α : Type} {config : BootstrapConfig} {flags : LibraryFlags}
    {log : List Visible} {progress : Progress ω α} (h : progress.Stands config flags log) :
    Lawful config flags log := by
  cases progress with
  | waiting a => exact h.2.2.lawful
  | ended r => exact h

namespace Attempt

theorem pollShell_noted (h : Host ω) (w : ω) (a : Attempt ω) {d : Domain ω} {shell : Fetching}
    {log : List Visible} (hphase : (Phase.shell d shell).Stands a.config a.flags log) :
    ∃ log', a.noted.pollShell h.noted (w, log) d.noted shell =
        (((a.pollShell h w d shell).1, log'), (a.pollShell h w d shell).2.noted Domain.noted) ∧
      (a.pollShell h w d shell).2.Stands a.config a.flags log' := by
  have hconfig : a.noted.config = a.config := rfl
  obtain ⟨log₁, hfetch, hfetches⟩ :=
    fetch_noted h w log a.config.limit .shell ⟨a.config.shell, .binary⟩ shell
  cases hphase with
  | shell hd hflags hnew hlog hcame =>
    have hask : shell = .unasked →
        (script a.config a.flags)[5]? = some (.request ⟨a.config.shell, .binary⟩) ∧
          ∀ ticket, Allowed a.config log (.request ⟨a.config.shell, .binary⟩ ticket) := by
      rintro rfl
      exact ⟨by simp [script, hflags], hlog.allowed_request (fun _ => hcame rfl) _⟩
    have hfetched := hlog.fetched hask hfetches
    unfold pollShell
    rw [hconfig, hfetch]
    generalize h.fetch w a.config.limit .shell ⟨a.config.shell, .binary⟩ shell = fetched at hfetched
    obtain ⟨w₁, r⟩ := fetched
    cases hfetched with
    | failed hlog' => exact ⟨log₁, rfl, hlog'⟩
    | waiting hlog' =>
      refine ⟨log₁, rfl, rfl, rfl, ?_⟩
      exact .shell hd hflags (fun _ h => nomatch h) hlog' (fun h => nomatch h)
    | here hf => exact absurd hf (hnew _)
    | @came earlier ticket r hearlier =>
      obtain ⟨log₂, hrun, hruns⟩ := runModule_noted w₁ (earlier ++ [.answer ticket (.ok r)]) .shell
        hd r a.config.shell shellOrigin
      have hran := hearlier.ran (by decide) (by decide) (by simp [script, hflags])
        (by simp [script, hflags]) hruns
      dsimp only
      rw [hrun]
      generalize runModule w₁ .shell d r a.config.shell shellOrigin = run at hran
      obtain ⟨w₂, result⟩ := run
      cases result with
      | error e => exact ⟨log₂, rfl, hran.1⟩
      | ok d' =>
        have hcancelled : h.noted.cancelled (w₂, log₂) = h.cancelled w₂ := rfl
        dsimp only [Except.map]
        rw [hcancelled]
        cases h.cancelled w₂ <;> exact ⟨log₂, rfl, hran.1⟩

theorem pollCatalog_noted (h : Host ω) (w : ω) (a : Attempt ω) {d : Domain ω}
    {code index : Fetching} {log : List Visible}
    (hphase : (Phase.catalog d code index).Stands a.config a.flags log) :
    ∃ log', a.noted.pollCatalog h.noted (w, log) d.noted code index =
        (((a.pollCatalog h w d code index).1, log'),
          (a.pollCatalog h w d code index).2.noted Domain.noted) ∧
      (a.pollCatalog h w d code index).2.Stands a.config a.flags log' := by
  have hconfig : a.noted.config = a.config := rfl
  obtain ⟨log₁, hfetch, hfetches⟩ :=
    fetch_noted h w log a.config.limit .catalog ⟨a.config.catalog, .binary⟩ code
  cases hphase with
  | catalog hd hflags hcatalog =>
    unfold pollCatalog
    rw [hconfig, hfetch]
    generalize h.fetch w a.config.limit .catalog ⟨a.config.catalog, .binary⟩ code = fetched
      at hfetches
    obtain ⟨w₁, r⟩ := fetched
    cases r with
    | error e => exact ⟨log₁, rfl, (hcatalog.code_fetched hflags hfetches).lawful⟩
    | ok code' =>
      obtain ⟨log₂, hfetch', hfetches'⟩ :=
        fetch_noted h w₁ log₁ a.config.limit .catalog ⟨a.config.catalogIndex, .structured⟩ index
      dsimp only
      rw [hfetch']
      generalize h.fetch w₁ a.config.limit .catalog ⟨a.config.catalogIndex, .structured⟩ index =
        fetched at hfetches'
      obtain ⟨w₂, r⟩ := fetched
      cases r with
      | error e => exact ⟨log₂, rfl, (hcatalog.index_fetched hflags hfetches hfetches').lawful⟩
      | ok index' =>
        have hcatalog' := hcatalog.fetched hflags hfetches hfetches'
        match code', index' with
        | .unasked, _ | .pending _ _, _ | .arrived _, .unasked | .arrived _, .pending _ _ =>
          exact ⟨log₂, rfl, rfl, rfl, .catalog hd hflags hcatalog'⟩
        | .arrived code, .arrived index =>
          dsimp only
          cases hmake : makeCatalog a.config code index with
          | error e => exact ⟨log₂, rfl, hcatalog'.standing.toLawful⟩
          | ok c =>
            have hshell : (Phase.shell (d.registerCatalog c) .unasked).Stands a.config a.flags
                log₂ :=
              .shell hd hflags (fun _ h => nomatch h) hcatalog'.standing
                fun _ => hcatalog'.shown.came hmake
            exact pollShell_noted h w₂ a hshell

theorem pollBaseline_noted (h : Host ω) (w : ω) (a : Attempt ω) {x : Executor ω}
    {builtin : Fetching} {log : List Visible}
    (hphase : (Phase.baseline x builtin).Stands a.config a.flags log) :
    ∃ log', a.noted.pollBaseline h.noted (w, log) x.noted builtin =
        (((a.pollBaseline h w x builtin).1, log'),
          (a.pollBaseline h w x builtin).2.noted Domain.noted) ∧
      (a.pollBaseline h w x builtin).2.Stands a.config a.flags log' := by
  have hconfig : a.noted.config = a.config := rfl
  obtain ⟨log₁, hfetch, hfetches⟩ :=
    fetch_noted h w log a.config.limit .baseline ⟨a.config.builtin, .binary⟩ builtin
  cases hphase with
  | baseline hnew hlog =>
    have hask : builtin = .unasked →
        (script a.config a.flags)[0]? = some (.request ⟨a.config.builtin, .binary⟩) ∧
          ∀ ticket, Allowed a.config log (.request ⟨a.config.builtin, .binary⟩ ticket) := by
      rintro rfl
      exact ⟨rfl, hlog.allowed_request (fun h => nomatch h) _⟩
    have hfetched := hlog.fetched hask hfetches
    unfold pollBaseline
    rw [hconfig, hfetch]
    generalize h.fetch w a.config.limit .baseline ⟨a.config.builtin, .binary⟩ builtin = fetched
      at hfetched
    obtain ⟨w₁, r⟩ := fetched
    cases hfetched with
    | failed hlog' => exact ⟨log₁, rfl, hlog'⟩
    | waiting hlog' =>
      refine ⟨log₁, rfl, rfl, rfl, ?_⟩
      exact .baseline (fun _ h => nomatch h) hlog'
    | here hf => exact absurd hf (hnew _)
    | @came earlier ticket r hearlier =>
      let d : Domain ω := { executor := x, version := a.info.version }
      have hnoted : d.noted = { executor := x.noted, version := a.noted.info.version } := rfl
      obtain ⟨log₂, hrun, hruns⟩ := runModule_noted w₁ (earlier ++ [.answer ticket (.ok r)])
        .baseline (d := d) rfl r a.config.builtin builtinOrigin
      have hran := hearlier.ran (by decide) (by decide) rfl rfl hruns
      dsimp only
      rw [← hnoted, hrun]
      generalize runModule w₁ .baseline d r a.config.builtin builtinOrigin = run at hran
      obtain ⟨w₂, result⟩ := run
      cases result with
      | error e => exact ⟨log₂, rfl, hran.1⟩
      | ok d' =>
        obtain ⟨hlog', hd⟩ := hran.2 d' rfl
        have hflags : a.noted.flags = a.flags := rfl
        dsimp only [Except.map]
        rw [hflags]
        cases hplayer : a.flags.contains .playerglobal with
        | false => exact ⟨log₂, rfl, hran.1⟩
        | true =>
          -- the entries that show the catalog's fetches begin here
          have hshown : CatalogShown a.config log₂ .unasked .unasked :=
            ⟨log₂, [], by simp, hlog'.length_eq, .unasked, .unasked⟩
          exact pollCatalog_noted h w₂ a (.catalog hd hplayer ⟨rfl, hlog', hshown⟩)

/-- The one step of an attempt: noting changes nothing, and the log stands behind it. -/
theorem poll_noted (h : Host ω) (w : ω) (a : Attempt ω) {log : List Visible}
    (ha : a.phase.Stands a.config a.flags log) :
    ∃ log', a.noted.poll h.noted (w, log) =
        (((a.poll h w).1, log'), (a.poll h w).2.noted Domain.noted) ∧
      (a.poll h w).2.Stands a.config a.flags log' := by
  obtain ⟨info, flags, config, phase⟩ := a
  cases phase with
  | baseline x builtin => exact pollBaseline_noted h w _ ha
  | catalog d code index => exact pollCatalog_noted h w _ ha
  | shell d shell => exact pollShell_noted h w _ ha

end Attempt

end Phase

section Call

namespace Bootstrapper

variable {config : BootstrapConfig} {flags : LibraryFlags} {log : List Visible}

theorem conclude_stands (world : World ω) (info : HostInfo) {progress : Progress ω (Domain ω)}
    (hprogress : progress.Stands config flags log) :
    (conclude world info progress).2.Stands config flags log := by
  match progress with
  | .waiting a => exact hprogress
  | .ended (.error e) => exact hprogress
  | .ended (.ok none) => exact hprogress
  | .ended (.ok (some d)) => exact hprogress

theorem resume_noted (b : Bootstrapper ω) (w : ω) (world : World ω) (a : Attempt ω)
    (ha : a.phase.Stands a.config a.flags log) :
    ∃ log', b.noted.resume (w, log) world.noted a.noted =
        (((b.resume w world a).1, log'), (b.resume w world a).2.1.noted,
          (b.resume w world a).2.2.noted id) ∧
      (b.resume w world a).2.2.Stands a.config a.flags log' := by
  obtain ⟨log', hpoll, hstands⟩ := a.poll_noted b.host w ha
  refine ⟨log', ?_, conclude_stands world a.info hstands⟩
  have hhost : b.noted.host = b.host.noted := rfl
  have hinfo : a.noted.info = a.info := rfl
  simp only [resume, hhost, hinfo, hpoll, conclude_noted]

theorem firstStretch_noted (b : Bootstrapper ω) (w : ω) (world : World ω) (info : HostInfo)
    (flags : LibraryFlags) :
    ∃ log, b.noted.firstStretch (w, []) world.noted info flags =
        (b.firstStretch w world info flags).noted log ∧
      (b.firstStretch w world info flags).progress.Stands b.config flags log := by
  by_cases hflags : (!flags.contains .builtin) = true
  · simp only [firstStretch, start, if_pos hflags]
    exact ⟨[], rfl, lawful_nil _ _⟩
  have hsession : world.noted.session = world.session := rfl
  by_cases hready : world.session.isReady = true
  · simp only [firstStretch, start, if_neg hflags, hsession, if_pos hready]
    exact ⟨[], rfl, lawful_nil _ _⟩
  cases hexecutor : b.executor with
  | none =>
    have hnoted : b.noted.executor = none := by simp [noted, hexecutor]
    simp only [firstStretch, start, if_neg hflags, hsession, if_neg hready, hexecutor, hnoted]
    exact ⟨[], rfl, lawful_nil _ _⟩
  | some x =>
    have hnoted : b.noted.executor = some x.noted := by simp [noted, hexecutor]
    obtain ⟨log, hresume, hstands⟩ := resume_noted { b with executor := none } w world
      ⟨info, flags, b.config, .baseline x .unasked⟩
      (.baseline (fun _ h => nomatch h) (standing_nil b.config flags))
    have hresume : resume (w, []) world.noted { b.noted with executor := none }
      ⟨info, flags, b.noted.config, .baseline x.noted .unasked⟩ = _ := hresume
    simp only [firstStretch, start, if_neg hflags, hsession, if_neg hready, hexecutor, hnoted,
      hresume]
    exact ⟨log, rfl, hstands⟩

theorem nextStretch_noted (b : Bootstrapper ω) (others : Interlude ω) {s : Stretch ω}
    (hs : s.progress.Stands config flags log) :
    ∃ log', b.noted.nextStretch (s.noted log) others.noted =
        (b.nextStretch s others).noted log' ∧
      (b.nextStretch s others).progress.Stands config flags log' := by
  obtain ⟨found, w, world, progress⟩ := s
  cases progress with
  | ended r => exact ⟨log, rfl, hs⟩
  | waiting a =>
    obtain ⟨rfl, rfl, hphase⟩ := hs
    obtain ⟨log', hresume, hstands⟩ :=
      b.resume_noted (others (w, world)).1 (others (w, world)).2 a hphase
    refine ⟨log', ?_, hstands⟩
    simp only [nextStretch, Stretch.noted, Progress.noted, Interlude.noted, World.bare_noted,
      hresume]

/-- The log of a call, in which others have acted in between. -/
def callLog (b : Bootstrapper ω) (w : ω) (world : World ω) (info : HostInfo) (flags : LibraryFlags)
    (interludes : List (Interlude ω)) : List Visible :=
  (b.noted.call (w, []) world.noted info flags (interludes.map Interlude.noted)).outside.2

theorem call_noted (b : Bootstrapper ω) (w : ω) (world : World ω) (info : HostInfo)
    (flags : LibraryFlags) (interludes : List (Interlude ω)) :
    b.noted.call (w, []) world.noted info flags (interludes.map Interlude.noted) =
        (b.call w world info flags interludes).noted
          (b.callLog w world info flags interludes) ∧
      (b.call w world info flags interludes).progress.Stands b.config flags
        (b.callLog w world info flags interludes) := by
  unfold callLog call
  obtain ⟨log, hfirst, hstands⟩ := b.firstStretch_noted w world info flags
  rw [hfirst]
  -- only what stands behind a stretch is carried to the next one
  generalize b.firstStretch w world info flags = s at hstands
  clear hfirst
  induction interludes generalizing s log with
  | nil => exact ⟨rfl, hstands⟩
  | cons others rest ih =>
    obtain ⟨log', hnext, hstands'⟩ := b.nextStretch_noted others hstands
    simp only [List.map_cons, List.foldl_cons, hnext]
    exact ih _ _ hstands'

/-- What can be seen of a call is a beginning of the script, whoever acts in between, and nothing is
done before its time. Noting it has changed nothing else. -/
theorem call_scripted (b : Bootstrapper ω) (w : ω) (world : World ω) (info : HostInfo)
    (flags : LibraryFlags) (interludes : List (Interlude ω)) :
    let log := b.callLog w world info flags interludes
    b.noted.call (w, []) world.noted info flags (interludes.map Interlude.noted) =
      (b.call w world info flags interludes).noted log ∧
    acts log <+: script b.config flags ∧
    ∀ front v rest, log = front ++ v :: rest → v.act? ≠ none → Allowed b.config front v := by
  intro log
  obtain ⟨hnoted, hstands⟩ := b.call_noted w world info flags interludes
  exact ⟨hnoted, hstands.lawful.acts_prefix, hstands.lawful.allowed⟩

/-- A bootstrap that nothing goes wrong in does all of the script. -/
example :
    let b : Bootstrapper Nat := ⟨.ticking 3 none, {}, some .willing⟩
    let flags : LibraryFlags := .builtin ||| .playerglobal
    acts (b.callLog 0 {} ⟨"file:///movie.swf", 10, { viewport := ⟨550, 400⟩ }⟩ flags
      (List.replicate 3 fun (now, world) => (now + 3, world))) = script {} flags := rfl

end Bootstrapper

end Call

end ContentPlayer
