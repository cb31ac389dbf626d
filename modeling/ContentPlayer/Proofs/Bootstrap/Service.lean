import ContentPlayer.Proofs.Bootstrap.Sequential
import ContentPlayer.Proofs.Bootstrap.Watch

namespace ContentPlayer

variable {ω σ π : Type}

/-- A host that gives every request the answer there is for it, once it has been let alone for a
while: `π` is what can go on then. Executors work on the core, which the host leaves as it is. -/
structure Service (ω σ π : Type) where
  host : Host ω
  limit : Option Nat
  answer : LoadRequest → Except FetchError Resource
  core : ω → σ
  pass : π → ω → ω
  /-- It brings every answer nearer. -/
  counts : π → Bool
  /-- How often an answer can be brought nearer before it is there. -/
  most : Nat
  Good : ω → Prop
  /-- What a ticket was given for, its deadline, and how far its answer is away at most. -/
  Pending : ω → LoadRequest → Nat → Option Nat → Nat → Prop
  not_cancelled : ∀ w, Good w → host.cancelled w = false
  good_request : ∀ w q, Good w → Good (host.fetcher.request w q).1
  core_request : ∀ w q, Good w → core (host.fetcher.request w q).1 = core w
  pending_request : ∀ w q, Good w → Pending (host.fetcher.request w q).1 q
    (host.fetcher.request w q).2 (limit.map (host.now (host.fetcher.request w q).1 + ·)) most
  keeps_request : ∀ w q, Good w → ∀ q' ticket deadline left, Pending w q' ticket deadline left →
    Pending (host.fetcher.request w q).1 q' ticket deadline left
  poll : ∀ w q ticket deadline left, Good w → Pending w q ticket deadline left →
    host.fetcher.poll w ticket = (w, some (answer q)) ∨
      host.fetcher.poll w ticket = (w, none) ∧ 0 < left ∧
        (deadline.any fun d => d ≤ host.now w) = false
  good_pass : ∀ w p, Good w → Good (pass p w)
  core_pass : ∀ w p, Good w → core (pass p w) = core w
  pending_pass : ∀ w p q ticket deadline left, Good w → Pending w q ticket deadline left →
    Pending (pass p w) q ticket deadline (if counts p then left - 1 else left)

theorem BootstrapConfig.limit_pos {config : BootstrapConfig} {limit : Nat}
    (h : config.limit = some limit) : 0 < limit := by
  rw [BootstrapConfig.limit] at h
  split at h
  next => cases h
  next hzero =>
    obtain rfl : config.fetchTimeout.toNat = limit := Option.some.inj h
    have hne : config.fetchTimeout.toNat ≠ 0 := by
      simpa [← UInt64.toNat_inj] using hzero
    exact Nat.pos_of_ne_zero hne

/-- Something done to a state at once, which may go wrong. -/
def Work (σ α : Type) : Type := σ → σ × Except BootstrapError α

namespace Work

variable {α β ε : Type}

instance : Monad (Work σ) where
  pure a s := (s, .ok a)
  bind c next s :=
    match c s with
    | (s, .error e) => (s, .error e)
    | (s, .ok a) => next a s

theorem bind_apply (c : Work σ α) (next : α → Work σ β) (s : σ) :
    (c >>= next) s =
      match c s with
      | (s, .error e) => (s, .error e)
      | (s, .ok a) => next a s := rfl

/-- Something in which the world has no part. -/
def onCore (f : Work σ α) : Work (σ × World ω) α := fun s => (((f s.1).1, s.2), (f s.1).2)

theorem onCore_bind (f : Work σ α) (g : α → Work σ β) :
    (onCore (f >>= g) : Work (σ × World ω) β) = onCore f >>= fun a => onCore (g a) := by
  funext ⟨s, world⟩
  simp only [onCore, bind_apply]
  obtain ⟨s', result⟩ := f s
  cases result <;> rfl

def act (f : σ → σ × Except BootstrapError α) : Work σ α := f

def check (stage : BootstrapStage) (failure : ε → StageFailure) (r : Except ε α) : Work σ α :=
  act fun s => (s, inStage stage failure r)

theorem check_bind_apply (stage : BootstrapStage) (failure : ε → StageFailure) (r : Except ε α)
    (next : α → Work σ β) (s : σ) :
    (check stage failure r >>= next) s =
      match inStage stage failure r with
      | .error e => (s, .error e)
      | .ok a => next a s := by
  rw [bind_apply, check, act]
  cases inStage stage failure r <;> rfl

def run (y : Executor σ) (stage : BootstrapStage) (id : Nat) (code : Bytes) (origin : String) :
    Work σ Module := do
  let m ← act fun s =>
    ((y.load s id code origin).1, inStage stage .module (y.load s id code origin).2)
  act fun s => ((y.execute s m).1, inStage stage .module (y.execute s m).2)
  return m

variable (answer : LoadRequest → Except FetchError Resource) (config : BootstrapConfig)
  (y : Executor σ)

def fetch (stage : BootstrapStage) (q : LoadRequest) : Work σ Resource :=
  check stage .fetch (answer q)

def fetchBoth (stage : BootstrapStage) (first second : LoadRequest) :
    Work σ (Resource × Resource) := do
  let r ← fetch answer stage first
  let r' ← fetch answer stage second
  return (r, r')

theorem fetchBoth_apply (stage : BootstrapStage) (first second : LoadRequest) (s : σ) :
    fetchBoth answer stage first second s =
      (s, do
        let r ← inStage stage .fetch (answer first)
        let r' ← inStage stage .fetch (answer second)
        return (r, r')) := by
  rw [fetchBoth, fetch, fetch, check_bind_apply]
  cases inStage stage .fetch (answer first) with
  | error e => rfl
  | ok r =>
    dsimp only
    rw [check_bind_apply]
    cases inStage stage .fetch (answer second) <;> rfl

def baseline : Work σ Module := do
  let r ← fetch answer .baseline ⟨config.builtin, .binary⟩
  let code ← check .baseline .fetch (r.bytes config.builtin)
  run y .baseline 0 code builtinOrigin

def catalog : Work σ Catalog := do
  let (code, index) ← fetchBoth answer .catalog ⟨config.catalog, .binary⟩
    ⟨config.catalogIndex, .structured⟩
  let bytes ← check .catalog .fetch (code.bytes config.catalog)
  let document ← check .catalog .fetch (index.json config.catalogIndex)
  check .catalog .catalog (Catalog.ofJson bytes document)

def shell : Work σ Module := do
  let r ← fetch answer .shell ⟨config.shell, .binary⟩
  let code ← check .shell .fetch (r.bytes config.shell)
  run y .shell 1 code shellOrigin

def publish (info : HostInfo) (d : Domain ω) : Work (σ × World ω) Factory := fun s =>
  ((s.1, (s.2.publish d info).1), .ok (s.2.publish d info).2)

/-- A bootstrap whose resources are all there. `x` is the executor of the domain that it makes. -/
def bootstrap (x : Executor ω) (info : HostInfo) (flags : LibraryFlags) :
    Work (σ × World ω) (Option Factory) := do
  let builtin ← onCore (baseline answer config y)
  if !flags.contains .playerglobal then return none
  let catalog ← onCore (catalog answer config)
  let shell ← onCore (shell answer config y)
  let factory ← publish info
    { executor := x
      version := info.version
      modules := [builtin, shell]
      executed := 2
      catalog := some catalog }
  return some factory

end Work

namespace Service

variable (S : Service ω σ π)

/-- Nothing else goes on while a bootstrap waits. -/
def interlude (p : π) : Interlude ω := Prod.map (S.pass p) id

def moment (w : ω) (world : World ω) (waits : List π) : Moment ω :=
  ⟨w, world, waits.map S.interlude⟩

/-- A course that comes to what some work does, if only the host is let alone often enough. -/
def Settles {α : Type} (n : Nat) (c : Course ω α) (f : Work (σ × World ω) α) : Prop :=
  ∀ w world waits, S.Good w →
    c (S.moment w world waits) = none ∧ waits.countP S.counts < n ∨
      ∃ w' waits', c (S.moment w world waits) = some ((f (S.core w, world)).2,
          S.moment w' (f (S.core w, world)).1.2 waits') ∧
        S.Good w' ∧ S.core w' = (f (S.core w, world)).1.1 ∧
        waits.countP S.counts ≤ waits'.countP S.counts + n

section Compose

variable {S} {α β ε : Type} {n m : Nat}

theorem Settles.pure (a : α) : S.Settles 0 (Pure.pure a) (Pure.pure a) := by
  intro w world waits hw
  exact .inr ⟨w, waits, rfl, hw, rfl, Nat.le_refl _⟩

theorem Settles.mono {c : Course ω α} {f : Work (σ × World ω) α} (hc : S.Settles n c f)
    (hle : n ≤ m) : S.Settles m c f := by
  intro w world waits hw
  rcases hc w world waits hw with ⟨hnone, hcount⟩ | ⟨w', waits', hsome, hw', hcore, hcount⟩
  · exact .inl ⟨hnone, by omega⟩
  · exact .inr ⟨w', waits', hsome, hw', hcore, by omega⟩

theorem Settles.bind {c : Course ω α} {f : Work (σ × World ω) α} {next : α → Course ω β}
    {g : α → Work (σ × World ω) β} (hc : S.Settles n c f)
    (hnext : ∀ a, S.Settles m (next a) (g a)) : S.Settles (n + m) (c >>= next) (f >>= g) := by
  intro w world waits hw
  rw [Course.bind_apply, Work.bind_apply]
  rcases hc w world waits hw with ⟨hnone, hcount⟩ | ⟨w', waits', hsome, hw', hcore, hcount⟩
  · rw [hnone]
    exact .inl ⟨rfl, by omega⟩
  · generalize f (S.core w, world) = r at hsome hcore ⊢
    obtain ⟨⟨s, world'⟩, result⟩ := r
    rw [hsome]
    cases result with
    | error e => exact .inr ⟨w', waits', rfl, hw', hcore, by omega⟩
    | ok a =>
      obtain rfl : S.core w' = s := hcore
      rcases hnext a w' world' waits' hw' with
        ⟨hnone, hcount'⟩ | ⟨w'', waits'', hsome, hw'', hcore, hcount'⟩
      · exact .inl ⟨hnone, by omega⟩
      · exact .inr ⟨w'', waits'', hsome, hw'', hcore, by omega⟩

theorem Settles.andThen {c : Course ω α} {f : Work (σ × World ω) α} {next : α → Course ω β}
    {g : α → Work (σ × World ω) β} (hc : S.Settles n c f)
    (hnext : ∀ a, S.Settles 0 (next a) (g a)) : S.Settles n (c >>= next) (f >>= g) :=
  hc.bind hnext

theorem Settles.act {c : ω → ω × Except BootstrapError α} {f : σ → σ × Except BootstrapError α}
    (hgood : ∀ w, S.Good w → S.Good (c w).1)
    (hf : ∀ w, S.Good w → f (S.core w) = (S.core (c w).1, (c w).2)) :
    S.Settles 0 (Course.act c) (Work.onCore (.act f)) := by
  intro w world waits hw
  refine .inr ⟨(c w).1, waits, ?_, hgood w hw, ?_, Nat.le_refl _⟩
  · simp only [Course.act, Work.onCore, Work.act, hf w hw]
    rfl
  · simp only [Work.onCore, Work.act, hf w hw]

theorem Settles.check (stage : BootstrapStage) (failure : ε → StageFailure) (r : Except ε α) :
    S.Settles 0 (Course.check stage failure r) (Work.onCore (Work.check stage failure r)) :=
  Settles.act (fun _ hw => hw) fun _ _ => by rw [Course.failing_eq]

end Compose

section Fetch

/-- The host has been asked for something; what is pending still is. -/
structure Same (w w' : ω) : Prop where
  good : S.Good w'
  core_eq : S.core w' = S.core w
  pending : ∀ q ticket deadline left, S.Pending w q ticket deadline left →
    S.Pending w' q ticket deadline left

/-- No answer is there before its time. -/
def Prompt : Prop :=
  ∀ w q ticket deadline left, S.Good w → S.Pending w q ticket deadline left → 0 < left →
    (S.host.fetcher.poll w ticket).2 = none

/-- It does not matter which of two answers is there first: one of them is no error, or both are
there at once. -/
def OneFault (first second : LoadRequest) : Prop :=
  (∀ e e', S.answer first = .error e → S.answer second ≠ .error e') ∨ S.Prompt

/-- A fetch that has been looked at. One that is not answered yet will be. -/
def Looked (w : ω) (q : LoadRequest) (left : Nat) : Fetching → Prop
  | .unasked => False
  | .pending ticket deadline => S.Pending w q ticket deadline left ∧ 0 < left
  | .arrived r => S.answer q = .ok r

/-- A fetch that may be looked at. -/
def Stands (w : ω) (q : LoadRequest) (left : Nat) : Fetching → Prop
  | .unasked => left = S.most
  | .pending ticket deadline => S.Pending w q ticket deadline left
  | .arrived r => S.answer q = .ok r

variable {S} {w w' w'' : ω} {q first second : LoadRequest} {left : Nat} {f g : Fetching}

theorem Same.refl (hw : S.Good w) : S.Same w w := ⟨hw, rfl, fun _ _ _ _ h => h⟩

theorem Same.trans (h : S.Same w w') (h' : S.Same w' w'') : S.Same w w'' where
  good := h'.good
  core_eq := h'.core_eq.trans h.core_eq
  pending := fun q ticket deadline left hp =>
    h'.pending q ticket deadline left (h.pending q ticket deadline left hp)

theorem Same.looked (h : S.Same w w') (hf : S.Looked w q left f) : S.Looked w' q left f := by
  cases f with
  | unasked => exact hf
  | pending ticket deadline => exact ⟨h.pending _ _ _ _ hf.1, hf.2⟩
  | arrived r => exact hf

theorem Same.stands (h : S.Same w w') (hf : S.Stands w q left f) : S.Stands w' q left f := by
  cases f with
  | unasked => exact hf
  | pending ticket deadline => exact h.pending _ _ _ _ hf
  | arrived r => exact hf

theorem Looked.pass (hw : S.Good w) (hf : S.Looked w q left f) (p : π) :
    S.Stands (S.pass p w) q (if S.counts p then left - 1 else left) f := by
  cases f with
  | unasked => exact hf.elim
  | pending ticket deadline => exact S.pending_pass w p q ticket deadline left hw hf.1
  | arrived r => exact hf

/-- A look finds the answer that there is, or goes on waiting for it. -/
theorem Stands.look (hw : S.Good w) (hf : S.Stands w q left f) (stage : BootstrapStage) :
    ∃ w' r, S.host.look S.limit stage q f w = (w', r) ∧ S.Same w w' ∧
      match r with
      | .error e => inStage stage .fetch (S.answer q) = .error e ∧ (S.Prompt → left = 0)
      | .ok f' => S.Looked w' q left f' := by
  have hawait {w' : ω} {ticket : Nat} {deadline : Option Nat} (hw' : S.Good w')
      (hpending : S.Pending w' q ticket deadline left) :
      (S.host.fetcher.poll w' ticket).1 = w' ∧
        match Fetching.judge stage q.name ticket deadline (S.host.now w')
          (S.host.fetcher.poll w' ticket).2 with
        | .error e => inStage stage .fetch (S.answer q) = .error e ∧ (S.Prompt → left = 0)
        | .ok f' => S.Looked w' q left f' := by
    rcases S.poll w' q ticket deadline left hw' hpending with hpoll | ⟨hpoll, hleft, hlate⟩
    · have hdue (hprompt : S.Prompt) : left = 0 := by
        refine Nat.eq_zero_of_not_pos fun hleft => ?_
        have hnone := hprompt w' q ticket deadline left hw' hpending hleft
        rw [hpoll] at hnone
        cases hnone
      rw [hpoll]
      refine ⟨rfl, ?_⟩
      cases hanswer : S.answer q with
      | error e => exact ⟨rfl, hdue⟩
      | ok r => simp [Fetching.judge, Looked, hanswer]
    · rw [hpoll]
      refine ⟨rfl, ?_⟩
      simp only [Fetching.judge, hlate]
      exact ⟨hpending, hleft⟩
  have hfree := S.not_cancelled w hw
  cases f with
  | arrived r => exact ⟨w, .ok (.arrived r), rfl, .refl hw, hf⟩
  | pending ticket deadline =>
    obtain ⟨hsame, hjudge⟩ := hawait hw hf
    refine ⟨w, _, ?_, .refl hw, hjudge⟩
    simp [Host.look, Host.ask, hfree, hsame]
  | unasked =>
    have hw' := S.good_request w q hw
    have hpending := S.pending_request w q hw
    obtain rfl : left = S.most := hf
    obtain ⟨hsame, hjudge⟩ := hawait hw' hpending
    refine ⟨(S.host.fetcher.request w q).1, _, ?_,
      ⟨hw', S.core_request w q hw, S.keeps_request w q hw⟩, hjudge⟩
    simp [Host.look, Host.ask, hfree, hsame]

/-- What is looked at again and again comes to a result, after as many looks as its answers are
away. -/
theorem settles_wait {τ α : Type} {look : τ → ω → ω × Except BootstrapError τ}
    {result : τ → Option α} (Looked Stands : ω → Nat → τ → Prop) {r : Except BootstrapError α}
    (hlook : ∀ w left t, S.Good w → Stands w left t → ∃ w' r', look t w = (w', r') ∧ S.Same w w' ∧
      match r' with
      | .error e => r = .error e
      | .ok t' => match result t' with
        | some a => r = .ok a
        | none => Looked w' left t' ∧ 0 < left)
    (hpass : ∀ w left t p, S.Good w → Looked w left t →
      Stands (S.pass p w) (if S.counts p then left - 1 else left) t)
    {w : ω} {left : Nat} {t : τ} (hw : S.Good w) (ht : Stands w left t) (world : World ω)
    (waits : List π) :
    Course.wait look result t (S.moment w world waits) = none ∧ waits.countP S.counts < left ∨
      ∃ w' waits', Course.wait look result t (S.moment w world waits) =
          some (r, S.moment w' world waits') ∧ S.Good w' ∧ S.core w' = S.core w ∧
        waits.countP S.counts ≤ waits'.countP S.counts + left := by
  induction waits generalizing w left t with
  | nil =>
    obtain ⟨w', r', hlooked, hsame, hr⟩ := hlook w left t hw ht
    rw [moment, Course.wait_apply, hlooked]
    cases r' with
    | error e => exact .inr ⟨w', [], by rw [hr]; rfl, hsame.good, hsame.core_eq, by simp⟩
    | ok t' =>
      dsimp only at hr ⊢
      cases hresult : result t' with
      | some a =>
        rw [hresult] at hr
        exact .inr ⟨w', [], by rw [hr]; rfl, hsame.good, hsame.core_eq, by simp⟩
      | none =>
        rw [hresult] at hr
        exact .inl ⟨rfl, hr.2⟩
  | cons p rest ih =>
    obtain ⟨w', r', hlooked, hsame, hr⟩ := hlook w left t hw ht
    rw [moment, Course.wait_apply, hlooked]
    cases r' with
    | error e =>
      exact .inr ⟨w', p :: rest, by rw [hr]; rfl, hsame.good, hsame.core_eq, by omega⟩
    | ok t' =>
      dsimp only at hr ⊢
      cases hresult : result t' with
      | some a =>
        rw [hresult] at hr
        exact .inr ⟨w', p :: rest, by rw [hr]; rfl, hsame.good, hsame.core_eq, by omega⟩
      | none =>
        rw [hresult] at hr
        obtain ⟨ht', hleft⟩ := hr
        have hw' := S.good_pass w' p hsame.good
        have hcount : (p :: rest).countP S.counts + (if S.counts p then left - 1 else left) =
            rest.countP S.counts + left := by
          rw [List.countP_cons]
          split <;> omega
        rcases ih hw' (hpass w' left t' p hsame.good ht') with
          ⟨hnone, hlt⟩ | ⟨w'', waits', hsome, hw'', hcore, hle⟩
        · exact .inl ⟨hnone, by omega⟩
        · refine .inr ⟨w'', waits', hsome, hw'', ?_, ?_⟩
          · rw [hcore, S.core_pass w' p hsame.good, hsame.core_eq]
          · omega

theorem settles_fetch {config : BootstrapConfig} (hlimit : config.limit = S.limit)
    (stage : BootstrapStage) (q : LoadRequest) :
    S.Settles S.most (Course.fetch S.host config.limit stage q .unasked)
      (Work.onCore (Work.fetch S.answer stage q)) := by
  intro w world waits hw
  have hunasked : S.Stands w q S.most .unasked := rfl
  refine settles_wait (fun w left f => S.Looked w q left f) (fun w left f => S.Stands w q left f)
    (r := inStage stage .fetch (S.answer q)) ?_ ?_ hw hunasked world waits
  · intro w left f hw hf
    rw [hlimit]
    obtain ⟨w', r, hlook, hsame, hr⟩ := Stands.look hw hf stage
    refine ⟨w', r, hlook, hsame, ?_⟩
    cases r with
    | error e => exact hr.1
    | ok f' =>
      cases f' with
      | unasked => exact hr.elim
      | pending ticket deadline => exact ⟨hr, hr.2⟩
      | arrived a =>
        have hanswer : S.answer q = .ok a := hr
        simp only [Fetching.resource?, hanswer, inStage_ok]
  · intro w left f p hw hf
    exact hf.pass hw p

/-- Where it does not matter which answer is there first, two requests come to what they would come
to one after the other. -/
theorem settles_fetchBoth {config : BootstrapConfig} (hlimit : config.limit = S.limit)
    (stage : BootstrapStage) {first second : LoadRequest}
    (hone : S.OneFault first second) :
    S.Settles S.most (Course.fetchBoth S.host config.limit stage first second .unasked .unasked)
      (Work.onCore (Work.fetchBoth S.answer stage first second)) := by
  intro w world waits hw
  have hunasked : S.Stands w first S.most .unasked ∧ S.Stands w second S.most .unasked :=
    ⟨rfl, rfl⟩
  rw [Work.onCore, Work.fetchBoth_apply]
  refine settles_wait
    (fun w left s => S.Looked w first left s.1 ∧ S.Looked w second left s.2)
    (fun w left s => S.Stands w first left s.1 ∧ S.Stands w second left s.2)
    ?_ ?_ hw hunasked world waits
  · rintro w left ⟨f, g⟩ hw ⟨hf, hg⟩
    rw [hlimit]
    obtain ⟨w₁, r₁, hlook₁, hsame₁, hr₁⟩ := Stands.look hw hf stage
    cases r₁ with
    | error e =>
      refine ⟨w₁, .error e, by simp [Host.lookBoth, hlook₁], hsame₁, ?_⟩
      simp only [hr₁.1]
      rfl
    | ok f' =>
      obtain ⟨w₂, r₂, hlook₂, hsame₂, hr₂⟩ := Stands.look hsame₁.good (hsame₁.stands hg) stage
      have hf' : S.Looked w₂ first left f' := hsame₂.looked hr₁
      cases r₂ with
      | error e =>
        refine ⟨w₂, .error e, by simp [Host.lookBoth, hlook₁, hlook₂], hsame₁.trans hsame₂, ?_⟩
        obtain ⟨herror, hdue⟩ := hr₂
        -- the first answer is no error, though it may not have come
        cases hanswer : S.answer first with
        | ok r =>
          simp only [inStage_ok, herror]
          rfl
        | error e₁ =>
          exfalso
          rcases hone with hone | hprompt
          · cases hsecond : S.answer second with
            | error e₂ => exact hone e₁ e₂ hanswer hsecond
            | ok r => simp [hsecond, inStage_ok] at herror
          · cases f' with
            | unasked => exact hr₁
            | pending ticket deadline => exact absurd (hdue hprompt) (Nat.ne_of_gt hr₁.2)
            | arrived r =>
              have hfirst : S.answer first = .ok r := hr₁
              rw [hanswer] at hfirst
              cases hfirst
      | ok g' =>
        refine ⟨w₂, .ok (f', g'), by simp [Host.lookBoth, hlook₁, hlook₂],
          hsame₁.trans hsame₂, ?_⟩
        cases f' with
        | unasked => exact hf'.elim
        | pending ticket deadline => exact ⟨⟨hf', hr₂⟩, hf'.2⟩
        | arrived r =>
          cases g' with
          | unasked => exact hr₂.elim
          | pending ticket deadline => exact ⟨⟨hf', hr₂⟩, hr₂.2⟩
          | arrived r' =>
            have hfirst : S.answer first = .ok r := hf'
            have hsecond : S.answer second = .ok r' := hr₂
            simp only [hfirst, hsecond, inStage_ok]
            rfl
  · rintro w left ⟨f, g⟩ p hw ⟨hf, hg⟩
    exact ⟨hf.pass hw p, hg.pass hw p⟩

end Fetch

section Bootstrap

variable {S} {x : Executor ω} {y : Executor σ}

/-- An executor that does to the core what another one does, and lets the host be. -/
structure Employs (S : Service ω σ π) (x : Executor ω) (y : Executor σ) : Prop where
  over_core : x.Over S.core y
  good_load : ∀ w id code origin, S.Good w → S.Good (x.load w id code origin).1
  good_execute : ∀ w m, S.Good w → S.Good (x.execute w m).1

theorem Settles.run (hx : S.Employs x y) (stage : BootstrapStage) (id : Nat) (code : Bytes)
    (origin : String) :
    S.Settles 0 (Course.run x stage id code origin)
      (Work.onCore (Work.run y stage id code origin)) := by
  have hload : S.Settles 0 (Course.act fun w => ((x.load w id code origin).1,
      inStage stage .module (x.load w id code origin).2)) (Work.onCore (.act fun s =>
        ((y.load s id code origin).1, inStage stage .module (y.load s id code origin).2))) := by
    refine .act (fun w hw => hx.good_load w id code origin hw) fun w _ => ?_
    rw [hx.over_core.load]
  have hexecute (m : Module) : S.Settles 0
      (Course.act fun w => ((x.execute w m).1, inStage stage .module (x.execute w m).2))
      (Work.onCore (.act fun s =>
        ((y.execute s m).1, inStage stage .module (y.execute s m).2))) := by
    refine .act (fun w hw => hx.good_execute w m hw) fun w _ => ?_
    rw [hx.over_core.execute]
  simp only [Course.run, Course.failing_eq, Work.run, Work.onCore_bind]
  exact hload.andThen fun m => (hexecute m).andThen fun _ => .pure m

variable {config : BootstrapConfig} (hlimit : config.limit = S.limit)

include hlimit

theorem settles_baseline (hx : S.Employs x y) :
    S.Settles S.most (Course.baseline S.host config x .unasked)
      (Work.onCore (Work.baseline S.answer config y)) := by
  simp only [Course.baseline, Course.allowance_eq, Course.bytesOf_eq, Work.baseline,
    Work.onCore_bind]
  refine (settles_fetch hlimit .baseline _).andThen fun r => ?_
  refine (Settles.check _ _ _).andThen fun code => ?_
  exact .run hx _ _ _ _

theorem settles_catalog
    (hone : S.OneFault ⟨config.catalog, .binary⟩ ⟨config.catalogIndex, .structured⟩) :
    S.Settles S.most (Course.catalog S.host config .unasked .unasked)
      (Work.onCore (Work.catalog S.answer config)) := by
  simp only [Course.catalog, Course.allowance_eq, Course.bytesOf_eq, Course.documentOf_eq,
    Work.catalog, Work.onCore_bind]
  refine (settles_fetchBoth hlimit .catalog hone).andThen fun both => ?_
  obtain ⟨code, index⟩ := both
  refine (Settles.check _ _ _).andThen fun bytes => ?_
  exact (Settles.check _ _ _).andThen fun document => .check _ _ _

theorem settles_shell (hx : S.Employs x y) :
    S.Settles S.most (Course.shell S.host config x .unasked)
      (Work.onCore (Work.shell S.answer config y)) := by
  simp only [Course.shell, Course.allowance_eq, Course.bytesOf_eq, Work.shell, Work.onCore_bind]
  refine (settles_fetch hlimit .shell _).andThen fun r => ?_
  refine (Settles.check _ _ _).andThen fun code => ?_
  exact .run hx _ _ _ _

omit hlimit

theorem settles_finalize (info : HostInfo) (d : Domain ω) :
    S.Settles 0 (Course.finalize S.host info d) (Work.publish info d) := by
  intro w world waits hw
  have hfree : S.host.cancelled (S.moment w world waits).outside = false := S.not_cancelled w hw
  refine .inr ⟨w, waits, ?_, hw, rfl, Nat.le_refl _⟩
  simp only [Course.finalize, Course.bind_apply, Course.act, hfree]
  rfl

/-- A bootstrap comes to what its answers make of it. -/
theorem settles_bootstrap (hlimit : config.limit = S.limit) (hx : S.Employs x y)
    (hone : S.OneFault ⟨config.catalog, .binary⟩ ⟨config.catalogIndex, .structured⟩)
    (info : HostInfo) (flags : LibraryFlags) :
    S.Settles (3 * S.most) (Course.bootstrap S.host config x info flags)
      (Work.bootstrap S.answer config y x info flags) := by
  have hmost : 3 * S.most = S.most + (S.most + S.most) := by omega
  rw [hmost, Course.bootstrap, Course.wantsPlatform_eq, Work.bootstrap]
  refine (settles_baseline hlimit hx).bind fun builtin => ?_
  split
  · exact (Settles.pure none).mono (Nat.zero_le _)
  · refine (settles_catalog hlimit hone).bind fun catalog => ?_
    refine (settles_shell hlimit hx).andThen fun shell => ?_
    exact (settles_finalize info _).andThen fun factory => .pure (some factory)

end Bootstrap

end Service

namespace Bootstrapper

/-- A call that is admitted does what its attempt is for, with what others do in between. -/
theorem outcome_of_attempt {b : Bootstrapper ω} {a : Attempt ω} {info : HostInfo}
    {flags : LibraryFlags} {world : World ω} (ha : b.attempt? world info flags = some a) (w : ω)
    (interludes : List (Interlude ω)) :
    (b.call w world info flags interludes).outcome =
      (a.course b.host).outcome ⟨w, world, interludes⟩ := by
  have hserves : a.Serves info := by
    obtain ⟨-, -, x, -, rfl⟩ := attempt?_eq_some.mp ha
    exact Attempt.serves_unasked info flags b.config x
  have hfirst : b.firstStretch w world info flags =
      ⟨world, (b.resume w world a).1, (b.resume w world a).2.1, (b.resume w world a).2.2⟩ := by
    simp only [firstStretch, start_of_attempt w ha]
  have hwaiting (a' : Attempt ω) (ha' : (b.resume w world a).2.2 = .waiting a') :
      a'.Serves info := b.resume_serves hserves ha'
  rw [call, hfirst, foldl_nextStretch_outcome b interludes hwaiting, Course.outcome,
    Attempt.course_eq_onward b hserves]

end Bootstrapper

/-- A call that is admitted ends when its answers have come, with what they make of it. -/
theorem Service.outcome_call (S : Service ω σ π) {x : Executor ω} {y : Executor σ}
    {config : BootstrapConfig} {w : ω} (world : World ω) (info : HostInfo) {flags : LibraryFlags}
    (hlimit : config.limit = S.limit) (hx : S.Employs x y)
    (hone : S.OneFault ⟨config.catalog, .binary⟩ ⟨config.catalogIndex, .structured⟩)
    (hw : S.Good w) (hflags : flags.contains .builtin = true)
    (hready : world.session.isReady = false) (waits : List π) :
    let call := Bootstrapper.call ⟨S.host, config, some x⟩ w world info flags
      (waits.map S.interlude)
    let done := Work.bootstrap S.answer config y x info flags (S.core w, world)
    call.outcome = none ∧ waits.countP S.counts < 3 * S.most ∨
      ∃ w', call.outcome = some (done.2, w', done.1.2) ∧ S.Good w' ∧ S.core w' = done.1.1 := by
  have hattempt : Bootstrapper.attempt? ⟨S.host, config, some x⟩ world info flags =
      some ⟨info, flags, config, .baseline x .unasked⟩ :=
    Bootstrapper.attempt?_eq_some.mpr ⟨hflags, hready, x, rfl, rfl⟩
  dsimp only
  rw [Bootstrapper.outcome_of_attempt hattempt, Course.outcome, Attempt.course_unasked]
  rcases settles_bootstrap hlimit hx hone info flags w world waits hw with
    ⟨hnone, hcount⟩ | ⟨w', waits', hsome, hw', hcore, hcount⟩
  · exact .inl ⟨by rw [← moment, hnone]; rfl, hcount⟩
  · exact .inr ⟨w', by rw [← moment, hsome]; rfl, hw', hcore⟩

end ContentPlayer
