import ContentPlayer.Proofs.Bootstrap.Notes

namespace ContentPlayer

variable {ω : Type}

/-- What a bootstrap does if nothing goes wrong. -/
def script (config : BootstrapConfig) (flags : LibraryFlags) : List Act :=
  [.request ⟨config.builtin, .binary⟩, .load builtinOrigin, .execute] ++
    if flags.contains .playerglobal then
      [.request ⟨config.catalog, .binary⟩, .request ⟨config.catalogIndex, .structured⟩,
        .request ⟨config.shell, .binary⟩, .load shellOrigin, .execute]
    else []

/-- Both resources of the catalog were asked for and have come since the builtin module was
executed: they are of the right kinds, and make a catalog. -/
def CatalogCame (config : BootstrapConfig) (log : List Visible) : Prop :=
  ∃ base entries code index bytes v c, log = base ++ entries ∧ (acts base).length = 3 ∧
    .request ⟨config.catalog, .binary⟩ code ∈ entries ∧
    .answer code (.ok (.binary bytes)) ∈ entries ∧
    .request ⟨config.catalogIndex, .structured⟩ index ∈ entries ∧
    .answer index (.ok (.structured v)) ∈ entries ∧ Catalog.ofJson bytes v = .ok c

/-- What must have come before something that a bootstrap does. -/
structure Allowed (config : BootstrapConfig) (front : List Visible) (v : Visible) : Prop where
  clean : ∀ u ∈ front, ¬ u.Fails
  /-- Nothing is pending, but for the request for the catalog when its index is asked for. -/
  pending : pending front = 0 ∨ (acts front).length = 4 ∧ ∃ earlier ticket,
    front = earlier ++ [.request ⟨config.catalog, .binary⟩ ticket] ∧ pending earlier = 0
  /-- What is loaded has just come, as the answer to the one request that was pending. -/
  load : ∀ id code origin r, v = .call (.load id code origin r) → ∃ earlier ticket,
    front = earlier ++ [.answer ticket (.ok (.binary code))] ∧
      ContentPlayer.pending earlier = {ticket}
  /-- What is executed has just been loaded. -/
  execute : ∀ m r, v = .call (.execute m r) → ∃ earlier id code origin,
    front = earlier ++ [.call (.load id code origin (.ok m))]
  /-- Five things are done when the shell is asked for. -/
  catalog : (acts front).length = 5 → CatalogCame config front

/-- A log that keeps to the script, and in which nothing is done before its time. -/
structure Lawful (config : BootstrapConfig) (flags : LibraryFlags) (log : List Visible) : Prop where
  acts_prefix : acts log <+: script config flags
  allowed : ∀ front v rest, log = front ++ v :: rest → v.act? ≠ none → Allowed config front v

/-- A log in which so many things have been done, of which none has failed, while some requests are
pending. -/
structure Standing (config : BootstrapConfig) (flags : LibraryFlags) (n : Nat)
    (tickets : Multiset Nat) (log : List Visible) : Prop extends Lawful config flags log where
  length_eq : (acts log).length = n
  pending_eq : pending log = tickets
  clean : ∀ u ∈ log, ¬ u.Fails

section Log

variable {config : BootstrapConfig} {flags : LibraryFlags} {log : List Visible} {v : Visible}

theorem lawful_nil (config : BootstrapConfig) (flags : LibraryFlags) : Lawful config flags [] where
  acts_prefix := List.nil_prefix
  allowed := by simp

theorem standing_nil (config : BootstrapConfig) (flags : LibraryFlags) :
    Standing config flags 0 0 [] where
  toLawful := lawful_nil config flags
  length_eq := rfl
  pending_eq := rfl
  clean := by simp

theorem prefix_concat {α : Type} {l s : List α} {a : α} (hl : l <+: s)
    (ha : s[l.length]? = some a) : l ++ [a] <+: s := by
  obtain ⟨t, rfl⟩ := hl
  rw [List.getElem?_append_right (Nat.le_refl _), Nat.sub_self] at ha
  obtain ⟨rest, rfl⟩ : ∃ rest, t = a :: rest := by
    cases t with
    | nil => cases ha
    | cons b rest => exact ⟨rest, by simpa using ha⟩
  exact ⟨rest, by simp⟩

/-- The last entry of a log counts by itself, the others as before. -/
theorem allowed_concat (hlog : Lawful config flags log)
    (hv : v.act? ≠ none → Allowed config log v) :
    ∀ front u rest, log ++ [v] = front ++ u :: rest → u.act? ≠ none → Allowed config front u := by
  intro front u rest hsplit hu
  rcases List.eq_nil_or_concat rest with rfl | ⟨rest', z, rfl⟩
  · obtain ⟨rfl, huv⟩ := List.append_inj' hsplit rfl
    obtain rfl : v = u := List.singleton_inj.mp huv
    exact hv hu
  · have hsplit' : log ++ [v] = (front ++ u :: rest') ++ [z] := by simpa using hsplit
    obtain ⟨rfl, _⟩ := List.append_inj' hsplit' rfl
    exact hlog.allowed front u rest' rfl hu

theorem Lawful.answer (hlog : Lawful config flags log) (ticket : Nat)
    (r : Except FetchError Resource) : Lawful config flags (log ++ [.answer ticket r]) where
  acts_prefix := by
    rw [acts_concat]
    simpa [Visible.act?] using hlog.acts_prefix
  allowed := allowed_concat hlog fun h => absurd rfl h

theorem Lawful.act (hlog : Lawful config flags log) {a : Act} (hact : v.act? = some a)
    (hnext : (script config flags)[(acts log).length]? = some a) (hv : Allowed config log v) :
    Lawful config flags (log ++ [v]) where
  acts_prefix := by
    rw [acts_concat, hact]
    exact prefix_concat hlog.acts_prefix hnext
  allowed := allowed_concat hlog fun _ => hv

variable {n : Nat} {tickets : Multiset Nat}

theorem Standing.act (hlog : Standing config flags n tickets log) {a : Act}
    (hact : v.act? = some a) (hnext : (script config flags)[n]? = some a)
    (hv : Allowed config log v) (hfails : ¬ v.Fails) :
    Standing config flags (n + 1) (v.settle tickets) (log ++ [v]) where
  toLawful := hlog.toLawful.act hact (by rwa [hlog.length_eq]) hv
  length_eq := by
    rw [acts_concat, hact]
    simp [hlog.length_eq]
  pending_eq := by rw [pending_concat, hlog.pending_eq]
  clean := by
    intro u hu
    rcases List.mem_append.mp hu with hold | hnew
    · exact hlog.clean u hold
    · rwa [List.mem_singleton.mp hnew]

theorem Standing.answer {ticket : Nat} (hlog : Standing config flags n (ticket ::ₘ tickets) log)
    (r : Resource) : Standing config flags n tickets (log ++ [.answer ticket (.ok r)]) where
  toLawful := hlog.toLawful.answer ticket (.ok r)
  length_eq := by
    rw [acts_concat]
    simpa [Visible.act?] using hlog.length_eq
  pending_eq := by
    rw [pending_concat, hlog.pending_eq, Visible.settle, Multiset.erase_cons_head]
  clean := by
    intro u hu
    rcases List.mem_append.mp hu with hold | hnew
    · exact hlog.clean u hold
    · rw [List.mem_singleton.mp hnew]
      simp [Visible.Fails]

/-- Before the shell is asked for, nothing needs more than that all is well so far. -/
theorem Standing.allowed_request (hlog : Standing config flags n 0 log)
    (hcame : n = 5 → CatalogCame config log) (q : LoadRequest) (ticket : Nat) :
    Allowed config log (.request q ticket) where
  clean := hlog.clean
  pending := .inl hlog.pending_eq
  load := by simp
  execute := by simp
  catalog := fun hlength => hcame (hlog.length_eq ▸ hlength)

end Log

section Fetched

namespace Fetching

/-- The ticket that a fetch waits for. -/
def tickets : Fetching → Multiset Nat
  | .unasked => 0
  | .pending ticket _ => {ticket}
  | .arrived _ => 0

/-- How many requests a fetch has made. -/
def asked : Fetching → Nat
  | .unasked => 0
  | .pending _ _ => 1
  | .arrived _ => 1

end Fetching

variable {config : BootstrapConfig} {flags : LibraryFlags} {n : Nat} {tickets : Multiset Nat}
  {q : LoadRequest} {f f' : Fetching} {log log' : List Visible} {r : Except BootstrapError Fetching}

/-- How a fetch leaves a log that was standing, while some other requests are pending. -/
inductive Fetched (config : BootstrapConfig) (flags : LibraryFlags) (n : Nat)
    (tickets : Multiset Nat) (q : LoadRequest) (f : Fetching) (log : List Visible) :
    List Visible → Except BootstrapError Fetching → Prop where
  | failed {log' : List Visible} {e : BootstrapError} (hlog' : Lawful config flags log') :
      Fetched config flags n tickets q f log log' (.error e)
  | waiting {log' : List Visible} {ticket : Nat} {deadline : Option Nat}
      (hlog' : Standing config flags (n + 1) (ticket ::ₘ tickets) log')
      (hnew : f = .unasked → log' = log ++ [.request q ticket]) :
      Fetched config flags n tickets q f log log' (.ok (.pending ticket deadline))
  | came {earlier : List Visible} {ticket : Nat} {r : Resource}
      (hearlier : Standing config flags (n + 1) (ticket ::ₘ tickets) earlier) :
      Fetched config flags n tickets q f log (earlier ++ [.answer ticket (.ok r)])
        (.ok (.arrived r))
  | here {r : Resource} (hf : f = .arrived r) (hlog : Standing config flags (n + 1) tickets log) :
      Fetched config flags n tickets q f log log (.ok (.arrived r))

theorem Standing.awaited {ticket : Nat} {asking : List Visible}
    (hasking : Standing config flags (n + 1) (ticket ::ₘ tickets) asking)
    (hnew : f = .unasked → asking = log ++ [.request q ticket])
    (h : Awaits ticket asking log' r) : Fetched config flags n tickets q f log log' r := by
  cases h with
  | waiting => exact .waiting hasking hnew
  | late => exact .failed hasking.toLawful
  | arrived => exact .came hasking
  | failed => exact .failed (hasking.toLawful.answer ticket _)

theorem Standing.fetched (hlog : Standing config flags (n + f.asked) (f.tickets + tickets) log)
    (hask : f = .unasked → (script config flags)[n]? = some (.request q) ∧
      ∀ ticket, Allowed config log (.request q ticket))
    (h : Fetches q log f log' r) : Fetched config flags n tickets q f log log' r := by
  cases h with
  | here =>
    rw [Fetching.tickets, Multiset.zero_add] at hlog
    exact .here rfl hlog
  | cancelled => exact .failed hlog.toLawful
  | @asked ticket _ _ h =>
    rw [Fetching.tickets, Multiset.zero_add] at hlog
    obtain ⟨hnext, hallowed⟩ := hask rfl
    have hasking := hlog.act rfl hnext (hallowed ticket) id
    exact hasking.awaited (fun _ => rfl) h
  | awaited h =>
    rw [Fetching.tickets, Multiset.singleton_add] at hlog
    exact hlog.awaited (fun hf => nomatch hf) h

theorem Standing.allowed_load {ticket : Nat} {code : Bytes}
    (hlog : Standing config flags n {ticket} log) (hn : n ≠ 5) (id : Nat) (origin : String)
    (loaded : Except ModuleError Module) :
    Allowed config (log ++ [.answer ticket (.ok (.binary code))])
      (.call (.load id code origin loaded)) := by
  have hcame : Standing config flags n 0 (log ++ [.answer ticket (.ok (.binary code))]) :=
    hlog.answer _
  exact {
    clean := hcame.clean
    pending := .inl hcame.pending_eq
    load := by
      intro _ _ _ _ heq
      cases heq
      exact ⟨log, ticket, rfl, hlog.pending_eq⟩
    execute := by simp
    catalog := fun hlength => absurd (hcame.length_eq.symm.trans hlength) hn }

theorem Standing.allowed_execute {id : Nat} {code : Bytes} {origin : String} {m : Module}
    (hlog : Standing config flags n 0 (log ++ [.call (.load id code origin (.ok m))]))
    (hn : n ≠ 5) (executed : Except ModuleError Unit) :
    Allowed config (log ++ [.call (.load id code origin (.ok m))])
      (.call (.execute m executed)) where
  clean := hlog.clean
  pending := .inl hlog.pending_eq
  load := by simp
  execute := by
    intro _ _ heq
    cases heq
    exact ⟨_, _, _, _, rfl⟩
  catalog := fun hlength => absurd (hlog.length_eq.symm.trans hlength) hn

theorem Fetched.lawful (h : Fetched config flags n tickets q f log log' r) :
    Lawful config flags log' := by
  cases h with
  | failed hlog' => exact hlog'
  | waiting hlog' => exact hlog'.toLawful
  | came hearlier => exact (hearlier.answer _).toLawful
  | here _ hlog => exact hlog.toLawful

theorem Fetched.standing (h : Fetched config flags n tickets q f log log' (.ok f')) :
    Standing config flags (n + 1) (f'.tickets + tickets) log' := by
  cases h with
  | waiting hlog' => rwa [Fetching.tickets, Multiset.singleton_add]
  | came hearlier =>
    rw [Fetching.tickets, Multiset.zero_add]
    exact hearlier.answer _
  | here _ hlog => rwa [Fetching.tickets, Multiset.zero_add]

theorem Fetched.asked_eq (h : Fetched config flags n tickets q f log log' (.ok f')) :
    f'.asked = 1 := by
  cases h <;> rfl

/-- A system module that has just come is run. -/
theorem Standing.ran {ω : Type} {ticket : Nat} {r : Resource} {origin : String}
    {result : Except BootstrapError (Domain ω)}
    (hlog : Standing config flags n {ticket} log) (hn : n ≠ 5) (hn' : n + 1 ≠ 5)
    (hload : (script config flags)[n]? = some (.load origin))
    (hexecute : (script config flags)[n + 1]? = some .execute)
    (h : Runs r origin (log ++ [.answer ticket (.ok r)]) log' result) :
    Lawful config flags log' ∧ ∀ d, result = .ok d →
      Standing config flags (n + 2) 0 log' ∧ d.executed = d.modules.length := by
  have hcame : Standing config flags n 0 (log ++ [.answer ticket (.ok r)]) := hlog.answer r
  have hloaded (id : Nat) (m : Module) {code : Bytes} (hcode : r = .binary code) :
      Standing config flags (n + 1) 0
        (log ++ [.answer ticket (.ok r)] ++ [.call (.load id code origin (.ok m))]) := by
    subst hcode
    exact hcame.act rfl hload (hlog.allowed_load hn id origin _) (by simp [Visible.Fails])
  cases h with
  | refused => exact ⟨hcame.toLawful, fun _ h => nomatch h⟩
  | @unloaded id code _ _ hcode =>
    subst hcode
    refine ⟨hcame.toLawful.act rfl ?_ (hlog.allowed_load hn id origin _), fun _ h => nomatch h⟩
    rwa [hcame.length_eq]
  | @failed id _ m _ _ hcode =>
    have hexecuting := hloaded id m hcode
    refine ⟨hexecuting.toLawful.act rfl ?_ (hexecuting.allowed_execute hn' _), fun _ h => nomatch h⟩
    rwa [hexecuting.length_eq]
  | @ran id _ m _ hcode hd =>
    have hexecuting := hloaded id m hcode
    have hran := hexecuting.act rfl hexecute (hexecuting.allowed_execute hn' (.ok ()))
      (by simp [Visible.Fails])
    refine ⟨hran.toLawful, ?_⟩
    intro d heq
    cases heq
    exact ⟨hran, hd⟩

end Fetched

end ContentPlayer
