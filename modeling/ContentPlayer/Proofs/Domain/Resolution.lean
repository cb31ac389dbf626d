import ContentPlayer.Proofs.Domain.Entries
import ContentPlayer.Proofs.Domain.Step

namespace ContentPlayer.Domain

variable {ω : Type}

/-- A definition is resolved by executing the catalog entry of a number. -/
def Action.ExecutesEntry (t : Action ω) (i : Nat) : Prop :=
  ∃ name e, t.op = .resolve name ∧ t.before.domain.Brings name i e ∧
    t.answer = .resolved (.ok (.executed e.name))

def Action.RegistersCatalog (t : Action ω) : Prop := ∃ c, t.op = .registerCatalog c

/-- The catalog entry of a number has been executed since the catalog was registered. -/
def EntryExecuted (earlier : List (Action ω)) (i : Nat) : Prop :=
  ∃ front t rest, earlier = front ++ t :: rest ∧ t.ExecutesEntry i ∧
    ∀ u ∈ rest, ¬ u.RegistersCatalog

theorem not_entryExecuted_nil (i : Nat) : ¬ EntryExecuted ([] : List (Action ω)) i := by
  rintro ⟨front, t, rest, hnil, _⟩
  simp at hnil

theorem entryExecuted_append_iff (earlier : List (Action ω)) (t : Action ω) (i : Nat) :
    EntryExecuted (earlier ++ [t]) i ↔
      t.ExecutesEntry i ∨ (EntryExecuted earlier i ∧ ¬ t.RegistersCatalog) := by
  constructor
  · rintro ⟨front, u, rest, heq, hu, hrest⟩
    rcases List.eq_nil_or_concat rest with rfl | ⟨rest, v, rfl⟩
    · obtain ⟨rfl, rfl⟩ : earlier = front ∧ t = u := by simpa using heq
      exact .inl hu
    · rw [List.concat_eq_append, ← List.cons_append, ← List.append_assoc] at heq
      obtain ⟨rfl, hlast⟩ := List.append_inj' heq rfl
      cases hlast
      refine .inr ⟨⟨front, u, rest, rfl, hu, ?_⟩, hrest t (by simp)⟩
      intro x hx
      exact hrest x (by simp [hx])
  · rintro (ht | ⟨⟨front, u, rest, rfl, hu, hrest⟩, ht⟩)
    · exact ⟨earlier, t, [], rfl, ht, by simp⟩
    · refine ⟨front, u, rest ++ [t], by simp, hu, ?_⟩
      intro x hx
      rcases List.mem_append.mp hx with hx | hx
      · exact hrest x hx
      · rw [List.mem_singleton.mp hx]
        exact ht

namespace Setting

variable {s s' : Setting ω} {op : Operation} {calls : List Executor.Call} {r : Answer}

theorem LoadsAndExecutes.loads_eq {code : Bytes} {origin : String} {r : Except ModuleError Nat}
    (h : s.LoadsAndExecutes code origin calls s' r) :
    calls.filterMap Executor.Call.loads? = [(s.domain.modules.length, code, origin)] := by
  cases h <;> rfl

/-- The entries that count as executed are those that an action executes, and those that counted
before unless a catalog is registered. -/
theorem Step.mem_resolved_iff (h : s.Step op calls s' r) (i : Nat) :
    i ∈ s'.domain.resolved ↔ (⟨s, op, s', r, calls⟩ : Action ω).ExecutesEntry i ∨
      (i ∈ s.domain.resolved ∧ ¬ (⟨s, op, s', r, calls⟩ : Action ω).RegistersCatalog) := by
  have hsame (hresolved : s'.domain.resolved = s.domain.resolved)
      (hcatalog : ∀ c, op ≠ .registerCatalog c)
      (hanswer : ∀ n, r ≠ .resolved (.ok (.executed n))) :
      i ∈ s'.domain.resolved ↔ (⟨s, op, s', r, calls⟩ : Action ω).ExecutesEntry i ∨
        (i ∈ s.domain.resolved ∧ ¬ (⟨s, op, s', r, calls⟩ : Action ω).RegistersCatalog) := by
    have hexecutes : ¬ (⟨s, op, s', r, calls⟩ : Action ω).ExecutesEntry i := by
      rintro ⟨_, e, _, _, heq⟩
      exact hanswer e.name heq
    have hregisters : ¬ (⟨s, op, s', r, calls⟩ : Action ω).RegistersCatalog := by
      rintro ⟨c, heq⟩
      exact hcatalog c heq
    simp [hresolved, hexecutes, hregisters]
  cases h with
  | load h => cases h <;> exact hsame rfl nofun nofun
  | execute h => cases h <;> exact hsame rfl nofun nofun
  | loadAndExecute h => exact hsame h.loadedFrom.resolved_eq nofun nofun
  | registerCatalog c =>
    constructor
    · intro hi
      cases hi
    · rintro (⟨_, _, ⟨⟩, _⟩ | ⟨_, hregisters⟩)
      exact (hregisters ⟨c, rfl⟩).elim
  | resolve h =>
    cases h with
    | @executed j entry code calls s' id _ hentry _ hload =>
      obtain ⟨e, he, rfl⟩ := brings_of_catalogEntry? hentry
      rw [List.mem_cons, hload.loadedFrom.resolved_eq]
      constructor
      · rintro (rfl | hi)
        · exact .inl ⟨_, e, rfl, he, rfl⟩
        · refine .inr ⟨hi, ?_⟩
          rintro ⟨_, ⟨⟩⟩
      · rintro (⟨_, f, ⟨⟩, hf, _⟩ | ⟨hi, _⟩)
        · exact .inl (hf.unique he).1
        · exact .inr hi
    | failed _ _ _ hload => exact hsame hload.loadedFrom.resolved_eq nofun nofun
    | _ => exact hsame rfl nofun nofun
  | register => exact hsame rfl nofun nofun
  | construct => exact hsame rfl nofun nofun
  | attach => exact hsame rfl nofun nofun

theorem run_mem_resolved_iff (w : ω) (x : Executor ω) (version : UInt8) (ops : List Operation)
    (i : Nat) :
    i ∈ ((fresh w x version).run ops).domain.resolved ↔
      EntryExecuted ((fresh w x version).acts ops) i := by
  refine run_induction (P := fun earlier s => i ∈ s.domain.resolved ↔ EntryExecuted earlier i)
    ?_ ?_ ops
  · simp [fresh, not_entryExecuted_nil]
  · intro earlier s op hs
    rw [entryExecuted_append_iff, ← hs]
    exact (s.step op).mem_resolved_iff i

section Resolves

variable {name : String} {r : Except ModuleError Resolution} (h : s.Resolves name calls s' r)

include h

theorem Resolves.registered_iff :
    r = .ok .registered ↔ s.domain.registries.definitions.contains name = true := by
  cases h with
  | registered hname => simp [hname]
  | notFound hname => simp [hname]
  | alreadyLoaded hname => simp [hname]
  | failed hname => simp [hname]
  | executed hname => simp [hname]

theorem Resolves.notFound_iff :
    r = .ok .notFound ↔ s.domain.registries.definitions.contains name = false ∧
      ∀ i e, ¬ s.domain.Brings name i e := by
  rw [← catalogEntry?_eq_none_iff]
  cases h with
  | registered hname => simp [hname]
  | notFound hname hentry => simp [hname, hentry]
  | alreadyLoaded _ hentry => simp [hentry]
  | failed _ hentry => simp [hentry]
  | executed _ hentry => simp [hentry]

theorem Resolves.alreadyLoaded_iff (n : String) :
    r = .ok (.alreadyLoaded n) ↔ s.domain.registries.definitions.contains name = false ∧
      ∃ i e, s.domain.Brings name i e ∧ e.name = n ∧ i ∈ s.domain.resolved := by
  have hunresolved {j : Nat} {entry : String} {code : Bytes}
      (hentry : s.domain.catalogEntry? name = some (j, entry, code)) (hj : j ∉ s.domain.resolved) :
      ¬ ∃ i e, s.domain.Brings name i e ∧ e.name = n ∧ i ∈ s.domain.resolved := by
    rintro ⟨i, e, he, _, hi⟩
    obtain ⟨f, hf, _⟩ := brings_of_catalogEntry? hentry
    rw [(he.unique hf).1] at hi
    exact hj hi
  cases h with
  | registered hname => simp [hname]
  | notFound _ hentry => simp [catalogEntry?_eq_none_iff.mp hentry]
  | alreadyLoaded hname hentry hresolved =>
    obtain ⟨f, hf, rfl⟩ := brings_of_catalogEntry? hentry
    constructor
    · rintro ⟨⟩
      exact ⟨hname, _, f, hf, rfl, hresolved⟩
    · rintro ⟨_, _, e, he, rfl, _⟩
      rw [(he.unique hf).2]
  | failed _ hentry hresolved => simp [hunresolved hentry hresolved]
  | executed _ hentry hresolved => simp [hunresolved hentry hresolved]

theorem Resolves.untouched {a : Resolution} (hr : r = .ok a) (ha : ∀ n, a ≠ .executed n) :
    s' = s ∧ calls = [] := by
  cases h with
  | failed => cases hr
  | executed =>
    cases hr
    exact (ha _ rfl).elim
  | _ => exact ⟨rfl, rfl⟩

theorem Resolves.loadedFrom_of_error {e : ModuleError} (hr : r = .error e) :
    s'.domain.LoadedFrom s.domain := by
  cases h with
  | failed _ _ _ hload => exact hload.loadedFrom
  | _ => cases hr

theorem Resolves.loads_eq {i : Nat} {entry : String} {code : Bytes}
    (hname : s.domain.registries.definitions.contains name = false)
    (hentry : s.domain.catalogEntry? name = some (i, entry, code)) (hi : i ∉ s.domain.resolved) :
    calls.filterMap Executor.Call.loads? = [(s.domain.modules.length, code, entry)] := by
  cases h with
  | registered hname' =>
    rw [hname] at hname'
    cases hname'
  | notFound _ hentry' =>
    rw [hentry] at hentry'
    cases hentry'
  | alreadyLoaded _ hentry' hresolved =>
    rw [hentry] at hentry'
    cases hentry'
    exact (hi hresolved).elim
  | failed _ hentry' _ hload =>
    rw [hentry] at hentry'
    cases hentry'
    exact hload.loads_eq
  | executed _ hentry' _ hload =>
    rw [hentry] at hentry'
    cases hentry'
    exact hload.loads_eq

end Resolves

end Setting

/-- The code of a catalog entry is loaded, once, and the answer tells what came of that. -/
structure Action.LoadsEntry (t : Action ω) (entry : String) (code : Bytes) : Prop where
  loads_eq : t.calls.filterMap Executor.Call.loads? =
    [(t.before.domain.modules.length, code, entry)]
  answer_eq : t.answer = .resolved
    ((t.before.domain.loadAndExecute t.before.outside code entry).2.2.map fun _ => .executed entry)

theorem Setting.loadsEntry (s : Setting ω) {name : String} {c : Catalog} {i : Nat}
    {e : CatalogEntry} (hname : s.domain.registries.definitions.contains name = false)
    (hc : s.domain.catalog = some c) (he : c.Brings name i e) (hi : i ∉ s.domain.resolved) :
    ∃ code, c.IsCode e code ∧ (s.act (.resolve name)).LoadsEntry e.name code := by
  obtain ⟨code, hentry, hcode⟩ := catalogEntry?_of_brings hc he
  refine ⟨code, hcode, (s.resolves name).loads_eq hname hentry hi, ?_⟩
  have hresolve := resolve_of_unresolved s.outside hname hentry hi
  simp only [act, perform, hresolve]
  generalize s.domain.loadAndExecute s.outside code e.name = loaded
  obtain ⟨w, d, r⟩ := loaded
  cases r <;> rfl

/-- How a definition is resolved, after some earlier actions. -/
structure Action.ResolvesLazily (earlier : List (Action ω)) (name : String) (t : Action ω) :
    Prop where
  registered_iff : t.answer = .resolved (.ok .registered) ↔
    t.before.domain.registries.definitions.contains name = true
  notFound_iff : t.answer = .resolved (.ok .notFound) ↔
    t.before.domain.registries.definitions.contains name = false ∧
      ∀ i e, ¬ t.before.domain.Brings name i e
  alreadyLoaded_iff : ∀ n, t.answer = .resolved (.ok (.alreadyLoaded n)) ↔
    t.before.domain.registries.definitions.contains name = false ∧
      ∃ i e, t.before.domain.Brings name i e ∧ e.name = n ∧ EntryExecuted earlier i
  untouched : ∀ a, t.answer = .resolved (.ok a) → (∀ n, a ≠ .executed n) →
    t.after = t.before ∧ t.calls = []
  loads : t.before.domain.registries.definitions.contains name = false →
    ∀ c i e, t.before.domain.catalog = some c → c.Brings name i e → ¬ EntryExecuted earlier i →
      ∃ code, c.IsCode e code ∧ t.LoadsEntry e.name code
  /-- No entry is executed twice. -/
  once : ∀ i, t.ExecutesEntry i → ¬ EntryExecuted earlier i
  /-- An entry that fails is none that has been executed, and is loaded again at the next try. -/
  retried : ∀ err, t.answer = .resolved (.error err) →
    ∀ c i e, t.before.domain.catalog = some c → c.Brings name i e →
      ¬ EntryExecuted (earlier ++ [t]) i ∧
        ∃ code, c.IsCode e code ∧ (t.after.act (.resolve name)).LoadsEntry e.name code

namespace Setting

section

variable {s : Setting ω} {earlier : List (Action ω)}
  (hresolved : ∀ i, i ∈ s.domain.resolved ↔ EntryExecuted earlier i) (name : String)

include hresolved

/-- An entry that counts as executed is not loaded, and so neither executed nor failing. -/
theorem alreadyLoaded_of_executed {i : Nat} {e : CatalogEntry}
    (hname : s.domain.registries.definitions.contains name = false) (he : s.domain.Brings name i e)
    (hi : EntryExecuted earlier i) :
    (s.domain.resolve s.outside name).2.2 = .ok (.alreadyLoaded e.name) :=
  ((s.resolves name).alreadyLoaded_iff e.name).mpr ⟨hname, i, e, he, rfl, (hresolved i).mpr hi⟩

theorem act_resolvesLazily : (s.act (.resolve name)).ResolvesLazily earlier name := by
  have hresolves := s.resolves name
  have hanswer : (s.act (.resolve name)).answer =
      .resolved (s.domain.resolve s.outside name).2.2 := rfl
  have hname {a : Except ModuleError Resolution} (ha : (s.domain.resolve s.outside name).2.2 = a)
      (hne : a ≠ .ok .registered) : s.domain.registries.definitions.contains name = false := by
    rw [← Bool.not_eq_true, ← hresolves.registered_iff, ha]
    exact hne
  constructor
  · rw [hanswer, Answer.resolved.injEq]
    exact hresolves.registered_iff
  · rw [hanswer, Answer.resolved.injEq]
    exact hresolves.notFound_iff
  · intro n
    simp only [← hresolved, hanswer, Answer.resolved.injEq]
    exact hresolves.alreadyLoaded_iff n
  · intro a ha hne
    rw [hanswer, Answer.resolved.injEq] at ha
    exact hresolves.untouched ha hne
  · intro hnone c i e hc he hi
    exact s.loadsEntry hnone hc he ((not_congr (hresolved i)).mpr hi)
  · rintro i ⟨_, e, ⟨⟩, he, ha⟩ hi
    rw [hanswer, Answer.resolved.injEq] at ha
    have hloaded := alreadyLoaded_of_executed hresolved name (hname ha nofun) he hi
    rw [ha] at hloaded
    cases hloaded
  · intro err ha c i e hc he
    rw [hanswer, Answer.resolved.injEq] at ha
    have hnone := hname ha nofun
    have hi : ¬ EntryExecuted earlier i := by
      intro hi
      have hloaded := alreadyLoaded_of_executed hresolved name hnone ⟨c, hc, he⟩ hi
      rw [ha] at hloaded
      cases hloaded
    -- what fails leaves the catalog and the marks, and is resolved again as it was now
    have hfrom := hresolves.loadedFrom_of_error ha
    refine ⟨?_, loadsEntry (c := c) (i := i) _ ?_ ?_ he ?_⟩
    · rw [entryExecuted_append_iff]
      rintro (⟨_, f, _, _, hf⟩ | ⟨hi', _⟩)
      · rw [hanswer, ha] at hf
        cases hf
      · exact hi hi'
    · rw [act, hfrom.registries_eq]
      exact hnone
    · rw [act, hfrom.catalog_eq]
      exact hc
    · rw [act, hfrom.resolved_eq]
      exact (not_congr (hresolved i)).mpr hi

end

/-- The entry of a definition is executed when the definition is first resolved, and then no more
until a catalog is registered. This holds after everything that can be done to a domain, whatever
its executor answers. -/
theorem resolves_lazily (w : ω) (x : Executor ω) (version : UInt8) (front : List Operation)
    (name : String) :
    (((fresh w x version).run front).act (.resolve name)).ResolvesLazily
      ((fresh w x version).acts front) name :=
  act_resolvesLazily (run_mem_resolved_iff w x version front) name

end Setting

end ContentPlayer.Domain
