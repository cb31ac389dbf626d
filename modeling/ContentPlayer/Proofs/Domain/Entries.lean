import ContentPlayer.Domain.Basic

namespace ContentPlayer

namespace Catalog

variable {c : Catalog} {name : String} {i j : Nat} {e f : CatalogEntry}

/-- The first entry that brings a definition, with its number. -/
structure Brings (c : Catalog) (name : String) (i : Nat) (e : CatalogEntry) : Prop where
  entry : c.entries[i]? = some e
  mem_defs : name ∈ e.defs
  first : ∀ k < i, ∀ f, c.entries[k]? = some f → name ∉ f.defs

/-- Code that is exactly the bytes of an entry. -/
structure IsCode (c : Catalog) (e : CatalogEntry) (code : Bytes) : Prop where
  length_eq : code.length = e.length
  getElem?_eq : ∀ k < e.length, code[k]? = c.bytes[e.offset + k]?

theorem Brings.unique (hi : c.Brings name i e) (hj : c.Brings name j f) : i = j ∧ e = f := by
  have hnot : ¬ i < j ∧ ¬ j < i := by
    constructor
    · intro hij
      exact hj.first i hij e hi.entry hi.mem_defs
    · intro hji
      exact hi.first j hji f hj.entry hj.mem_defs
  obtain rfl : i = j := by omega
  have hentry := hi.entry
  rw [hj.entry] at hentry
  cases hentry
  exact ⟨rfl, rfl⟩

theorem indexOf_eq_some_iff : c.indexOf name = some i ↔ ∃ e, c.Brings name i e := by
  simp only [indexOf, List.findIdx?_eq_some_iff_getElem, List.contains_iff_mem]
  constructor
  · rintro ⟨hi, hmem, hfirst⟩
    refine ⟨c.entries[i], List.getElem?_eq_getElem hi, hmem, ?_⟩
    intro k hk f hf
    obtain ⟨hlt, rfl⟩ := List.getElem?_eq_some_iff.mp hf
    exact hfirst k hk
  · rintro ⟨e, hentry, hmem, hfirst⟩
    obtain ⟨hi, rfl⟩ := List.getElem?_eq_some_iff.mp hentry
    refine ⟨hi, hmem, ?_⟩
    intro k hk
    exact hfirst k hk _ (List.getElem?_eq_getElem (by omega))

theorem code?_of_entry (he : c.entries[i]? = some e) : ∃ code, c.code? i = some code ∧
    c.IsCode e code := by
  have hwithin := c.within e (List.mem_of_getElem? he)
  unfold CatalogEntry.stop at hwithin
  refine ⟨(c.bytes.drop e.offset).take e.length, by simp [code?, entry?, he], ?_, ?_⟩
  · rw [List.length_take, List.length_drop]
    omega
  · intro k hk
    rw [List.getElem?_take_of_lt hk, List.getElem?_drop]

end Catalog

namespace Domain

variable {ω : Type} {d : Domain ω} {name : String} {i : Nat}

/-- The first entry that brings a definition, in the catalog that is registered. -/
def Brings (d : Domain ω) (name : String) (i : Nat) (e : CatalogEntry) : Prop :=
  ∃ c, d.catalog = some c ∧ c.Brings name i e

theorem Brings.unique {j : Nat} {e f : CatalogEntry} (hi : d.Brings name i e)
    (hj : d.Brings name j f) : i = j ∧ e = f := by
  obtain ⟨c, hc, hi⟩ := hi
  obtain ⟨c', hc', hj⟩ := hj
  rw [hc] at hc'
  cases hc'
  exact hi.unique hj

theorem catalogEntry?_of_brings {c : Catalog} {e : CatalogEntry} (hc : d.catalog = some c)
    (he : c.Brings name i e) :
    ∃ code, d.catalogEntry? name = some (i, e.name, code) ∧ c.IsCode e code := by
  obtain ⟨code, hcode, his⟩ := Catalog.code?_of_entry he.entry
  refine ⟨code, ?_, his⟩
  have hindex := Catalog.indexOf_eq_some_iff.mpr ⟨e, he⟩
  simp [hc, catalogEntry?, hindex, Catalog.entry?, he.entry, hcode]

theorem brings_of_catalogEntry? {entry : String} {code : Bytes}
    (h : d.catalogEntry? name = some (i, entry, code)) :
    ∃ e, d.Brings name i e ∧ e.name = entry := by
  cases hc : d.catalog with
  | none => simp [hc, catalogEntry?] at h
  | some c =>
    cases hindex : c.indexOf name with
    | none => simp [hc, catalogEntry?, hindex] at h
    | some j =>
      obtain ⟨e, he⟩ := Catalog.indexOf_eq_some_iff.mp hindex
      obtain ⟨code', hentry, _⟩ := catalogEntry?_of_brings hc he
      rw [hentry] at h
      cases h
      exact ⟨e, ⟨c, hc, he⟩, rfl⟩

theorem catalogEntry?_eq_none_iff :
    d.catalogEntry? name = none ↔ ∀ i e, ¬ d.Brings name i e := by
  constructor
  · rintro h i e ⟨c, hc, he⟩
    obtain ⟨code, hentry, _⟩ := catalogEntry?_of_brings hc he
    rw [h] at hentry
    cases hentry
  · intro h
    rw [Option.eq_none_iff_forall_ne_some]
    rintro ⟨i, entry, code⟩ hentry
    obtain ⟨e, he, _⟩ := brings_of_catalogEntry? hentry
    exact h i e he

end Domain

end ContentPlayer
