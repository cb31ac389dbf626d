import ContentPlayer.Proofs.Domain.Entries
import ContentPlayer.Proofs.Shape.Values

namespace ContentPlayer

open Shape

namespace CatalogEntry

/-- The names of an entry's fields in their order. -/
def fieldNames : List String := ["name", "offset", "length", "defs"]

/-- How an entry is written: each field once, by name or in its place, but for the definitions,
which may be left out when there are none. Both numbers fit 64 bits. -/
structure WrittenAs (e : CatalogEntry) (v : Json) : Prop where
  record : v.IsRecord fieldNames.length
  name : v.held fieldNames "name" = [.string e.name]
  offset : v.held fieldNames "offset" = [.int e.offset]
  offset_lt : e.offset < UInt64.size
  length : v.held fieldNames "length" = [.int e.length]
  length_lt : e.length < UInt64.size
  defs : v.held fieldNames "defs" = [.array (e.defs.map .string)] ∨
    v.held fieldNames "defs" = [] ∧ e.defs = []

theorem writtenAs_iff {e : CatalogEntry} {v : Json} : e.WrittenAs v ↔
    v.IsRecord fieldNames.length ∧ v.held fieldNames "name" = [.string e.name] ∧
      (v.held fieldNames "offset" = [.int e.offset] ∧ e.offset < UInt64.size) ∧
      (v.held fieldNames "length" = [.int e.length] ∧ e.length < UInt64.size) ∧
      (v.held fieldNames "defs" = [.array (e.defs.map .string)] ∨
        v.held fieldNames "defs" = [] ∧ e.defs = []) :=
  ⟨fun h => ⟨h.1, h.2, ⟨h.3, h.4⟩, ⟨h.5, h.6⟩, h.7⟩,
    fun ⟨h₁, h₂, ⟨h₃, h₄⟩, ⟨h₅, h₆⟩, h₇⟩ => ⟨h₁, h₂, h₃, h₄, h₅, h₆, h₇⟩⟩

end CatalogEntry

namespace Catalog

/-- A place among the bytes, which must be given and fit 64 bits. -/
def placeColumn (name : String) (get : EntryFields → Option Nat)
    (put : Nat → EntryFields → EntryFields) (value : CatalogEntry → Nat) :
    Column EntryFields CatalogEntry :=
  ⟨Nat, name, get, put, fun _ d => readNatural UInt64.size "usize" d,
    fun n v => v = .int n ∧ n < UInt64.size, value, fun _ => False⟩

def entryColumns : List (Column EntryFields CatalogEntry) :=
  [⟨String, "name", (·.name), fun b s => { s with name := some b },
      fun _ d => readText "a string" d, fun s v => v = .string s, (·.name), fun _ => False⟩,
    placeColumn "offset" (·.offset) (fun b s => { s with offset := some b }) (·.offset),
    placeColumn "length" (·.length) (fun b s => { s with length := some b }) (·.length),
    ⟨List String, "defs", (·.defs), fun b s => { s with defs := some b },
      readList fun _ => readText "a string",
      fun names v => v = .array (names.map .string), (·.defs), fun e => e.defs = []⟩]

theorem entryForm_madeOf : entryForm.MadeOf entryColumns where
  slots_eq := rfl
  apart := by simp [entryColumns, placeColumn, Column.apart_iff]
  get_start := by simp [entryColumns, placeColumn, entryForm]
  get_put := by simp [entryColumns, placeColumn]
  finish_iff := by
    rintro ⟨name, offset, length, defs⟩ ⟨name', offset', length', defs'⟩
    cases name <;> cases offset <;> cases length <;> cases defs <;>
      simp [entryForm, entryColumns, placeColumn, Column.Settled, required, bind, Except.bind,
        pure, Except.pure, @eq_comm _ _ defs']

theorem readsValue_names {room : Nat} :
    ReadsValue room (readList fun _ => readText "a string") fun names v =>
      v = .array (names.map .string) := by
  intro v hv names
  rw [readsValue_list (fun _ _ => readsValue_text) v hv names]
  simp only [forall₂_eq_map, exists_eq_right]

theorem readsValue_entry {room : Nat} :
    ReadsValue room (entryForm.read .value) CatalogEntry.WrittenAs := by
  have hcolumns : ∀ room', room = room' + 1 → ∀ c ∈ entryColumns,
      ReadsValue room' c.read c.writes := by
    intro room' _
    simp [entryColumns, placeColumn, readsValue_text, readsValue_natural, readsValue_names]
  intro v hv e
  rw [entryForm_madeOf.readsValue hcolumns v hv e, CatalogEntry.writtenAs_iff]
  refine and_congr_right fun _ => ?_
  have hnames : entryColumns.map Column.name = CatalogEntry.fieldNames := rfl
  rw [hnames]
  simp [entryColumns, placeColumn, standsFor_iff]

/-- How an index is written: as the array of its entries. -/
def Indexes (entries : List CatalogEntry) (index : Json) : Prop :=
  ∃ vs, index = .array vs ∧ List.Forall₂ CatalogEntry.WrittenAs entries vs

theorem readIndex_eq_ok_iff {index : Json} {entries : List CatalogEntry} :
    ofValue readIndex index = .ok entries ↔ Indexes entries index :=
  readsValue_list (fun _ _ => readsValue_entry) index (Nat.le_refl _) entries

theorem Indexes.exists_writtenAs {index : Json} {entries : List CatalogEntry}
    (hentries : Indexes entries index) {e : CatalogEntry} (he : e ∈ entries) :
    ∃ v, e.WrittenAs v := by
  obtain ⟨vs, -, hall⟩ := hentries
  induction hall with
  | nil => cases he
  | @cons e' v entries vs hv _ ih =>
    rcases List.mem_cons.mp he with rfl | he
    · exact ⟨v, hv⟩
    · exact ih he

theorem ofJson_of_indexes {index : Json} {entries : List CatalogEntry}
    (hentries : Indexes entries index) (bytes : Bytes) :
    ofJson bytes index = ofEntries bytes entries := by
  rw [ofJson, readIndex_eq_ok_iff.mpr hentries]
  rfl

theorem ofJson_eq_invalidIndex_iff {bytes : Bytes} {index : Json} :
    (∃ reason, ofJson bytes index = .error (.invalidIndex reason)) ↔
      ∀ entries, ¬ Indexes entries index := by
  simp only [← readIndex_eq_ok_iff, ofJson]
  cases ofValue readIndex index with
  | error fault => simp [Except.mapError, bind, Except.bind]
  | ok entries =>
    simp only [Except.mapError, bind, Except.bind, ofEntries]
    split <;> simp

section Places

variable {bytes : Bytes} {entries : List CatalogEntry}

/-- The first of the entries that reaches beyond the bytes. -/
structure FirstBeyond (size : Nat) (entries : List CatalogEntry) (e : CatalogEntry) : Prop where
  beyond : size < e.offset + e.length
  first : ∃ front rest, entries = front ++ e :: rest ∧
    ∀ f ∈ front, f.offset + f.length ≤ size

theorem find?_eq_some_iff_firstBeyond {e : CatalogEntry} :
    entries.find? (fun e => bytes.length < e.stop) = some e ↔
      FirstBeyond bytes.length entries e := by
  rw [List.find?_eq_some_iff_append]
  simp only [decide_eq_true_eq, Bool.not_eq_true', decide_eq_false_iff_not, Nat.not_lt]
  exact ⟨fun h => ⟨h.1, h.2⟩, fun h => ⟨h.1, h.2⟩⟩

theorem ofEntries_eq_error_iff {error : CatalogError} :
    ofEntries bytes entries = .error error ↔ ∃ e, FirstBeyond bytes.length entries e ∧
      error = .outOfBounds e.name e.offset e.length bytes.length := by
  simp only [← find?_eq_some_iff_firstBeyond]
  unfold ofEntries
  split
  next e hfind => simp [hfind, eq_comm]
  next hfind => simp [hfind]

/-- Some entry is refused exactly when there is one to refuse. -/
theorem exists_ofEntries_eq_error_iff : (∃ error, ofEntries bytes entries = .error error) ↔
    ∃ e ∈ entries, bytes.length < e.offset + e.length := by
  constructor
  · rintro ⟨error, herror⟩
    obtain ⟨e, hfirst, -⟩ := ofEntries_eq_error_iff.mp herror
    obtain ⟨front, rest, rfl, -⟩ := hfirst.first
    exact ⟨e, by simp, hfirst.beyond⟩
  · rintro ⟨e, he, hbeyond⟩
    cases hfind : entries.find? (fun e => bytes.length < e.stop) with
    | none =>
      have hnot := List.find?_eq_none.mp hfind e he
      exact absurd (decide_eq_true hbeyond) hnot
    | some first =>
      exact ⟨_, ofEntries_eq_error_iff.mpr ⟨first, find?_eq_some_iff_firstBeyond.mp hfind, rfl⟩⟩

theorem ofEntries_of_within (hwithin : ∀ e ∈ entries, e.stop ≤ bytes.length) :
    ofEntries bytes entries = .ok ⟨bytes, entries, hwithin⟩ := by
  have hfind : entries.find? (fun e => bytes.length < e.stop) = none := by simpa using hwithin
  unfold ofEntries
  split
  next e he => simp [hfind] at he
  next => rfl

end Places

section Words

/-- The check of a place on words of 64 bits: the sum does not wrap around, and does not exceed the
size. -/
def endsWithin (offset length size : UInt64) : Bool :=
  offset ≤ offset + length && offset + length ≤ size

/-- A sum of words that wraps around is less than what was added to. -/
theorem le_add_iff (a b : UInt64) : a ≤ a + b ↔ a.toNat + b.toNat < UInt64.size := by
  have ha : a.toNat < UInt64.size := a.toNat_lt
  have hb : b.toNat < UInt64.size := b.toNat_lt
  have hsum : (a + b).toNat = (a.toNat + b.toNat) % UInt64.size := UInt64.toNat_add a b
  rw [UInt64.le_iff_toNat_le, hsum]
  rcases Nat.lt_or_ge (a.toNat + b.toNat) UInt64.size with hlt | hge
  · rw [Nat.mod_eq_of_lt hlt]
    omega
  · have hmod : (a.toNat + b.toNat) % UInt64.size = a.toNat + b.toNat - UInt64.size := by
      rw [Nat.mod_eq_sub_mod hge, Nat.mod_eq_of_lt (by omega)]
    omega

theorem endsWithin_iff (offset length size : UInt64) :
    endsWithin offset length size = true ↔ offset.toNat + length.toNat ≤ size.toNat := by
  have hsize : size.toNat < UInt64.size := size.toNat_lt
  rw [endsWithin, Bool.and_eq_true, decide_eq_true_eq, decide_eq_true_eq, le_add_iff,
    UInt64.le_iff_toNat_le, UInt64.toNat_add]
  constructor
  · rintro ⟨hlt, hle⟩
    rwa [Nat.mod_eq_of_lt hlt] at hle
  · intro hle
    have hlt : offset.toNat + length.toNat < UInt64.size := by omega
    rw [Nat.mod_eq_of_lt hlt]
    exact ⟨hlt, hle⟩

/-- The places of entries, added up in words, are what they are added up as numbers, where that
matters. -/
structure FitsWords (e : CatalogEntry) (size : Nat) : Prop where
  endsWithin_iff : endsWithin (.ofNat e.offset) (.ofNat e.length) (.ofNat size) = true ↔
    e.offset + e.length ≤ size
  toNat_add : e.offset + e.length ≤ size →
    (UInt64.ofNat e.offset + UInt64.ofNat e.length).toNat = e.offset + e.length

theorem fitsWords_of_writtenAs {e : CatalogEntry} {v : Json} (he : e.WrittenAs v) {size : Nat}
    (hsize : size < UInt64.size) : FitsWords e size := by
  have hoffset : (UInt64.ofNat e.offset).toNat = e.offset :=
    UInt64.toNat_ofNat_of_lt' he.offset_lt
  have hlength : (UInt64.ofNat e.length).toNat = e.length :=
    UInt64.toNat_ofNat_of_lt' he.length_lt
  constructor
  · rw [Catalog.endsWithin_iff, hoffset, hlength, UInt64.toNat_ofNat_of_lt' hsize]
  · intro hle
    rw [UInt64.toNat_add, hoffset, hlength]
    exact Nat.mod_eq_of_lt (Nat.lt_of_le_of_lt hle hsize)

end Words

section Table

/-- Notes an entry's number under each of its definitions under which none is noted. -/
def note (number : Nat) (defs : List String) (table : List (String × Nat)) :
    List (String × Nat) :=
  defs.foldl (fun table d =>
    if (table.lookup d).isSome then table else table ++ [(d, number)]) table

/-- The numbers of entries, counted from one on, as one pass over them notes them. -/
def noteAll : Nat → List CatalogEntry → List (String × Nat) → List (String × Nat)
  | _, [], table => table
  | number, e :: entries, table => noteAll (number + 1) entries (note number e.defs table)

theorem lookup_note (number : Nat) (defs : List String) (table : List (String × Nat))
    (d : String) : (note number defs table).lookup d =
      (table.lookup d).or (if d ∈ defs then some number else none) := by
  induction defs generalizing table with
  | nil => simp [note]
  | cons d' defs ih =>
    have hstep : note number (d' :: defs) table = note number defs
        (if (table.lookup d').isSome then table else table ++ [(d', number)]) := rfl
    rw [hstep, ih]
    cases hfound : table.lookup d' with
    | some n =>
      by_cases hd : d = d'
      · subst hd
        simp [hfound]
      · simp [hd]
    | none =>
      by_cases hd : d = d'
      · subst hd
        simp [List.lookup_append, hfound]
      · have hbeq : (d == d') = false := by simpa using hd
        simp [List.lookup_append, List.lookup_cons, hbeq, hd]

theorem lookup_noteAll (number : Nat) (entries : List CatalogEntry)
    (table : List (String × Nat)) (d : String) :
    (noteAll number entries table).lookup d = (table.lookup d).or
      ((entries.findIdx? (·.defs.contains d)).map (· + number)) := by
  induction entries generalizing number table with
  | nil => simp [noteAll]
  | cons e entries ih =>
    rw [noteAll, ih, lookup_note, Option.or_assoc, List.findIdx?_cons]
    congr 1
    by_cases hd : d ∈ e.defs
    · simp [hd]
    · simp [hd, Function.comp_def, Nat.add_comm, Nat.add_left_comm]

/-- The first entry that brings a definition is the one that a pass over the entries notes. -/
theorem indexOf_eq_lookup (c : Catalog) (d : String) :
    c.indexOf d = (noteAll 0 c.entries []).lookup d := by
  simp [lookup_noteAll, indexOf]

end Table

/-- What a catalog gives out: its entries in the order of the index, for each the bytes at its
place, and for a definition the first entry that brings it, as a table made in one pass has it. -/
structure Serves (c : Catalog) (bytes : Bytes) (entries : List CatalogEntry) : Prop where
  entries_eq : c.entries = entries
  size_eq : c.size = entries.length
  code_eq : ∀ i e, entries[i]? = some e → ∃ front code rest, c.code? i = some code ∧
    bytes = front ++ code ++ rest ∧ front.length = e.offset ∧ code.length = e.length
  code_none : ∀ i, entries.length ≤ i → c.code? i = none
  indexOf_eq_some : ∀ d i, c.indexOf d = some i ↔
    (∃ e, entries[i]? = some e ∧ d ∈ e.defs) ∧ ∀ k < i, ∀ f, entries[k]? = some f → d ∉ f.defs
  indexOf_eq_none : ∀ d, c.indexOf d = none ↔ ∀ e ∈ entries, d ∉ e.defs
  indexOf_eq : ∀ d, c.indexOf d = (noteAll 0 entries []).lookup d

theorem serves (c : Catalog) : c.Serves c.bytes c.entries where
  entries_eq := rfl
  size_eq := rfl
  code_eq := by
    intro i e he
    have hwithin : e.offset + e.length ≤ c.bytes.length := c.within e (List.mem_of_getElem? he)
    refine ⟨c.bytes.take e.offset, (c.bytes.drop e.offset).take e.length,
      (c.bytes.drop e.offset).drop e.length, by simp [code?, entry?, he], ?_, ?_, ?_⟩
    · rw [List.append_assoc, List.take_append_drop, List.take_append_drop]
    · rw [List.length_take]
      omega
    · rw [List.length_take, List.length_drop]
      omega
  code_none := by
    intro i hi
    simp [code?, entry?, List.getElem?_eq_none hi]
  indexOf_eq_some := by
    intro d i
    rw [indexOf_eq_some_iff]
    constructor
    · rintro ⟨e, hentry, hmem, hfirst⟩
      exact ⟨⟨e, hentry, hmem⟩, hfirst⟩
    · rintro ⟨⟨e, hentry, hmem⟩, hfirst⟩
      exact ⟨e, hentry, hmem, hfirst⟩
  indexOf_eq_none := by simp [indexOf]
  indexOf_eq := c.indexOf_eq_lookup

/-- What it comes to to open a catalog: its entries are those of the index, and all lie within the
bytes, or else the first that does not is named, or no entries are written in the index. -/
def Opened (bytes : Bytes) (index : Json) : Except CatalogError Catalog → Prop
  | .ok c => Indexes c.entries index ∧ c.bytes = bytes ∧
      ∀ e ∈ c.entries, e.offset + e.length ≤ bytes.length
  | .error (.invalidIndex _) => ∀ entries, ¬ Indexes entries index
  | .error (.outOfBounds name offset length size) => ∃ entries e, Indexes entries index ∧
      FirstBeyond bytes.length entries e ∧
      CatalogError.outOfBounds name offset length size =
        .outOfBounds e.name e.offset e.length bytes.length

theorem opened_ofJson (bytes : Bytes) (index : Json) : Opened bytes index (ofJson bytes index) := by
  by_cases hindex : ∃ entries, Indexes entries index
  · obtain ⟨entries, hentries⟩ := hindex
    rw [ofJson_of_indexes hentries]
    by_cases hwithin : ∀ e ∈ entries, e.stop ≤ bytes.length
    · rw [ofEntries_of_within hwithin]
      exact ⟨hentries, rfl, hwithin⟩
    · have hbeyond : ∃ e ∈ entries, bytes.length < e.offset + e.length := by
        simpa [CatalogEntry.stop] using hwithin
      obtain ⟨error, herror⟩ := exists_ofEntries_eq_error_iff.mpr hbeyond
      obtain ⟨e, hfirst, rfl⟩ := ofEntries_eq_error_iff.mp herror
      rw [herror]
      exact ⟨entries, e, hentries, hfirst, rfl⟩
  · obtain ⟨reason, hreason⟩ :=
      ofJson_eq_invalidIndex_iff.mpr fun entries hentries => hindex ⟨entries, hentries⟩
    rw [hreason]
    exact fun entries hentries => hindex ⟨entries, hentries⟩

/-- An index is refused when it does not decode, or when an entry reaches beyond the bytes, of which
the first is named; otherwise the catalog serves what the entries say. The places are added up as
numbers without a limit, and to add them up in words of 64 bits comes to the same, as long as words
can count the bytes. -/
theorem accepts_iff_within (bytes : Bytes) (index : Json) :
    ((∃ reason, ofJson bytes index = .error (.invalidIndex reason)) ↔
        ∀ entries, ¬ Indexes entries index) ∧
      ∀ entries, Indexes entries index →
        ((∃ error, ofJson bytes index = .error error) ↔
          ∃ e ∈ entries, bytes.length < e.offset + e.length) ∧
        (∀ error, ofJson bytes index = .error error ↔ ∃ e, FirstBeyond bytes.length entries e ∧
          error = .outOfBounds e.name e.offset e.length bytes.length) ∧
        ((∀ e ∈ entries, e.offset + e.length ≤ bytes.length) →
          ∃ c, ofJson bytes index = .ok c ∧ c.Serves bytes entries) ∧
        (bytes.length < UInt64.size → ∀ e ∈ entries, FitsWords e bytes.length) := by
  refine ⟨ofJson_eq_invalidIndex_iff, ?_⟩
  intro entries hentries
  rw [ofJson_of_indexes hentries]
  refine ⟨exists_ofEntries_eq_error_iff, fun _ => ofEntries_eq_error_iff, ?_, ?_⟩
  · intro hwithin
    exact ⟨⟨bytes, entries, hwithin⟩, ofEntries_of_within hwithin, serves _⟩
  · intro hbytes e he
    obtain ⟨v, hv⟩ := hentries.exists_writtenAs he
    exact fitsWords_of_writtenAs hv hbytes

/-- Two entries, one of them an array and without bytes, both of which bring one definition. -/
theorem accepts_iff_within_shared :
    let entries : List CatalogEntry := [⟨"a", 1, 2, ["x", "y", "x"]⟩, ⟨"b", 3, 0, ["y", "z"]⟩]
    let index : Json := .array [
      .object [("defs", .array [.string "x", .string "y", .string "x"]), ("length", .int 2),
        ("name", .string "a"), ("offset", .int 1)],
      .array [.string "b", .int 3, .int 0, .array [.string "y", .string "z"]]]
    Indexes entries index ∧ ∃ c, ofJson [7, 8, 9] index = .ok c ∧ c.Serves [7, 8, 9] entries ∧
      c.code? 0 = some [8, 9] ∧ c.code? 1 = some [] ∧ c.indexOf "y" = some 0 := by
  intro entries index
  have hindexes : Indexes entries index := readIndex_eq_ok_iff.mp rfl
  obtain ⟨c, hc, hserves⟩ := ((accepts_iff_within [7, 8, 9] index).2 entries hindexes).2.2.1
    (by decide)
  have hentries : c.entries = entries := hserves.entries_eq
  have hbytes : c.bytes = [7, 8, 9] := by
    rw [ofJson_of_indexes hindexes, ofEntries_of_within (by decide)] at hc
    cases hc
    rfl
  refine ⟨hindexes, c, hc, hserves, ?_, ?_, (hserves.indexOf_eq "y").trans (by decide)⟩
  · simp [code?, entry?, hentries, hbytes, entries]
  · simp [code?, entry?, hentries, hbytes, entries]

end Catalog

end ContentPlayer
