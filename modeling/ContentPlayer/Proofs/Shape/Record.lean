import ContentPlayer.Proofs.Shape.Held

namespace ContentPlayer

open ContentPlayer.Json (Draft)

namespace Json

/-- A field of a record as it is to be written: its name, the values that stand for it, and whether
it may be left out. -/
structure Field where
  name : String
  written : Json → Prop
  spare : Prop

/-- A field that is written as one value only. -/
def Field.exactly (name : String) (v : Json) (spare : Prop) : Field := ⟨name, (· = v), spare⟩

/-- What stands under the field's name is a value for it; if nothing does it may be left out. -/
def Field.In (f : Field) (members : List (String × Json)) : Prop :=
  match members.lookup f.name with
  | some v => f.written v
  | none => f.spare

/-- Values for fields in their order. Those behind the last value may be left out. -/
inductive Items : List Field → List Json → Prop where
  | nil {fields : List Field} (hspare : ∀ f ∈ fields, f.spare) : Items fields []
  | cons {f : Field} {fields : List Field} {v : Json} {vs : List Json} (hv : f.written v)
      (hvs : Items fields vs) : Items (f :: fields) (v :: vs)

theorem items_nil_iff {fields : List Field} : Items fields [] ↔ ∀ f ∈ fields, f.spare :=
  ⟨fun h => by cases h; assumption, .nil⟩

theorem items_cons_iff {f : Field} {fields : List Field} {v : Json} {vs : List Json} :
    Items (f :: fields) (v :: vs) ↔ f.written v ∧ Items fields vs :=
  ⟨fun h => by cases h; exact ⟨‹_›, ‹_›⟩, fun h => .cons h.1 h.2⟩

/-- A record is written as an object with its fields, among which there may be members of other
names, or as an array of its fields. -/
inductive Record (fields : List Field) : Json → Prop where
  | object {members : List (String × Json)} (hfields : ∀ f ∈ fields, f.In members) :
      Record fields (.object members)
  | array {items : List Json} (hitems : Items fields items) : Record fields (.array items)

end Json

namespace Shape

open Json.Draft (under)

/-- What a reader gives for a draft is all that is written as the draft's value. -/
def ReadsAs {β : Type} (room : Nat) (read : Reader β) (writes : β → Json → Prop) : Prop :=
  ∀ d v, readAny room d = .ok v → d.Distinct → ∀ b, read room d = .ok b ↔ writes b v

variable {σ α : Type} {form : Form σ α} {columns : List (Column σ α)} {room : Nat} {a : α}

def Column.field (a : α) (c : Column σ α) : Json.Field := ⟨c.name, c.writes (c.value a), c.spare a⟩

section Members

variable {c : Column σ α} {members : List (Option String × Draft)} {vs : List (String × Json)}

theorem names_eq
    (hvs : List.Forall₂ (fun m v => m.1 = some v.1 ∧ readAny room m.2 = .ok v.2) members vs) :
    members.map Prod.fst = (vs.map Prod.fst).map some := by
  induction hvs with
  | nil => rfl
  | cons hm _ ih => simp_all

theorem names_nodup
    (hvs : List.Forall₂ (fun m v => m.1 = some v.1 ∧ readAny room m.2 = .ok v.2) members vs)
    (hnodup : (members.map Prod.fst).Nodup) : (vs.map Prod.fst).Nodup :=
  List.Nodup.of_map some (names_eq hvs ▸ hnodup)

/-- Members that read as values fit any record. -/
theorem fits_object (names : List String)
    (hvs : List.Forall₂ (fun m v => m.1 = some v.1 ∧ readAny room m.2 = .ok v.2) members vs) :
    Fits names .text (.object members none) := by
  refine ⟨rfl, ?_⟩
  induction hvs with
  | nil => simp
  | cons hm _ ih =>
    rw [List.forall_mem_cons]
    exact ⟨⟨_, hm.1, .inr (whole_of_readAny hm.2)⟩, ih⟩

/-- Among members of different names at most one stands for a field, and it is the one that a look
at the values finds. -/
theorem given_under_iff (hread : ReadsAs room c.read c.writes)
    (hvs : List.Forall₂ (fun m v => m.1 = some v.1 ∧ readAny room m.2 = .ok v.2) members vs)
    (hnames : (vs.map Prod.fst).Nodup) (hdistinct : Draft.DistinctMembers members) :
    c.Given room a (under c.name members) ↔ (c.field a).In vs := by
  induction hvs with
  | nil => rfl
  | @cons m kv members vs hm hvs ih =>
    obtain ⟨name, d⟩ := m
    obtain ⟨k, v⟩ := kv
    obtain ⟨rfl, hd⟩ := hm
    obtain ⟨hk, hnames⟩ := List.nodup_cons.mp hnames
    obtain ⟨hdd, hdistinct⟩ := hdistinct
    rw [Json.Field.In, Column.field, List.lookup_cons]
    by_cases hkc : k = c.name
    · subst hkc
      have hnone : under c.name members = [] :=
        Json.Draft.under_eq_nil (by simpa [names_eq hvs] using hk)
      rw [Json.Draft.under_cons_self, hnone, beq_self_eq_true]
      exact hread d v hd hdd (c.value a)
    · have hbeq : (c.name == k) = false := by simpa using Ne.symm hkc
      rw [Json.Draft.under_cons_of_ne hkc, hbeq]
      exact ih hnames hdistinct

end Members

/-- Items that read as values are in their places, and not too many, exactly if the values are
written for the fields. -/
theorem placed_iff_items (hreads : ∀ c ∈ columns, ReadsAs room c.read c.writes)
    {items : List Draft} {vs : List Json}
    (hvs : List.Forall₂ (fun d v => readAny room d = .ok v) items vs)
    (hdistinct : Draft.DistinctItems items) :
    items.length ≤ columns.length ∧ Column.Placed columns room a items ↔
      Json.Items (columns.map (Column.field a)) vs := by
  induction columns generalizing items vs with
  | nil =>
    cases hvs with
    | nil => simp [Json.items_nil_iff]
    | cons =>
      refine iff_of_false (by simp) ?_
      rintro ⟨⟩
  | cons c columns ih =>
    cases hvs with
    | nil => simp [Column.placed_nil_iff, Json.items_nil_iff, Column.field]
    | @cons d v items vs hd hvs =>
      obtain ⟨hread, hreads⟩ := List.forall_mem_cons.mp hreads
      obtain ⟨hdd, hdistinct⟩ := hdistinct
      have hagree := hread d v hd hdd (c.value a)
      rw [List.map_cons, Json.items_cons_iff, ← ih hreads hvs hdistinct, Column.placed_cons_iff,
        hagree, List.length_cons, List.length_cons, Nat.add_le_add_iff_right, and_left_comm]
      rfl

/-- A form reads a record exactly from what the record is written as. -/
theorem Form.MadeOf.readsAs (hform : form.MadeOf columns)
    (hreads : ∀ room', room = room' + 1 → ∀ c ∈ columns, ReadsAs room' c.read c.writes) :
    ReadsAs room (form.read .text) fun a => Json.Record (columns.map (Column.field a)) := by
  intro d v hd hdistinct a
  have hscalar (h : form.read .text room d = .error (mismatch d form.name))
      (hv : ¬ Json.Record (columns.map (Column.field a)) v) :
      form.read .text room d = .ok a ↔ Json.Record (columns.map (Column.field a)) v := by
    simp [h, hv]
  cases reads_of_readAny hd with
  | null | bool | int | float | string =>
    refine hscalar ?_ (by rintro ⟨⟩)
    cases room <;> rfl
  | @array room items vs hitems =>
    have hfits : Fits (columns.map Column.name) .text (.array items none) ↔
        items.length ≤ columns.length := by simp [Fits]
    rw [hform.read_eq_ok_iff, ← placed_iff_held hform, hfits,
      placed_iff_items (hreads room rfl) hitems hdistinct]
    constructor
    · exact .array
    · rintro ⟨⟩
      assumption
  | @object room members vs hmembers =>
    obtain ⟨hnames, hdistinct⟩ := hdistinct
    have hnames := names_nodup hmembers hnames
    obtain ⟨sorted, hsorted, hperm⟩ := Json.ofMembers_perm hnames
    have hin : ∀ c ∈ columns, c.Given room a (under c.name members) ↔ (c.field a).In sorted := by
      intro c hc
      rw [given_under_iff (hreads room rfl c hc) hmembers hnames hdistinct, Json.Field.In,
        Json.Field.In, Json.lookup_perm hperm hnames]
    rw [hform.read_eq_ok_iff, and_iff_right (fits_object _ hmembers), hsorted]
    refine Iff.trans (forall₂_congr hin) ?_
    constructor
    · exact fun h => .object (List.forall_mem_map.mpr h)
    · rintro ⟨⟩
      exact List.forall_mem_map.mp ‹_›

section Leaves

variable {β : Type} {read : Reader β} {writes : β → Json → Prop}

theorem readsAs_text :
    ReadsAs room (fun _ d => readText "a string" d) fun s v => v = .string s := by
  intro d v hd _ s
  cases reads_of_readAny hd <;> simp [readText, mismatch, describe, Json.ofMembers, eq_comm]

theorem readsAs_flag : ReadsAs room (fun _ d => readFlag d) fun b v => v = .bool b := by
  intro d v hd _ b
  cases reads_of_readAny hd <;> simp [readFlag, mismatch, describe, Json.ofMembers, eq_comm]

theorem readsAs_any : ReadsAs room readAny fun data v => v = data := by
  intro d v hd _ data
  rw [hd, Except.ok.injEq]

theorem readsAs_natural (limit : Nat) (expected : String) :
    ReadsAs room (fun _ d => readNatural limit expected d) fun n v => v = .int n ∧ n < limit := by
  intro d v hd _ n
  cases reads_of_readAny hd with
  | int _ m =>
    have hcond : (0 ≤ m && m < limit) = true ↔ 0 ≤ m ∧ m < limit := by simp
    simp only [readNatural, Json.int.injEq]
    split
    next hm =>
      rw [hcond] at hm
      rw [Except.ok.injEq]
      omega
    next hm =>
      rw [hcond] at hm
      simp only [reduceCtorEq, false_iff]
      omega
  | null | bool | float | string | array | object =>
    simp [readNatural, mismatch, describe, Json.ofMembers]

theorem ReadsAs.map {γ : Type} (hread : ReadsAs room read writes) (f : β → γ) :
    ReadsAs room (fun room d => (read room d).map f) fun c v => ∃ b, writes b v ∧ f b = c := by
  intro d v hd hdistinct c
  simp only [← hread d v hd hdistinct]
  cases read room d <;> simp [Except.map]

theorem ReadsAs.congr {writes' : β → Json → Prop} (hread : ReadsAs room read writes)
    (hwrites : ∀ b v, writes b v ↔ writes' b v) : ReadsAs room read writes' :=
  fun d v hd hdistinct b => (hread d v hd hdistinct b).trans (hwrites b v)

/-- A list is written as an array of what its members are written as. -/
theorem readsAs_list (hread : ∀ room', room = room' + 1 → ReadsAs room' read writes) :
    ReadsAs room (readList read) fun bs v => ∃ vs, v = .array vs ∧ List.Forall₂ writes bs vs := by
  intro d v hd hdistinct bs
  cases reads_of_readAny hd with
  | @array room items vs hitems =>
    rw [readList]
    have hall : ∀ xs, readAll (read room) items = .ok xs ↔ List.Forall₂ writes xs vs := by
      clear hd
      induction hitems with
      | nil => simp [readAll, eq_comm]
      | @cons d v items vs hd _ ih =>
        obtain ⟨hdd, hdistinct⟩ := hdistinct
        have hb := hread room rfl d v hd hdd
        intro xs
        rw [List.forall₂_cons_right_iff, readAll]
        cases hx : read room d with
        | error e => simp [← hb, hx, bind, Except.bind]
        | ok x =>
          have hx' : ∀ b, writes b v ↔ x = b := fun b => by rw [← hb, hx, Except.ok.injEq]
          simp only [← ih hdistinct, hx']
          cases readAll (read room) items with
          | error e => simp [bind, Except.bind]
          | ok rest => simp [bind, Except.bind, pure, Except.pure, @eq_comm _ xs]
    cases hxs : readAll (read room) items with
    | error e => simp [← hall, hxs, bind, Except.bind]
    | ok xs => simp [← hall, hxs, bind, Except.bind]
  | object hmembers => simp [readList, mismatch, describe, Json.ofMembers]
  | null | bool | int | float | string =>
    cases room <;> simp [readList, mismatch, describe]

/-- A choice is the name of a variant without content, or an object of one member that is named by
the variant and holds what its content is written as. -/
theorem readsAs_choice (known : List String) (read : String → Content → Nat → Except Fault β)
    (writes : String → β → Json → Prop)
    (hread : ∀ room', room = room' + 1 → ∀ name ∈ known,
      ReadsAs room' (fun room d => read name (.value d) room) (writes name)) :
    ReadsAs room (readChoice .text known read) fun b v =>
      (∃ name ∈ known, v = .string name ∧ read name .nothing room = .ok b) ∨
        ∃ name ∈ known, ∃ content, v = .object [(name, content)] ∧ writes name b content := by
  intro d v hd hdistinct b
  cases reads_of_readAny hd with
  | null | bool | int | float => cases room <;> simp [readChoice]
  | array => simp [readChoice]
  | string _ s =>
    by_cases hs : s ∈ known
    · simp [readChoice, hs]
    · simp [readChoice, hs]
  | @object room members vs hmembers =>
    obtain ⟨hnames, hdistinct⟩ := hdistinct
    have hnames := names_nodup hmembers hnames
    obtain ⟨sorted, hsorted, hperm⟩ := Json.ofMembers_perm hnames
    rw [hsorted]
    cases hmembers with
    | nil =>
      obtain rfl : sorted = [] := hperm.eq_nil
      simp [readChoice]
    | @cons m kv members vs hm hmembers =>
      obtain ⟨name, d⟩ := m
      obtain ⟨k, v⟩ := kv
      obtain ⟨rfl, hd'⟩ := hm
      cases hmembers with
      | nil =>
        obtain rfl : sorted = [(k, v)] := List.perm_singleton.mp hperm
        by_cases hk : k ∈ known
        · have hb := hread room rfl k hk d v hd' hdistinct.1 b
          have hchoice :
              readChoice .text known read (room + 1) (.object [(some k, d)] none) = .ok b ↔
                read k (.value d) room = .ok b := by
            cases hr : read k (.value d) room <;> simp [readChoice, hk, hr, bind, Except.bind]
          rw [hchoice, hb]
          simp [hk]
        · simp [readChoice, hk]
      | @cons m' kv' members vs hm' hmembers =>
        have hlength : ∀ kv, sorted ≠ [kv] := by
          rintro kv rfl
          simpa using hperm.length_eq
        have hchoice : readChoice .text known read (room + 1)
            (.object ((some k, d) :: m' :: members) none) ≠ .ok b := by
          by_cases hk : k ∈ known
          · cases hr : read k (.value d) room <;> simp [readChoice, hk, hr, bind, Except.bind]
          · simp [readChoice, hk]
        simp [hchoice, hlength]

end Leaves

end Shape

end ContentPlayer
