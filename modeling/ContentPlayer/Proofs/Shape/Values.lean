import ContentPlayer.Proofs.Shape.Held

namespace ContentPlayer

open ContentPlayer.Json (Draft)

namespace Json

theorem draftItems_eq (vs : List Json) : draftItems vs = vs.map draft := by
  induction vs with
  | nil => rfl
  | cons v vs ih => rw [draftItems, ih, List.map_cons]

theorem draftMembers_eq (members : List (String × Json)) :
    draftMembers members = members.map fun m => (some m.1, m.2.draft) := by
  induction members with
  | nil => rfl
  | cons m rest ih =>
    obtain ⟨k, v⟩ := m
    rw [draftMembers, ih, List.map_cons]

mutual
/-- The text of a value is JSON throughout. -/
theorem whole_draft : ∀ v : Json, v.draft.whole = true
  | .null | .bool _ | .int _ | .float _ | .string _ => rfl
  | .array items => by simpa [draft, Draft.whole] using wholeItems_draftItems items
  | .object members => by simpa [draft, Draft.whole] using wholeMembers_draftMembers members

theorem wholeItems_draftItems : ∀ vs : List Json, Draft.wholeItems (draftItems vs) = true
  | [] => rfl
  | v :: vs => by simp [draftItems, Draft.wholeItems, whole_draft v, wholeItems_draftItems vs]

theorem wholeMembers_draftMembers :
    ∀ members : List (String × Json), Draft.wholeMembers (draftMembers members) = true
  | [] => rfl
  | (_, v) :: rest => by
    simp [draftMembers, Draft.wholeMembers, whole_draft v, wholeMembers_draftMembers rest]
end

/-- What a value holds, as a record of named fields, for one of them. -/
def held (names : List String) (name : String) : Json → List Json
  | .object members => (members.filter (·.1 = name)).map Prod.snd
  | .array items => items[names.idxOf name]?.toList
  | _ => []

theorem held_draft (names : List String) (name : String) (v : Json) :
    v.draft.held names name = (v.held names name).map draft := by
  cases v with
  | null | bool | int | float | string => rfl
  | array items =>
    simp only [draft, Draft.held, held, draftItems_eq, List.getElem?_map]
    cases items[names.idxOf name]? <;> rfl
  | object members =>
    simp [draft, Draft.held, held, Draft.under, draftMembers_eq, List.filter_map,
      Function.comp_def]

/-- A value that can be a record of so many fields: an object, or an array that is not longer. -/
def IsRecord (fields : Nat) : Json → Prop
  | .object _ => True
  | .array items => items.length ≤ fields
  | _ => False

namespace Draft

theorem depth_le_depthItems {d : Draft} {items : List Draft} (hd : d ∈ items) :
    d.depth ≤ depthItems items := by
  induction items with
  | nil => cases hd
  | cons d' ds ih =>
    rw [depthItems]
    rcases List.mem_cons.mp hd with rfl | hd
    · exact Nat.le_max_left _ _
    · exact Nat.le_trans (ih hd) (Nat.le_max_right _ _)

theorem depth_le_depthMembers {d : Draft} {name : Option String}
    {members : List (Option String × Draft)} (hd : (name, d) ∈ members) :
    d.depth ≤ depthMembers members := by
  induction members with
  | nil => cases hd
  | cons m ms ih =>
    obtain ⟨name', d'⟩ := m
    rw [depthMembers]
    rcases List.mem_cons.mp hd with heq | hd
    · cases heq
      exact Nat.le_max_left _ _
    · exact Nat.le_trans (ih hd) (Nat.le_max_right _ _)

/-- What a record holds stands less deep in itself than the record. -/
theorem depth_lt_of_mem_held {d d' : Draft} {names : List String} {name : String}
    (hd' : d' ∈ d.held names name) : d'.depth < d.depth := by
  cases d with
  | array items stray =>
    have hmem : d' ∈ items := List.mem_of_getElem? (Option.mem_toList.mp hd')
    exact Nat.lt_succ_of_le (depth_le_depthItems hmem)
  | object members stray =>
    obtain ⟨⟨name', d''⟩, hm, rfl⟩ := List.mem_map.mp hd'
    exact Nat.lt_succ_of_le (depth_le_depthMembers (List.mem_of_mem_filter hm))
  | null | bool | int | float | vast | string | halved | broken => cases hd'

end Draft

end Json

/-- What is said of the things held for a field is said of things less deep than the record. -/
theorem standsFor_held_congr {d : Draft} {names : List String} {name : String}
    {is is' : Draft → Prop} {spare : Prop} (h : ∀ d', d'.depth < d.depth → (is d' ↔ is' d')) :
    StandsFor is spare (d.held names name) ↔ StandsFor is' spare (d.held names name) :=
  StandsFor.congr (fun d' hd' => h d' (Draft.depth_lt_of_mem_held hd')) Iff.rfl

namespace Shape

/-- What a reader gives for a value, if there is room for it, is all that is written as the
value. -/
def ReadsValue {β : Type} (room : Nat) (read : Reader β) (writes : β → Json → Prop) : Prop :=
  ∀ v : Json, v.draft.depth ≤ room → ∀ b, read room v.draft = .ok b ↔ writes b v

section Leaves

variable {β : Type} {room : Nat} {read : Reader β} {writes : β → Json → Prop}

theorem readsValue_text :
    ReadsValue room (fun _ d => readText "a string" d) fun s v => v = .string s := by
  intro v _ s
  cases v <;> simp [Json.draft, readText, mismatch, describe]

theorem readsValue_natural (limit : Nat) (expected : String) :
    ReadsValue room (fun _ d => readNatural limit expected d) fun n v =>
      v = .int n ∧ n < limit := by
  intro v _ n
  cases v with
  | int m =>
    simp only [Json.draft, readNatural, Json.int.injEq, Bool.and_eq_true, decide_eq_true_eq]
    split
    next hm =>
      rw [Except.ok.injEq]
      omega
    next hm =>
      simp only [reduceCtorEq, false_iff]
      omega
  | null | bool | float | string | array | object =>
    simp [Json.draft, readNatural, mismatch, describe]

/-- A list is written as an array of what its members are written as. -/
theorem readsValue_list (hread : ∀ room', room = room' + 1 → ReadsValue room' read writes) :
    ReadsValue room (readList read) fun bs v =>
      ∃ vs, v = .array vs ∧ List.Forall₂ writes bs vs := by
  intro v hv bs
  cases v with
  | array vs =>
    cases room with
    | zero => simp [Json.draft, Json.Draft.depth] at hv
    | succ room =>
      have hdepth : ∀ v ∈ vs, v.draft.depth ≤ room := by
        intro v hmem
        have hle := Json.Draft.depth_le_depthItems (List.mem_map_of_mem (f := Json.draft) hmem)
        rw [← Json.draftItems_eq] at hle
        simp only [Json.draft, Json.Draft.depth] at hv
        omega
      have hall : ∀ bs, readAll (read room) (Json.draftItems vs) = .ok bs ↔
          List.Forall₂ writes bs vs := by
        clear hv
        induction vs with
        | nil => simp [Json.draftItems, readAll, eq_comm]
        | cons v vs ih =>
          intro bs
          have hv := hread room rfl v (hdepth v (by simp))
          have hvs := ih fun w hw => hdepth w (by simp [hw])
          rw [List.forall₂_cons_right_iff, Json.draftItems, readAll]
          simp only [← hv, ← hvs]
          cases read room v.draft with
          | error e => simp [bind, Except.bind]
          | ok b =>
            cases readAll (read room) (Json.draftItems vs) with
            | error e => simp [bind, Except.bind]
            | ok rest => simp [bind, Except.bind, pure, Except.pure, @eq_comm _ bs]
      simp only [Json.draft, readList, Json.array.injEq, exists_eq_left', ← hall]
      cases readAll (read room) (Json.draftItems vs) <;> simp [bind, Except.bind]
  | null | bool | int | float | string | object =>
    cases room <;> simp [Json.draft, readList, mismatch, describe]

end Leaves

section Records

variable {σ α : Type} {form : Form σ α} {columns : List (Column σ α)} {room : Nat}

theorem fits_draft (names : List String) (v : Json) :
    Fits names .value v.draft ↔ v.IsRecord names.length := by
  cases v with
  | array items => simp [Json.draft, Fits, Json.IsRecord, Json.draftItems_eq]
  | object members =>
    simp only [Json.draft, Fits, Json.IsRecord, Json.draftMembers_eq, List.forall_mem_map]
    refine iff_of_true ⟨trivial, ?_⟩ trivial
    rintro ⟨name, w⟩ -
    exact ⟨name, rfl, .inr w.whole_draft⟩
  | null | bool | int | float | string => simp [Json.draft, Fits, Json.IsRecord]

/-- What is no record needs no room. -/
theorem Form.MadeOf.read_eq_ok_iff_of_room (hform : form.MadeOf columns) {m : Medium} {d : Draft}
    {a : α} (hroom : 0 < d.depth → 0 < room) : form.read m room d = .ok a ↔
      Fits (columns.map Column.name) m d ∧
        ∀ c ∈ columns, c.Given (room - 1) a (d.held (columns.map Column.name) c.name) := by
  cases room with
  | zero =>
    cases d with
    | array | object => simp [Draft.depth] at hroom
    | _ => simp [Form.read, Fits]
  | succ room => exact hform.read_eq_ok_iff m d

/-- A form reads a record exactly if what is held for each field is written as the field's value,
and what may be left out is held at most once. -/
theorem Form.MadeOf.readsValue (hform : form.MadeOf columns)
    (hreads : ∀ room', room = room' + 1 → ∀ c ∈ columns, ReadsValue room' c.read c.writes) :
    ReadsValue room (form.read .value) fun a v => v.IsRecord columns.length ∧ ∀ c ∈ columns,
      StandsFor (c.writes (c.value a)) (c.spare a)
        (v.held (columns.map Column.name) c.name) := by
  intro v hv a
  rw [hform.read_eq_ok_iff_of_room fun hdepth => Nat.lt_of_lt_of_le hdepth hv, fits_draft,
    List.length_map]
  refine and_congr_right fun _ => forall₂_congr fun c hc => ?_
  rw [Column.Given, Json.held_draft, standsFor_map]
  refine StandsFor.congr ?_ Iff.rfl
  intro w hw
  have hmem : w.draft ∈ v.draft.held (columns.map Column.name) c.name := by
    rw [Json.held_draft]
    exact List.mem_map_of_mem hw
  have hdepth := Json.Draft.depth_lt_of_mem_held hmem
  exact hreads (room - 1) (by omega) c hc w (by omega) (c.value a)

end Records

end Shape

end ContentPlayer
