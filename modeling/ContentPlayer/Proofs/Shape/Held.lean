import ContentPlayer.Proofs.Shape.Reading
import Mathlib.Data.List.Pairwise

namespace ContentPlayer

open ContentPlayer.Json (Draft)

/-- At most one thing stands for another: one that is as it is to be, or none if it may be left
out. -/
def StandsFor {β : Type} (is : β → Prop) (spare : Prop) : List β → Prop
  | [] => spare
  | [b] => is b
  | _ :: _ :: _ => False

section StandsFor

variable {β γ : Type} {is is' : β → Prop} {spare spare' : Prop} {bs : List β}

theorem StandsFor.imp (h : StandsFor is spare bs) (his : ∀ b ∈ bs, is b → is' b)
    (hspare : spare → spare') : StandsFor is' spare' bs := by
  match bs, h with
  | [], h => exact hspare h
  | [b], h => exact his b (by simp) h

theorem StandsFor.congr (his : ∀ b ∈ bs, is b ↔ is' b) (hspare : spare ↔ spare') :
    StandsFor is spare bs ↔ StandsFor is' spare' bs :=
  ⟨fun h => h.imp (fun b hb => (his b hb).mp) hspare.mp,
    fun h => h.imp (fun b hb => (his b hb).mpr) hspare.mpr⟩

theorem standsFor_map {f : γ → β} {cs : List γ} :
    StandsFor is spare (cs.map f) ↔ StandsFor (fun c => is (f c)) spare cs := by
  match cs with
  | [] | [_] | _ :: _ :: _ => rfl

theorem standsFor_iff : StandsFor is spare bs ↔ (∃ b, bs = [b] ∧ is b) ∨ bs = [] ∧ spare := by
  match bs with
  | [] | [_] | _ :: _ :: _ => simp [StandsFor]

end StandsFor

namespace Json.Draft

/-- What stands under a name. -/
def under (name : String) (members : List (Option String × Draft)) : List Draft :=
  (members.filter (·.1 = some name)).map Prod.snd

/-- What a record holds for one of its fields: members of the field's name, or the item in the
field's place. -/
def held (names : List String) (name : String) : Draft → List Draft
  | .object members _ => under name members
  | .array items _ => items[names.idxOf name]?.toList
  | _ => []

@[simp] theorem under_nil (name : String) : under name [] = [] := rfl

theorem under_cons_self (name : String) (d : Draft) (members : List (Option String × Draft)) :
    under name ((some name, d) :: members) = d :: under name members := by
  simp [under]

theorem under_cons_of_ne {name name' : String} (h : name' ≠ name) (d : Draft)
    (members : List (Option String × Draft)) :
    under name ((some name', d) :: members) = under name members := by
  simp [under, h]

theorem under_eq_nil {name : String} {members : List (Option String × Draft)}
    (h : some name ∉ members.map Prod.fst) : under name members = [] := by
  have hne : ∀ m ∈ members, m.1 ≠ some name := fun m hm heq => h (heq ▸ List.mem_map_of_mem hm)
  rw [under, List.filter_eq_nil_iff.mpr (by simpa using hne), List.map_nil]

end Json.Draft

namespace Shape

open Json.Draft (under)

/-- A field of a form: how it is known in the state `σ`, how it is read and written, its value in
the record `α`, and whether it may be left out there. -/
structure Column (σ α : Type) where
  β : Type
  name : String
  get : σ → Option β
  put : β → σ → σ
  read : Reader β
  writes : β → Json → Prop
  value : α → β
  spare : α → Prop

variable {σ α : Type} {room : Nat} {s : σ} {a : α}

namespace Column

def slot (c : Column σ α) : Slot σ :=
  ⟨c.name, fun s => (c.get s).isSome, fun room d s => do return c.put (← c.read room d) s⟩

/-- What is known of the field is what it is in the record; if nothing is, it may be left out. -/
def Settled (c : Column σ α) (s : σ) (a : α) : Prop :=
  match c.get s with
  | some b => b = c.value a
  | none => c.spare a

theorem settled_put {c : Column σ α} {b : c.β} (hget : c.get (c.put b s) = some b) :
    c.Settled (c.put b s) a ↔ b = c.value a := by
  rw [Settled, hget]

/-- Two fields of different names, each of which is not touched when the other is read. -/
structure Apart (c c' : Column σ α) : Prop where
  name_ne : c.name ≠ c'.name
  get_put : ∀ b s, c'.get (c.put b s) = c'.get s
  get_put' : ∀ b s, c.get (c'.put b s) = c.get s

theorem apart_iff {c c' : Column σ α} : Apart c c' ↔
    c.name ≠ c'.name ∧ (∀ b s, c'.get (c.put b s) = c'.get s) ∧
      ∀ b s, c.get (c'.put b s) = c.get s :=
  ⟨fun h => ⟨h.1, h.2, h.3⟩, fun h => ⟨h.1, h.2.1, h.2.2⟩⟩

instance : Std.Symm (@Apart σ α) where
  symm _ _ h := ⟨h.name_ne.symm, h.get_put', h.get_put⟩

end Column

/-- The fields of a form. -/
structure Form.MadeOf (form : Form σ α) (columns : List (Column σ α)) : Prop where
  slots_eq : form.slots = columns.map Column.slot
  apart : columns.Pairwise Column.Apart
  get_start : ∀ c ∈ columns, c.get form.start = none
  get_put : ∀ c ∈ columns, ∀ b s, c.get (c.put b s) = some b
  finish_iff : ∀ s a, form.finish s = .ok a ↔ ∀ c ∈ columns, c.Settled s a

variable {form : Form σ α} {columns : List (Column σ α)}

theorem Form.MadeOf.apart_of_ne (hform : form.MadeOf columns) {c c' : Column σ α}
    (hc : c ∈ columns) (hc' : c' ∈ columns) (hne : c ≠ c') : c.Apart c' :=
  hform.apart.forall hc hc' hne

theorem Form.MadeOf.find?_slot (hform : form.MadeOf columns) {c : Column σ α} (hc : c ∈ columns) :
    form.slots.find? (·.name = c.name) = some c.slot := by
  have hfind : columns.find? (·.name = c.name) = some c := by
    cases hfound : columns.find? (·.name = c.name) with
    | none => simpa using List.find?_eq_none.mp hfound c hc
    | some c' =>
      have hname : c'.name = c.name := by simpa using List.find?_some hfound
      by_contra hne
      have hne' : c' ≠ c := fun heq => hne (heq ▸ rfl)
      exact (hform.apart_of_ne (List.mem_of_find?_eq_some hfound) hc hne').name_ne hname
  rw [hform.slots_eq, List.find?_map]
  exact congrArg (Option.map Column.slot) hfind

section Members

variable {k : String} {d : Draft} {members : List (Option String × Draft)}

theorem Form.MadeOf.readMembers_field (hform : form.MadeOf columns) {c : Column σ α}
    (hc : c ∈ columns) (hfree : c.get s = none) :
    readMembers form.slots room ((some c.name, d) :: members) s =
      c.read room d >>= fun b => readMembers form.slots room members (c.put b s) := by
  have htaken : c.slot.taken s = false := by simp [Column.slot, hfree]
  rw [readMembers, hform.find?_slot hc]
  simp only [htaken]
  cases hread : c.read room d <;>
    simp [Column.slot, hread, bind, Except.bind, pure, Except.pure]

theorem Form.MadeOf.readMembers_other (hform : form.MadeOf columns)
    (hother : ∀ c ∈ columns, c.name ≠ k) (hwhole : d.whole) :
    readMembers form.slots room ((some k, d) :: members) s =
      readMembers form.slots room members s := by
  have hfind : form.slots.find? (·.name = k) = none := by
    rw [hform.slots_eq, List.find?_map]
    simpa [Column.slot] using hother
  simp [readMembers, hfind, hwhole]

end Members

/-- What stands for a field reads as the field's value in a record. -/
def Column.Given (c : Column σ α) (room : Nat) (a : α) : List Draft → Prop :=
  StandsFor (fun d => c.read room d = .ok (c.value a)) (c.spare a)

/-- Each item reads as the field in its place; a field beyond the items may be left out. -/
def Column.Placed (columns : List (Column σ α)) (room : Nat) (a : α) (items : List Draft) : Prop :=
  ∀ (i : Nat) (c : Column σ α), columns[i]? = some c → c.Given room a items[i]?.toList

@[simp] theorem Column.placed_of_nil (items : List Draft) :
    Placed ([] : List (Column σ α)) room a items := by simp [Placed]

theorem Column.placed_nil_iff : Placed columns room a [] ↔ ∀ c ∈ columns, c.spare a := by
  constructor
  · intro h c hc
    obtain ⟨i, hi⟩ := List.getElem?_of_mem hc
    exact h i c hi
  · intro h i c hc
    exact h c (List.mem_of_getElem? hc)

theorem Column.placed_cons_iff {c : Column σ α} {d : Draft} {items : List Draft} :
    Placed (c :: columns) room a (d :: items) ↔
      c.read room d = .ok (c.value a) ∧ Placed columns room a items := by
  constructor
  · intro h
    exact ⟨h 0 c rfl, fun i c' hc' => h (i + 1) c' hc'⟩
  · rintro ⟨hd, h⟩ i c' hc'
    cases i with
    | zero =>
      cases hc'
      exact hd
    | succ i => exact h i c' hc'

/-- The drafts that are records of named fields at all: objects in which what stands under other
names is JSON, and arrays that are not too long. -/
def Fits (names : List String) (m : Medium) : Draft → Prop
  | .object members stray => stray = none ∧ ∀ member ∈ members, ∃ name, member.1 = some name ∧
      (name ∈ names ∨ member.2.whole)
  | .array items stray => stray = none ∧ (m ≠ .table → items.length ≤ names.length)
  | _ => False

/-- Members are read, and the record finished, exactly if at most one stands for each field, reads
as the field's value, and is the first that is read of the field. -/
theorem Form.MadeOf.readMembers_iff (hform : form.MadeOf columns) (room : Nat)
    (members : List (Option String × Draft)) (s : σ) :
    (∃ s', readMembers form.slots room members s = .ok s' ∧ form.finish s' = .ok a) ↔
      (∀ member ∈ members, ∃ name, member.1 = some name ∧
        ((∃ c ∈ columns, c.name = name) ∨ member.2.whole)) ∧
      ∀ c ∈ columns, StandsFor (fun d => c.get s = none ∧ c.read room d = .ok (c.value a))
        (c.Settled s a) (under c.name members) := by
  induction members generalizing s with
  | nil =>
    simp only [readMembers, Except.ok.injEq, exists_eq_left', hform.finish_iff]
    simp [StandsFor]
  | cons member members ih =>
    obtain ⟨name, d⟩ := member
    cases name with
    | none => simp [readMembers]
    | some name =>
      by_cases hfield : ∃ c ∈ columns, c.name = name
      · obtain ⟨c₀, hc₀, rfl⟩ := hfield
        have hhead : ∃ n, some c₀.name = some n ∧ ((∃ c ∈ columns, c.name = n) ∨ d.whole) :=
          ⟨_, rfl, .inl ⟨c₀, hc₀, rfl⟩⟩
        have hothers : ∀ c ∈ columns, c ≠ c₀ →
            under c.name ((some c₀.name, d) :: members) = under c.name members := fun c hc hne =>
          Json.Draft.under_cons_of_ne (hform.apart_of_ne hc hc₀ hne).name_ne.symm d members
        have hself := Json.Draft.under_cons_self c₀.name d members
        rw [List.forall_mem_cons, and_iff_right hhead]
        cases hfree : c₀.get s with
        | some b =>
          -- the field has been read before
          have htaken : readMembers form.slots room ((some c₀.name, d) :: members) s =
              .error (.duplicateField c₀.name) := by
            simp [readMembers, hform.find?_slot hc₀, Column.slot, hfree]
          rw [htaken]
          refine iff_of_false (by simp) ?_
          rintro ⟨-, hall⟩
          have hgiven := hall c₀ hc₀
          rw [hself, hfree] at hgiven
          cases hunder : under c₀.name members <;> simp [StandsFor, hunder] at hgiven
        | none =>
          rw [hform.readMembers_field hc₀ hfree]
          cases hread : c₀.read room d with
          | error e =>
            refine iff_of_false (by simp [bind, Except.bind]) ?_
            rintro ⟨-, hall⟩
            have hgiven := hall c₀ hc₀
            rw [hself] at hgiven
            cases hunder : under c₀.name members <;> simp [StandsFor, hunder, hread] at hgiven
          | ok b =>
            refine Iff.trans (ih (c₀.put b s)) (and_congr_right fun _ => ?_)
            refine forall₂_congr fun c hc => ?_
            by_cases hcc : c = c₀
            · subst hcc
              have hget := hform.get_put c hc b s
              rw [hself]
              cases hunder : under c.name members with
              | nil => simp [StandsFor, Column.settled_put hget, hfree, hread]
              | cons d' ds => cases ds <;> simp [StandsFor, hget]
            · rw [hothers c hc hcc]
              simp only [Column.Settled, (hform.apart_of_ne hc hc₀ hcc).get_put']
      · have hother : ∀ c ∈ columns, c.name ≠ name := fun c hc heq => hfield ⟨c, hc, heq⟩
        have hunder : ∀ c ∈ columns,
            under c.name ((some name, d) :: members) = under c.name members := fun c hc =>
          Json.Draft.under_cons_of_ne (hother c hc).symm d members
        rw [List.forall_mem_cons]
        by_cases hwhole : d.whole
        · rw [hform.readMembers_other hother hwhole, ih]
          have hhead : ∃ n, some name = some n ∧ ((∃ c ∈ columns, c.name = n) ∨ d.whole) :=
            ⟨_, rfl, .inr hwhole⟩
          rw [and_iff_right hhead]
          refine and_congr_right fun _ => forall₂_congr fun c hc => ?_
          rw [hunder c hc]
        · have hfind : form.slots.find? (·.name = name) = none := by
            rw [hform.slots_eq, List.find?_map]
            simpa [Column.slot] using hother
          have hstops : readMembers form.slots room ((some name, d) :: members) s =
              .error .notJson := by
            simp [readMembers, hfind, hwhole]
          rw [hstops]
          refine iff_of_false (by simp) ?_
          rintro ⟨⟨⟨n, hn, hknown⟩, -⟩, -⟩
          cases hn
          rcases hknown with hknown | hknown
          · exact hfield hknown
          · exact hwhole hknown

/-- What is read of items beyond the fields is left. -/
theorem drop_of_readItems {slots : List (Slot σ)} {items beyond : List Draft} {s' : σ}
    (h : readItems room slots items s = .ok (s', beyond)) : beyond = items.drop slots.length := by
  induction slots generalizing items s with
  | nil =>
    cases items <;>
    · cases h
      rfl
  | cons slot slots ih =>
    cases items with
    | nil =>
      cases h
      rfl
    | cons d ds =>
      rw [readItems] at h
      cases hread : slot.read room d s with
      | error e => simp [hread, bind, Except.bind] at h
      | ok s₁ =>
        rw [hread] at h
        exact ih h

/-- The items that are left are read as the fields that are left, and the record finished, exactly
if each is read as the field in its place. -/
theorem Form.MadeOf.readItems_iff (hform : form.MadeOf columns) (room : Nat)
    {before after : List (Column σ α)} (hsplit : columns = before ++ after) (items : List Draft)
    {s : σ} (hs : ∀ c ∈ after, c.get s = none) :
    (∃ s' beyond, readItems room (after.map Column.slot) items s = .ok (s', beyond) ∧
        form.finish s' = .ok a) ↔
      (∀ c ∈ before, c.Settled s a) ∧ Column.Placed after room a items := by
  induction after generalizing before items s with
  | nil =>
    obtain rfl : columns = before := by simpa using hsplit
    have hread : readItems room [] items s = .ok (s, items) := by cases items <;> rfl
    simp [hread, hform.finish_iff]
  | cons c after ih =>
    obtain ⟨-, hafter, hbefore⟩ := List.pairwise_append.mp (hsplit ▸ hform.apart)
    obtain ⟨hapart, -⟩ := List.pairwise_cons.mp hafter
    have hc : c ∈ columns := by simp [hsplit]
    cases items with
    | nil =>
      have hread : readItems room ((c :: after).map Column.slot) [] s = .ok (s, []) := rfl
      have hspare : ∀ c' ∈ c :: after, c'.Settled s a ↔ c'.spare a := fun c' hc' => by
        rw [Column.Settled, hs c' hc']
      have hfinish : form.finish s = .ok a ↔
          (∀ c' ∈ before, c'.Settled s a) ∧ ∀ c' ∈ c :: after, c'.spare a := by
        rw [hform.finish_iff, hsplit, List.forall_mem_append]
        exact and_congr_right fun _ => forall₂_congr hspare
      rw [Column.placed_nil_iff, ← hfinish, hread]
      simp
    | cons d ds =>
      rw [Column.placed_cons_iff, List.map_cons, readItems]
      cases hread : c.read room d with
      | error e =>
        have hslot : c.slot.read room d s = .error e := by
          simp [Column.slot, hread, bind, Except.bind]
        simp [hslot, bind, Except.bind]
      | ok b =>
        have hslot : c.slot.read room d s = .ok (c.put b s) := by
          simp [Column.slot, hread, bind, Except.bind, pure, Except.pure]
        have hsplit' : columns = (before ++ [c]) ++ after := by simp [hsplit]
        have hfree : ∀ c' ∈ after, c'.get (c.put b s) = none := fun c' hc' => by
          rw [(hapart c' hc').get_put]
          exact hs c' (List.mem_cons_of_mem _ hc')
        have hput : ∀ c' ∈ before, c'.Settled (c.put b s) a ↔ c'.Settled s a := fun c' hc' => by
          rw [Column.Settled, (hbefore c' hc' c (by simp)).get_put']
          rfl
        have hrest := ih hsplit' ds hfree
        rw [List.forall_mem_append, List.forall_mem_singleton, forall₂_congr hput,
          Column.settled_put (hform.get_put c hc b s), and_assoc] at hrest
        rw [hslot, Except.ok.injEq]
        exact hrest

theorem names_idxOf (hform : form.MadeOf columns) {i : Nat} {c : Column σ α}
    (hc : columns[i]? = some c) : (columns.map Column.name).idxOf c.name = i := by
  have hnodup : (columns.map Column.name).Nodup := by
    rw [List.Nodup, List.pairwise_map]
    exact hform.apart.imp fun h => h.name_ne
  obtain ⟨hi, rfl⟩ := List.getElem?_eq_some_iff.mp hc
  have hidx := hnodup.idxOf_getElem i (by simpa using hi)
  simpa using hidx

theorem placed_iff_held (hform : form.MadeOf columns) {items : List Draft} {stray : Option Draft} :
    Column.Placed columns room a items ↔
      ∀ c ∈ columns,
        c.Given room a ((Draft.array items stray).held (columns.map Column.name) c.name) := by
  constructor
  · intro h c hc
    obtain ⟨i, hi⟩ := List.getElem?_of_mem hc
    rw [Json.Draft.held, names_idxOf hform hi]
    exact h i c hi
  · intro h i c hc
    have hgiven := h c (List.mem_of_getElem? hc)
    rwa [Json.Draft.held, names_idxOf hform hc] at hgiven

/-- A form reads a record exactly if what is held for each field reads as the field's value, and
what may be left out is at most held once. -/
theorem Form.MadeOf.read_eq_ok_iff (hform : form.MadeOf columns) (m : Medium) (d : Draft) :
    form.read m (room + 1) d = .ok a ↔
      Fits (columns.map Column.name) m d ∧
        ∀ c ∈ columns, c.Given room a (d.held (columns.map Column.name) c.name) := by
  cases d with
  | object members stray =>
    have hmembers := hform.readMembers_iff (a := a) room members form.start
    have hstart : ∀ c ∈ columns, StandsFor
        (fun d => c.get form.start = none ∧ c.read room d = .ok (c.value a))
        (c.Settled form.start a) (under c.name members) ↔
          c.Given room a (under c.name members) := fun c hc => by
      have hget := hform.get_start c hc
      refine StandsFor.congr (fun d _ => and_iff_right hget) ?_
      rw [Column.Settled, hget]
    rw [forall₂_congr hstart] at hmembers
    simp only [Fits, List.mem_map, Json.Draft.held, and_assoc]
    rw [← hmembers, Form.read]
    cases readMembers form.slots room members form.start with
    | error e => simp [bind, Except.bind]
    | ok s =>
      cases stray with
      | some d => simp [bind, Except.bind]
      | none => cases hfinish : form.finish s <;> simp [bind, Except.bind, Except.mapError, hfinish]
  | array items stray =>
    have hitems := hform.readItems_iff (a := a) room
      (List.nil_append columns).symm items hform.get_start
    rw [and_iff_right (by simp)] at hitems
    simp only [← placed_iff_held hform, Fits, List.length_map, and_assoc]
    rw [← hitems, ← hform.slots_eq, Form.read]
    cases hread : readItems room form.slots items form.start with
    | error e => simp [bind, Except.bind]
    | ok result =>
      obtain ⟨s, beyond⟩ := result
      have hbeyond : beyond = [] ↔ items.length ≤ columns.length := by
        rw [drop_of_readItems hread, List.drop_eq_nil_iff, hform.slots_eq, List.length_map]
      cases stray with
      | some d => simp [bind, Except.bind]
      | none =>
        cases m <;> cases beyond <;> cases hfinish : form.finish s <;>
          simp [bind, Except.bind, Except.mapError, hfinish, ← hbeyond]
  | null | bool | int | float | vast | string | halved | broken =>
    simp [Form.read, Fits]

end Shape

end ContentPlayer
