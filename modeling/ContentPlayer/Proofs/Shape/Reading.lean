import ContentPlayer.Shape.Read
import Mathlib.Data.List.Forall2
import Mathlib.Data.List.Nodup

namespace ContentPlayer

open ContentPlayer.Json (Draft)

theorem forall₂_eq_map {α β : Type} {f : α → β} {as : List α} {bs : List β} :
    List.Forall₂ (fun a b => b = f a) as bs ↔ bs = as.map f := by
  induction as generalizing bs with
  | nil => simp
  | cons a as ih => simp [List.forall₂_cons_left_iff, ih]

namespace Json

namespace Draft

mutual
/-- No object holds two members of one name. -/
def Distinct : Draft → Prop
  | .array items _ => DistinctItems items
  | .object members _ => (members.map Prod.fst).Nodup ∧ DistinctMembers members
  | _ => True

def DistinctItems : List Draft → Prop
  | [] => True
  | d :: ds => d.Distinct ∧ DistinctItems ds

def DistinctMembers : List (Option String × Draft) → Prop
  | [] => True
  | (_, d) :: ds => d.Distinct ∧ DistinctMembers ds
end

end Draft

/-- A text writes a value: it reads as that value, and no object in it holds a name twice. -/
structure WrittenBy (v : Json) (text : String) : Prop where
  reads : Shape.ofText Shape.readAny text = .ok v
  distinct : (Document.ofText text).value.Distinct

section Members

variable {k : String} {v : Json} {members : List (String × Json)}

theorem insertMember_perm (hk : k ∉ members.map Prod.fst) :
    (insertMember k v members).Perm ((k, v) :: members) := by
  induction members with
  | nil => exact .refl _
  | cons m rest ih =>
    obtain ⟨k', w⟩ := m
    simp only [List.map_cons, List.mem_cons, not_or] at hk
    obtain ⟨hne, hrest⟩ := hk
    simp only [insertMember, if_neg hne]
    split
    · exact .refl _
    · exact ((ih hrest).cons _).trans (.swap _ _ _)

/-- Members of different names are all kept. -/
theorem ofMembers_perm (hnodup : (members.map Prod.fst).Nodup) :
    ∃ sorted, ofMembers members = .object sorted ∧ sorted.Perm members := by
  suffices hfold : ∀ acc : List (String × Json), ((acc ++ members).map Prod.fst).Nodup →
      (members.foldl (fun acc m => insertMember m.1 m.2 acc) acc).Perm (acc ++ members) by
    exact ⟨_, rfl, hfold [] hnodup⟩
  clear hnodup
  induction members with
  | nil => simp
  | cons m rest ih =>
    intro acc hnodup
    obtain ⟨k, v⟩ := m
    have hswap : (acc ++ (k, v) :: rest).Perm ((k, v) :: acc ++ rest) := List.perm_middle
    have hnodup' := ((hswap.map Prod.fst).nodup_iff).mp hnodup
    have hk : k ∉ acc.map Prod.fst := by
      intro hmem
      have hnot := (List.nodup_cons.mp hnodup').1
      exact hnot (by simp [List.mem_map.mp hmem])
    have hinsert := insertMember_perm (v := v) hk
    have hshift := hinsert.append_right rest
    refine (ih _ ?_).trans (hshift.trans hswap.symm)
    exact ((hshift.map Prod.fst).nodup_iff).mpr hnodup'

theorem lookup_eq_some_iff (hnodup : (members.map Prod.fst).Nodup) :
    members.lookup k = some v ↔ (k, v) ∈ members := by
  induction members with
  | nil => simp
  | cons m rest ih =>
    obtain ⟨k', w⟩ := m
    simp only [List.map_cons, List.nodup_cons] at hnodup
    obtain ⟨hk', hrest⟩ := hnodup
    rw [List.lookup_cons]
    by_cases hk : k = k'
    · subst hk
      have hnot : (k, v) ∉ rest := fun hmem => hk' (List.mem_map_of_mem (f := Prod.fst) hmem)
      simp [hnot, eq_comm]
    · have hbeq : (k == k') = false := by simpa using hk
      simp [hbeq, hk, ih hrest]

theorem lookup_perm {members' : List (String × Json)} (hperm : members'.Perm members)
    (hnodup : (members.map Prod.fst).Nodup) : members'.lookup k = members.lookup k := by
  have hnodup' : (members'.map Prod.fst).Nodup := (hperm.map Prod.fst).nodup_iff.mpr hnodup
  refine Option.ext fun v => ?_
  rw [lookup_eq_some_iff hnodup', lookup_eq_some_iff hnodup, hperm.mem_iff]

end Members

end Json

namespace Shape

variable {room : Nat} {d : Draft} {v : Json}

theorem readAnyItems_eq_ok {items : List Draft} {vs : List Json} :
    readAnyItems room items = .ok vs ↔
      List.Forall₂ (fun d v => readAny room d = .ok v) items vs := by
  induction items generalizing vs with
  | nil => simp [readAnyItems, eq_comm]
  | cons d ds ih =>
    rw [List.forall₂_cons_left_iff, readAnyItems]
    cases hd : readAny room d with
    | error e => simp [bind, Except.bind]
    | ok v =>
      cases hds : readAnyItems room ds with
      | error e => simp [bind, Except.bind, ← ih, hds]
      | ok rest => simp [bind, Except.bind, pure, Except.pure, ← ih, hds, @eq_comm _ vs]

theorem readAnyMembers_eq_ok {members : List (Option String × Draft)}
    {vs : List (String × Json)} :
    readAnyMembers room members = .ok vs ↔
      List.Forall₂ (fun m v => m.1 = some v.1 ∧ readAny room m.2 = .ok v.2) members vs := by
  induction members generalizing vs with
  | nil => simp [readAnyMembers, eq_comm]
  | cons m rest ih =>
    obtain ⟨name, d⟩ := m
    rw [List.forall₂_cons_left_iff]
    cases name with
    | none => simp [readAnyMembers]
    | some k =>
      rw [readAnyMembers]
      cases hd : readAny room d with
      | error e => simp [bind, Except.bind]
      | ok v =>
        cases hrest : readAnyMembers room rest with
        | error e => simp [bind, Except.bind, ← ih, hrest]
        | ok ms => simp [bind, Except.bind, pure, Except.pure, ← ih, hrest, @eq_comm _ vs]

/-- How a draft reads as a value. -/
inductive Reads : Nat → Draft → Json → Prop where
  | null (room : Nat) : Reads room .null .null
  | bool (room : Nat) (b : Bool) : Reads room (.bool b) (.bool b)
  | int (room : Nat) (n : Int) : Reads room (.int n) (.int n)
  | float (room : Nat) (x : Float) : Reads room (.float x) (.float x)
  | string (room : Nat) (s : String) : Reads room (.string s) (.string s)
  | array {room : Nat} {items : List Draft} {vs : List Json}
      (hitems : List.Forall₂ (fun d v => readAny room d = .ok v) items vs) :
      Reads (room + 1) (.array items none) (.array vs)
  | object {room : Nat} {members : List (Option String × Draft)} {vs : List (String × Json)}
      (hmembers :
        List.Forall₂ (fun m v => m.1 = some v.1 ∧ readAny room m.2 = .ok v.2) members vs) :
      Reads (room + 1) (.object members none) (.ofMembers vs)

theorem reads_of_readAny (h : readAny room d = .ok v) : Reads room d v := by
  cases d with
  | null =>
    cases h
    exact .null room
  | bool b =>
    cases h
    exact .bool room b
  | int n =>
    cases h
    exact .int room n
  | float x =>
    cases h
    exact .float room x
  | string s =>
    cases h
    exact .string room s
  | vast => cases h
  | halved => cases h
  | broken => cases h
  | array items stray =>
    cases room with
    | zero => cases h
    | succ room =>
      rw [readAny] at h
      cases hitems : readAnyItems room items with
      | error e => simp [hitems, bind, Except.bind] at h
      | ok vs =>
        cases stray with
        | some d => simp [hitems, bind, Except.bind] at h
        | none =>
          obtain rfl : .array vs = v := by simpa [hitems, bind, Except.bind] using h
          exact .array (readAnyItems_eq_ok.mp hitems)
  | object members stray =>
    cases room with
    | zero => cases h
    | succ room =>
      rw [readAny] at h
      cases hmembers : readAnyMembers room members with
      | error e => simp [hmembers, bind, Except.bind] at h
      | ok vs =>
        cases stray with
        | some d => simp [hmembers, bind, Except.bind] at h
        | none =>
          obtain rfl : Json.ofMembers vs = v := by simpa [hmembers, bind, Except.bind] using h
          exact .object (readAnyMembers_eq_ok.mp hmembers)

mutual
/-- What reads as a value is JSON throughout. -/
theorem whole_of_readAny {room : Nat} {d : Draft} {v : Json} (h : readAny room d = .ok v) :
    d.whole = true := by
  cases d with
  | null | bool | int | float | string | vast | halved => rfl
  | broken => cases h
  | array items stray =>
    cases reads_of_readAny h with
    | array hitems => simpa [Draft.whole] using wholeItems_of_readAny hitems
  | object members stray =>
    generalize hv : v = v' at h
    cases reads_of_readAny h with
    | object hmembers => simpa [Draft.whole] using wholeMembers_of_readAny hmembers

theorem wholeItems_of_readAny {room : Nat} {items : List Draft} {vs : List Json}
    (h : List.Forall₂ (fun d v => readAny room d = .ok v) items vs) :
    Draft.wholeItems items = true := by
  cases items with
  | nil => rfl
  | cons d ds =>
    cases h with
    | cons hd hds =>
      simp [Draft.wholeItems, whole_of_readAny hd, wholeItems_of_readAny hds]

theorem wholeMembers_of_readAny {room : Nat} {members : List (Option String × Draft)}
    {vs : List (String × Json)}
    (h : List.Forall₂ (fun m v => m.1 = some v.1 ∧ readAny room m.2 = .ok v.2) members vs) :
    Draft.wholeMembers members = true := by
  cases members with
  | nil => rfl
  | cons m rest =>
    obtain ⟨name, d⟩ := m
    cases h with
    | cons hm hrest =>
      simp [Draft.wholeMembers, whole_of_readAny hm.2, wholeMembers_of_readAny hrest]
end

end Shape

end ContentPlayer
