import ContentPlayer.Session.Dispatch
import Mathlib.Data.Finset.Card

namespace ContentPlayer

/-- The registry that a payload goes into, if any. -/
def Payload.kind? : Payload → Option RegistryKind
  | .text _ => some .definitions
  | .image _ => some .definitions
  | .sprite _ => some .definitions
  | .scene _ => some .definitions
  | .generic _ => some .definitions
  | .audio _ => some .audio
  | .font _ => some .fonts
  | .graphic _ => none
  | .unknown _ => none

/-- An asset of a name that goes into a registry. -/
def Asset.GoesTo (a : Asset) (kind : RegistryKind) (name : String) : Prop :=
  a.payload.kind? = some kind ∧ a.name = name

instance (a : Asset) (kind : RegistryKind) (name : String) : Decidable (a.GoesTo kind name) :=
  inferInstanceAs (Decidable (_ ∧ _))

namespace Registry

variable {α : Type}

theorem length_replace (name : String) (entry : Registered α)
    (entries : List (String × Registered α)) :
    (replace name entry entries).length =
      if (entries.lookup name).isSome then entries.length else entries.length + 1 := by
  induction entries with
  | nil => rfl
  | cons e rest ih =>
    obtain ⟨k, old⟩ := e
    by_cases hk : k = name
    · simp [replace, hk]
    · have hlookup : ((k, old) :: rest).lookup name = rest.lookup name := by
        simp [List.lookup_cons, beq_false_of_ne (Ne.symm hk)]
      rw [replace, if_neg hk, List.length_cons, ih, hlookup]
      split <;> rfl

/-- A name is counted when it is new. -/
theorem size_insert (r : Registry α) (name : String) (value : α) (loader : Option LoaderInfo) :
    (r.insert name value loader).1.size = if (r.get? name).isSome then r.size else r.size + 1 :=
  length_replace name ⟨value, loader⟩ r.entries

end Registry

namespace Registries

/-- What a registry has under a name, as a payload, with the loading that brought it. -/
def held? (r : Registries) (kind : RegistryKind) (name : String) :
    Option (Payload × Option LoaderInfo) :=
  match kind with
  | .definitions => (r.definitions.get? name).map fun e => (e.value.payload, e.loader)
  | .audio => (r.audio.get? name).map fun e => (.audio e.value, e.loader)
  | .fonts => (r.fonts.get? name).map fun e => (.font e.value, e.loader)

section Accept

variable (r : Registries) (a : Asset) (loader : Option LoaderInfo) (kind : RegistryKind)

/-- An asset changes what its name stands for in the registry it goes into, and nothing else. -/
theorem held?_accept (name : String) :
    (r.accept a.name a.payload loader).1.held? kind name =
      if a.GoesTo kind name then some (a.payload, loader) else r.held? kind name := by
  obtain ⟨k, payload, _⟩ := a
  have hname : (name = k) = (k = name) := propext eq_comm
  cases payload <;> cases kind <;>
    simp only [Asset.GoesTo, Payload.kind?, accept, define, addAudio, addFont, held?,
      Registry.get?_insert, hname, Option.some.injEq, reduceCtorEq, false_and, true_and,
      if_false] <;>
    split <;> rfl

theorem sizeOf_accept :
    (r.accept a.name a.payload loader).1.sizeOf kind =
      if a.payload.kind? = some kind ∧ r.held? kind a.name = none then r.sizeOf kind + 1
      else r.sizeOf kind := by
  obtain ⟨k, payload, _⟩ := a
  cases payload <;> cases kind <;>
    simp only [Payload.kind?, accept, define, addAudio, addFont, held?, sizeOf,
      Registry.size_insert, Option.some.injEq, reduceCtorEq, false_and, true_and, if_false,
      Option.map_eq_none_iff, Option.isSome_iff_ne_none, ite_not]

end Accept

/-- What registries hold that have taken some assets: under each name the latest asset that went
there, and as many entries as there are names. -/
structure Hold (r : Registries) (assets : List Asset) (loader : Option LoaderInfo) : Prop where
  holds_iff : ∀ kind name, r.held? kind name ≠ none ↔ ∃ a ∈ assets, a.GoesTo kind name
  latest : ∀ front a rest kind, assets = front ++ a :: rest → a.GoesTo kind a.name →
    (∀ b ∈ rest, ¬ b.GoesTo kind a.name) → r.held? kind a.name = some (a.payload, loader)
  sizeOf_eq : ∀ kind, r.sizeOf kind =
    ((assets.filter fun a => a.payload.kind? = some kind).map Asset.name).toFinset.card

theorem hold_empty (loader : Option LoaderInfo) : ({} : Registries).Hold [] loader where
  holds_iff := by
    intro kind name
    cases kind <;> simp [held?, Registry.get?]
  latest := by simp
  sizeOf_eq := by
    intro kind
    cases kind <;> rfl

section Accept

variable {r : Registries} {assets : List Asset} {loader : Option LoaderInfo} {a : Asset}

theorem Hold.sizeOf_accept (hr : r.Hold assets loader) (kind : RegistryKind) :
    (r.accept a.name a.payload loader).1.sizeOf kind =
      (((assets ++ [a]).filter fun b => b.payload.kind? = some kind).map
        Asset.name).toFinset.card := by
  have hthere : r.held? kind a.name ≠ none ↔
      a.name ∈ (assets.filter fun b => b.payload.kind? = some kind).map Asset.name := by
    rw [hr.holds_iff]
    simp [Asset.GoesTo, and_assoc]
  rw [Registries.sizeOf_accept, hr.sizeOf_eq, List.filter_append, List.map_append,
    List.toFinset_append]
  by_cases hkind : a.payload.kind? = some kind
  · have hsingle : ([a].filter fun b => b.payload.kind? = some kind) = [a] := by simp [hkind]
    rw [hsingle, List.map_singleton, List.toFinset_cons, List.toFinset_nil, insert_empty_eq,
      Finset.union_comm, ← Finset.insert_eq]
    by_cases hnew : r.held? kind a.name = none
    · have hfresh := mt hthere.mpr (not_not.mpr hnew)
      rw [if_pos ⟨hkind, hnew⟩, Finset.card_insert_of_notMem (by rwa [List.mem_toFinset])]
    · have hold := hthere.mp hnew
      rw [if_neg fun h => hnew h.2, Finset.insert_eq_of_mem (List.mem_toFinset.mpr hold)]
  · simp [hkind]

/-- The asset that registries take last is the latest in the place where it goes. -/
theorem Hold.accept (hr : r.Hold assets loader) (a : Asset) :
    (r.accept a.name a.payload loader).1.Hold (assets ++ [a]) loader where
  holds_iff := by
    intro kind name
    have hold := hr.holds_iff kind name
    rw [held?_accept]
    by_cases hgoes : a.GoesTo kind name
    · simp [hgoes]
    · simp [hgoes, hold]
  latest := by
    intro front b rest kind hsplit hb hlater
    rw [held?_accept]
    rcases List.eq_nil_or_concat rest with rfl | ⟨rest', c, rfl⟩
    · obtain ⟨rfl, hab⟩ := List.append_inj' hsplit rfl
      obtain rfl : a = b := List.singleton_inj.mp hab
      rw [if_pos hb]
    · -- the asset comes after the one in question, and goes elsewhere
      have hsplit' : assets ++ [a] = (front ++ b :: rest') ++ [c] := by simpa using hsplit
      obtain ⟨rfl, hac⟩ := List.append_inj' hsplit' rfl
      obtain rfl : a = c := List.singleton_inj.mp hac
      rw [if_neg (hlater a (by simp))]
      exact hr.latest front b rest' kind rfl hb fun e he => hlater e (by simp [he])
  sizeOf_eq := hr.sizeOf_accept

end Accept

/-- One name in two registries, and twice in one of them. -/
example :
    let assets : List Asset := [{ name := "a", payload := .text { text := "old" } },
      { name := "a", payload := .audio { sampleRate := 44100, channels := 2 } },
      { name := "a", payload := .text { text := "new" } }]
    let r : Registries := assets.foldl (fun r a => (r.accept a.name a.payload none).1) {}
    [r.sizeOf .definitions, r.sizeOf .audio, r.sizeOf .fonts] = [1, 1, 0] := rfl

end Registries

end ContentPlayer
