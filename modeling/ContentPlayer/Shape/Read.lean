import ContentPlayer.Shape.Fault

namespace ContentPlayer.Shape

open ContentPlayer.Json (Draft)

/-- Where data comes from: JSON text, a JSON value, or a table of a configuration file. They differ
in a few rules on lengths and on how a choice is written. -/
inductive Medium where
  | text
  | value
  | table
  deriving DecidableEq, Repr

/-- Reads a draft inside which so many more arrays and objects may be opened. -/
abbrev Reader (α : Type) := Nat → Draft → Except Fault α

def readText (expected : String) : Draft → Except Fault String
  | .string s => .ok s
  | d => .error (mismatch d expected)

def readFlag : Draft → Except Fault Bool
  | .bool b => .ok b
  | d => .error (mismatch d "a boolean")

/-- A natural number below a limit. -/
def readNatural (limit : Nat) (expected : String) : Draft → Except Fault Nat
  | .int n => if 0 ≤ n && n < limit then .ok n.toNat else .error (.invalidInteger n expected)
  | d => .error (mismatch d expected)

/-- Null stands for none. -/
def readOptional (read : Draft → Except Fault α) : Draft → Except Fault (Option α)
  | .null => .ok none
  | d => (read d).map some

def readAll (read : Draft → Except Fault α) : List Draft → Except Fault (List α)
  | [] => .ok []
  | d :: ds => do
    let a ← read d
    return a :: (← readAll read ds)

/-- A list; its items are read with one level less. -/
def readList (read : Reader α) : Reader (List α)
  | 0, .array _ _ => .error .notJson
  | room + 1, .array items stray => do
    let xs ← readAll (read room) items
    if stray.isSome then .error .notJson else .ok xs
  | _, d => .error (mismatch d "a sequence")

/-- A field of a record of which `σ` is what has been read so far. -/
structure Slot (σ : Type) where
  name : String
  taken : σ → Bool
  read : Nat → Draft → σ → Except Fault σ

/-- A record's name, its fields in order, what is known before any is read, and the record once all
are; the latter names the first field that is missing. -/
structure Form (σ α : Type) where
  name : String
  slots : List (Slot σ)
  start : σ
  finish : σ → Except String α

/-- A field that must be given: what has been read of it, or its name. -/
def required (name : String) (read : Option α) : Except String α :=
  match read with
  | some a => .ok a
  | none => .error name

/-- Reads members by name. Names of no field are passed over, if only their text is JSON. -/
def readMembers (slots : List (Slot σ)) (room : Nat) :
    List (Option String × Draft) → σ → Except Fault σ
  | [], s => .ok s
  | (none, _) :: _, _ => .error .notJson
  | (some name, d) :: rest, s =>
    match slots.find? (·.name = name) with
    | none => if d.whole then readMembers slots room rest s else .error .notJson
    | some slot =>
      if slot.taken s then .error (.duplicateField name)
      else do readMembers slots room rest (← slot.read room d s)

/-- Reads items as fields in order, and gives what lies beyond the last field. -/
def readItems (room : Nat) : List (Slot σ) → List Draft → σ → Except Fault (σ × List Draft)
  | slot :: slots, d :: ds, s => do readItems room slots ds (← slot.read room d s)
  | _, ds, s => .ok (s, ds)

def elements (n : Nat) : String := if n = 1 then "1 element" else s!"{n} elements"

/-- A record is an object of its fields or an array of them in order. -/
def Form.read (form : Form σ α) (m : Medium) : Reader α
  | 0, .array _ _ => .error .notJson
  | 0, .object _ _ => .error .notJson
  | room + 1, .object members stray => do
    let s ← readMembers form.slots room members form.start
    if stray.isSome then .error .notJson
    else (form.finish s).mapError .missingField
  | room + 1, .array items stray => do
    let (s, beyond) ← readItems room form.slots items form.start
    if stray.isSome then .error .notJson
    else if m = .text && !beyond.isEmpty then .error .notJson
    else if m = .value && !beyond.isEmpty then
      .error (.invalidLength items.length "fewer elements in array")
    else (form.finish s).mapError fun _ =>
      .invalidLength items.length s!"{form.name} with {elements form.slots.length}"
  | _, d => .error (mismatch d form.name)

/-- What a variant's name comes with. -/
inductive Content where
  | nothing
  | value (d : Draft)

/-- A choice is the name of a variant, or an object whose one member is named by it. -/
def readChoice (m : Medium) (known : List String)
    (read : String → Content → Nat → Except Fault α) : Reader α
  | room, .string name =>
    if known.contains name then read name .nothing room else .error (.unknownVariant name known)
  | room, .object members stray =>
    match m with
    | .text =>
      match room, members with
      | 0, _ => .error .notJson
      | _, [] => .error ((stray.map (mismatch · "variant identifier")).getD .notJson)
      | _, (none, _) :: _ => .error .notJson
      | room + 1, (some name, d) :: rest =>
        if known.contains name then do
          let a ← read name (.value d) room
          if rest.isEmpty && stray.isNone then .ok a else .error .notJson
        else .error (.unknownVariant name known)
    | _ =>
      match room, members with
      | room + 1, [(some name, d)] =>
        if known.contains name then read name (.value d) room
        else .error (.unknownVariant name known)
      | _, _ => .error .notSingleKey
  | _, d =>
    match m with
    | .text => .error .notJson
    | _ => .error (mismatch d "string or map")

/-- A variant without content may come with null, in tables with something empty. -/
def readUnit (m : Medium) : Content → Except Fault Unit
  | .nothing => .ok ()
  | .value d =>
    match m, d with
    | .table, .array [] none => .ok ()
    | .table, .object [] none => .ok ()
    | .table, d => .error (mismatch d "unit")
    | _, .null => .ok ()
    | _, d => .error (mismatch d "unit")

/-- A variant with content must come with it. -/
def readNewtype (read : Draft → Except Fault α) : Content → Except Fault α
  | .nothing => .error (.invalidType "unit variant" "newtype variant")
  | .value d => read d

/-- A variant with fields of its own. -/
def readFields (form : Form σ α) (m : Medium) (room : Nat) : Content → Except Fault α
  | .nothing => .error (.invalidType "unit variant" "struct variant")
  | .value d =>
    match m, d with
    | .text, d => form.read m room d
    | _, .array items stray => form.read m room (.array items stray)
    | _, .object members stray => form.read m room (.object members stray)
    | _, d => .error (mismatch d "struct variant")

mutual
def readAny : Reader Json
  | _, .null => .ok .null
  | _, .bool b => .ok (.bool b)
  | _, .int n => .ok (.int n)
  | _, .float x => .ok (.float x)
  | _, .string s => .ok (.string s)
  | 0, .array _ _ => .error .notJson
  | room + 1, .array items stray => do
    let vs ← readAnyItems room items
    if stray.isSome then .error .notJson else .ok (.array vs)
  | 0, .object _ _ => .error .notJson
  | room + 1, .object members stray => do
    let vs ← readAnyMembers room members
    if stray.isSome then .error .notJson else .ok (.ofMembers vs)
  | _, _ => .error .notJson

def readAnyItems (room : Nat) : List Draft → Except Fault (List Json)
  | [] => .ok []
  | d :: ds => do
    let v ← readAny room d
    return v :: (← readAnyItems room ds)

def readAnyMembers (room : Nat) : List (Option String × Draft) → Except Fault (List (String × Json))
  | [] => .ok []
  | (none, _) :: _ => .error .notJson
  | (some k, d) :: ds => do
    let v ← readAny room d
    return (k, v) :: (← readAnyMembers room ds)
end

/-- How many arrays and objects a text may open in one another. -/
def textRoom : Nat := 127

def ofText (read : Reader α) (text : String) : Except Fault α := do
  let document := Json.Document.ofText text
  let a ← read textRoom document.value
  if document.ends then .ok a else .error .notJson

/-- Reads a value, however deep. -/
def ofDraft (read : Reader α) (d : Draft) : Except Fault α := read d.depth d

def ofValue (read : Reader α) (v : Json) : Except Fault α := ofDraft read v.draft

end ContentPlayer.Shape
