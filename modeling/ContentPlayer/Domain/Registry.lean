import ContentPlayer.Asset.Basic
import ContentPlayer.LoaderInfo

namespace ContentPlayer

/-- A registered value, and the loading that brought it. -/
structure Registered (α : Type) where
  value : α
  loader : Option LoaderInfo
  deriving BEq, Repr

/-- Values by name, each name once. -/
structure Registry (α : Type) where
  entries : List (String × Registered α) := []

namespace Registry

variable {α : Type}

def get? (r : Registry α) (name : String) : Option (Registered α) := r.entries.lookup name

def contains (r : Registry α) (name : String) : Bool := (r.get? name).isSome

def size (r : Registry α) : Nat := r.entries.length

def isEmpty (r : Registry α) : Bool := r.entries.isEmpty

def names (r : Registry α) : List String := (r.entries.map (·.1)).mergeSort fun a b => !(b < a)

def replace (name : String) (entry : Registered α) :
    List (String × Registered α) → List (String × Registered α)
  | [] => [(name, entry)]
  | (k, e) :: rest => if k = name then (k, entry) :: rest else (k, e) :: replace name entry rest

/-- Registers a value; one that had the name before is replaced and given back. -/
def insert (r : Registry α) (name : String) (value : α) (loader : Option LoaderInfo) :
    Registry α × Option (Registered α) :=
  (⟨replace name ⟨value, loader⟩ r.entries⟩, r.get? name)

theorem lookup_replace (name k : String) (entry : Registered α)
    (entries : List (String × Registered α)) :
    (replace name entry entries).lookup k = if k = name then some entry else entries.lookup k := by
  induction entries with
  | nil => grind [replace]
  | cons e rest ih => grind [replace]

/-- The name has the new value, and every other name what it had. -/
theorem get?_insert (r : Registry α) (name k : String) (value : α) (loader : Option LoaderInfo) :
    (r.insert name value loader).1.get? k =
      if k = name then some ⟨value, loader⟩ else r.get? k :=
  lookup_replace name k ⟨value, loader⟩ r.entries

end Registry

inductive Definition where
  | text (asset : TextAsset)
  | image (asset : ImageAsset)
  | sprite (template : Template)
  | scene (template : Template)
  | generic (data : Json)

namespace Definition

/-- What display objects of this definition are copies of. -/
def template? : Definition → Option Template
  | .sprite t => some t
  | .scene t => some t
  | _ => none

def payload : Definition → Payload
  | .text a => .text a
  | .image a => .image a
  | .sprite t => .sprite t
  | .scene t => .scene t
  | .generic data => .generic data

end Definition

def Payload.definition? : Payload → Option Definition
  | .text a => some (.text a)
  | .image a => some (.image a)
  | .sprite t => some (.sprite t)
  | .scene t => some (.scene t)
  | .generic data => some (.generic data)
  | _ => none

inductive RegistryKind where
  | definitions
  | audio
  | fonts
  deriving DecidableEq, Repr

def RegistryKind.name : RegistryKind → String
  | .definitions => "Definitions"
  | .audio => "Audio"
  | .fonts => "Fonts"

structure Registries where
  definitions : Registry Definition := {}
  audio : Registry AudioAsset := {}
  fonts : Registry FontAsset := {}

namespace Registries

def sizeOf (r : Registries) : RegistryKind → Nat
  | .definitions => r.definitions.size
  | .audio => r.audio.size
  | .fonts => r.fonts.size

/-- Registers a definition; one that had the name before is given back. -/
def define (r : Registries) (name : String) (d : Definition) (loader : Option LoaderInfo) :
    Registries × Option (Registered Definition) :=
  let (definitions, old) := r.definitions.insert name d loader
  ({ r with definitions }, old)

def addAudio (r : Registries) (name : String) (a : AudioAsset) (loader : Option LoaderInfo) :
    Registries :=
  { r with audio := (r.audio.insert name a loader).1 }

def addFont (r : Registries) (name : String) (a : FontAsset) (loader : Option LoaderInfo) :
    Registries :=
  { r with fonts := (r.fonts.insert name a loader).1 }

end Registries

end ContentPlayer
