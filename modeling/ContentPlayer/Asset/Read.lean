import ContentPlayer.Asset.Basic
import ContentPlayer.Shape.Read

namespace ContentPlayer

open ContentPlayer.Json (Draft)
open ContentPlayer.Shape (Reader Medium Form Fault Content)

def readBytes : Reader (List UInt8) :=
  Shape.readList fun _ d => (Shape.readNatural UInt8.size "u8" d).map Nat.toUInt8

def readWord (d : Draft) : Except Fault UInt32 :=
  (Shape.readNatural UInt32.size "u32" d).map Nat.toUInt32

/-- Records as far as they have been read. -/
structure TemplateFields where
  name : Option String := none
  frames : Option UInt32 := none
  constructor : Option (Option String) := none
  children : Option (List Template) := none

/-- The form of a template whose children are read as given. -/
def templateForm (child : Reader Template) : Form TemplateFields Template where
  name := "struct DisplayTemplate"
  slots := [
    ⟨"name", (·.name.isSome),
      fun _ d s => do return { s with name := some (← Shape.readText "a string" d) }⟩,
    ⟨"frames", (·.frames.isSome), fun _ d s => do return { s with frames := some (← readWord d) }⟩,
    ⟨"constructor", (·.constructor.isSome), fun _ d s => do
      return { s with constructor := some (← Shape.readOptional (Shape.readText "a string") d) }⟩,
    ⟨"children", (·.children.isSome), fun room d s => do
      return { s with children := some (← Shape.readList child room d) }⟩]
  start := {}
  finish := fun s => do
    let name ← Shape.required "name" s.name
    return ⟨name, s.frames.getD 1, s.constructor.getD none, s.children.getD []⟩

/-- A template and the list of its children are two levels. -/
def readTemplate (m : Medium) : Reader Template
  | 0, d => (templateForm fun _ _ => .error .notJson).read m 0 d
  | 1, d => (templateForm fun _ _ => .error .notJson).read m 1 d
  | room + 2, d => (templateForm fun _ d => readTemplate m room d).read m (room + 2) d

structure TextFields where
  text : Option String := none
  html : Option Bool := none

def textForm : Form TextFields TextAsset where
  name := "struct TextAsset"
  slots := [
    ⟨"text", (·.text.isSome),
      fun _ d s => do return { s with text := some (← Shape.readText "a string" d) }⟩,
    ⟨"html", (·.html.isSome), fun _ d s => do return { s with html := some (← Shape.readFlag d) }⟩]
  start := {}
  finish := fun s => do return ⟨← Shape.required "text" s.text, s.html.getD false⟩

structure ImageFields where
  width : Option UInt32 := none
  height : Option UInt32 := none
  rgba : Option (List UInt8) := none

def imageForm : Form ImageFields ImageAsset where
  name := "struct ImageAsset"
  slots := [
    ⟨"width", (·.width.isSome), fun _ d s => do return { s with width := some (← readWord d) }⟩,
    ⟨"height", (·.height.isSome), fun _ d s => do return { s with height := some (← readWord d) }⟩,
    ⟨"rgba", (·.rgba.isSome),
      fun room d s => do return { s with rgba := some (← readBytes room d) }⟩]
  start := {}
  finish := fun s => do
    return ⟨← Shape.required "width" s.width, ← Shape.required "height" s.height, s.rgba.getD []⟩

structure AudioFields where
  sampleRate : Option UInt32 := none
  channels : Option UInt16 := none
  data : Option (List UInt8) := none

def audioForm : Form AudioFields AudioAsset where
  name := "struct AudioAsset"
  slots := [
    ⟨"sample_rate", (·.sampleRate.isSome),
      fun _ d s => do return { s with sampleRate := some (← readWord d) }⟩,
    ⟨"channels", (·.channels.isSome), fun _ d s => do
      return { s with channels := some (← Shape.readNatural UInt16.size "u16" d).toUInt16 }⟩,
    ⟨"data", (·.data.isSome),
      fun room d s => do return { s with data := some (← readBytes room d) }⟩]
  start := {}
  finish := fun s => do
    return ⟨← Shape.required "sample_rate" s.sampleRate, ← Shape.required "channels" s.channels,
      s.data.getD []⟩

structure FontFields where
  family : Option String := none
  glyphCount : Option UInt32 := none

def fontForm : Form FontFields FontAsset where
  name := "struct FontAsset"
  slots := [
    ⟨"family", (·.family.isSome),
      fun _ d s => do return { s with family := some (← Shape.readText "a string" d) }⟩,
    ⟨"glyph_count", (·.glyphCount.isSome),
      fun _ d s => do return { s with glyphCount := some (← readWord d) }⟩]
  start := {}
  finish := fun s => do return ⟨← Shape.required "family" s.family, s.glyphCount.getD 0⟩

/-- A record of one field that must be given. -/
def singleForm (recordName field : String) (read : Reader α) : Form (Option α) α where
  name := recordName
  slots := [⟨field, (·.isSome), fun room d _ => do return some (← read room d)⟩]
  start := none
  finish := Shape.required field

def readGraphic (m : Medium) : Reader GraphicKind :=
  Shape.readChoice m (GraphicKind.all.map GraphicKind.name) fun name content _ => do
    Shape.readUnit m content
    match GraphicKind.all.find? (·.name = name) with
    | some kind => .ok kind
    | none => .error (.unknownVariant name (GraphicKind.all.map GraphicKind.name))

/-- The content of a variant of the given type. -/
def readContent (m : Medium) (type : AssetType) (content : Content) (room : Nat) :
    Except Fault Payload :=
  match type with
  | .text => (Shape.readNewtype (textForm.read m room) content).map .text
  | .image => (Shape.readNewtype (imageForm.read m room) content).map .image
  | .audio => (Shape.readNewtype (audioForm.read m room) content).map .audio
  | .font => (Shape.readNewtype (fontForm.read m room) content).map .font
  | .sprite => (Shape.readNewtype (readTemplate m room) content).map .sprite
  | .scene =>
    let form := singleForm "struct SceneAsset" "template" (readTemplate m)
    (Shape.readNewtype (form.read m room) content).map .scene
  | .graphic => (Shape.readNewtype (readGraphic m room) content).map .graphic
  | .generic =>
    let form := singleForm "struct GenericAsset" "data" Shape.readAny
    (Shape.readNewtype (form.read m room) content).map .generic
  | .unknown =>
    let form := singleForm "struct variant AssetPayload::Unknown" "type_name"
      fun _ d => Shape.readText "a string" d
    (Shape.readFields form m room content).map .unknown

def readPayload (m : Medium) : Reader Payload :=
  Shape.readChoice m (AssetType.all.map AssetType.name) fun name content room =>
    match AssetType.all.find? (·.name = name) with
    | some type => readContent m type content room
    | none => .error (.unknownVariant name (AssetType.all.map AssetType.name))

structure AssetFields where
  name : Option String := none
  payload : Option Payload := none
  isRootScene : Option Bool := none

def assetForm (m : Medium) : Form AssetFields Asset where
  name := "struct DecodedAsset"
  slots := [
    ⟨"name", (·.name.isSome),
      fun _ d s => do return { s with name := some (← Shape.readText "a string" d) }⟩,
    ⟨"payload", (·.payload.isSome),
      fun room d s => do return { s with payload := some (← readPayload m room d) }⟩,
    ⟨"is_root_scene", (·.isRootScene.isSome),
      fun _ d s => do return { s with isRootScene := some (← Shape.readFlag d) }⟩]
  start := {}
  finish := fun s => do
    return ⟨← Shape.required "name" s.name, ← Shape.required "payload" s.payload,
      s.isRootScene.getD false⟩

def readAsset (m : Medium) : Reader Asset := (assetForm m).read m

def Template.ofText (text : String) : Except Fault Template :=
  Shape.ofText (readTemplate .text) text

def Template.ofJson (v : Json) : Except Fault Template := Shape.ofValue (readTemplate .value) v

def Asset.ofText (text : String) : Except Fault Asset := Shape.ofText (readAsset .text) text

def Asset.ofJson (v : Json) : Except Fault Asset := Shape.ofValue (readAsset .value) v

end ContentPlayer
