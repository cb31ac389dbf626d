import ContentPlayer.Display.Template
import ContentPlayer.Json.Basic

namespace ContentPlayer

structure TextAsset where
  text : String
  html : Bool := false
  deriving BEq, Repr

/-- An image; its pixels are given as bytes of red, green, blue and opacity. -/
structure ImageAsset where
  width : UInt32
  height : UInt32
  rgba : List UInt8 := []
  deriving BEq, Repr

structure AudioAsset where
  sampleRate : UInt32
  channels : UInt16
  data : List UInt8 := []
  deriving BEq, Repr

structure FontAsset where
  family : String
  glyphCount : UInt32 := 0
  deriving BEq, Repr

inductive GraphicKind where
  | shape
  | morphShape
  deriving DecidableEq, Repr

def GraphicKind.all : List GraphicKind := [.shape, .morphShape]

def GraphicKind.name : GraphicKind → String
  | .shape => "Shape"
  | .morphShape => "MorphShape"

inductive Payload where
  | text (asset : TextAsset)
  | image (asset : ImageAsset)
  | audio (asset : AudioAsset)
  | font (asset : FontAsset)
  | sprite (template : Template)
  | scene (template : Template)
  | graphic (kind : GraphicKind)
  | generic (data : Json)
  /-- Something of a type that is not known here. -/
  | unknown (typeName : String)

inductive AssetType where
  | text
  | image
  | audio
  | font
  | sprite
  | scene
  | graphic
  | generic
  | unknown
  deriving DecidableEq, Repr

namespace AssetType

def all : List AssetType :=
  [.text, .image, .audio, .font, .sprite, .scene, .graphic, .generic, .unknown]

def name : AssetType → String
  | .text => "Text"
  | .image => "Image"
  | .audio => "Audio"
  | .font => "Font"
  | .sprite => "Sprite"
  | .scene => "Scene"
  | .graphic => "Graphic"
  | .generic => "Generic"
  | .unknown => "Unknown"

def order (t : AssetType) : Nat := all.idxOf t

end AssetType

def Payload.type : Payload → AssetType
  | .text _ => .text
  | .image _ => .image
  | .audio _ => .audio
  | .font _ => .font
  | .sprite _ => .sprite
  | .scene _ => .scene
  | .graphic _ => .graphic
  | .generic _ => .generic
  | .unknown _ => .unknown

structure Asset where
  name : String
  payload : Payload
  /-- A scene that was marked as the root of the content. -/
  isRootScene : Bool := false

def Asset.type (a : Asset) : AssetType := a.payload.type

end ContentPlayer
