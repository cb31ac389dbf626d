import ContentPlayer.Asset.Basic

namespace ContentPlayer

namespace Template

mutual
def toJson : Template → Json
  | ⟨name, frames, constructor, children⟩ =>
    .ofMembers [("name", .string name), ("frames", .int frames.toNat),
      ("constructor", (constructor.map Json.string).getD .null),
      ("children", .array (allToJson children))]

def allToJson : List Template → List Json
  | [] => []
  | t :: ts => t.toJson :: allToJson ts
end

end Template

def bytesToJson (bytes : List UInt8) : Json := .array (bytes.map fun b => .int b.toNat)

def Payload.contentToJson : Payload → Json
  | .text a => .ofMembers [("text", .string a.text), ("html", .bool a.html)]
  | .image a =>
    .ofMembers [("width", .int a.width.toNat), ("height", .int a.height.toNat),
      ("rgba", bytesToJson a.rgba)]
  | .audio a =>
    .ofMembers [("sample_rate", .int a.sampleRate.toNat), ("channels", .int a.channels.toNat),
      ("data", bytesToJson a.data)]
  | .font a => .ofMembers [("family", .string a.family), ("glyph_count", .int a.glyphCount.toNat)]
  | .sprite t => t.toJson
  | .scene t => .ofMembers [("template", t.toJson)]
  | .graphic kind => .string kind.name
  | .generic data => .ofMembers [("data", data)]
  | .unknown typeName => .ofMembers [("type_name", .string typeName)]

/-- A payload as JSON: an object whose one member is named by the type. -/
def Payload.toJson (p : Payload) : Json := .object [(p.type.name, p.contentToJson)]

def Asset.toJson (a : Asset) : Json :=
  .ofMembers [("name", .string a.name), ("payload", a.payload.toJson),
    ("is_root_scene", .bool a.isRootScene)]

end ContentPlayer
