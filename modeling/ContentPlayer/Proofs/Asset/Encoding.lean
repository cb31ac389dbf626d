import ContentPlayer.Asset.Write
import ContentPlayer.Proofs.Shape.Record

namespace ContentPlayer

open Json (Field Record)

/-! What stands for an asset in JSON, whoever writes it. -/

/-- The source of a constructor, or null. -/
def sourceToJson (constructor : Option String) : Json := constructor.elim .null .string

namespace Template

mutual
def fields : Template → List Field
  | ⟨name, frames, constructor, children⟩ => [
    .exactly "name" (.string name) False,
    .exactly "frames" (.int frames.toNat) (frames = 1),
    .exactly "constructor" (sourceToJson constructor) (constructor = none),
    ⟨"children", fun v => ∃ items, v = .array items ∧ AllWritten children items, children = []⟩]

/-- Each template is written in its place. -/
def AllWritten : List Template → List Json → Prop
  | [], [] => True
  | t :: ts, v :: vs => Record t.fields v ∧ AllWritten ts vs
  | _, _ => False
end

end Template

def TextAsset.fields (a : TextAsset) : List Field :=
  [.exactly "text" (.string a.text) False, .exactly "html" (.bool a.html) (a.html = false)]

def ImageAsset.fields (a : ImageAsset) : List Field :=
  [.exactly "width" (.int a.width.toNat) False, .exactly "height" (.int a.height.toNat) False,
    .exactly "rgba" (bytesToJson a.rgba) (a.rgba = [])]

def AudioAsset.fields (a : AudioAsset) : List Field :=
  [.exactly "sample_rate" (.int a.sampleRate.toNat) False,
    .exactly "channels" (.int a.channels.toNat) False,
    .exactly "data" (bytesToJson a.data) (a.data = [])]

def FontAsset.fields (a : FontAsset) : List Field :=
  [.exactly "family" (.string a.family) False,
    .exactly "glyph_count" (.int a.glyphCount.toNat) (a.glyphCount = 0)]

/-- What is written under the name of the payload's type. -/
def Payload.ContentWrittenAs : Payload → Json → Prop
  | .text a, v => Record a.fields v
  | .image a, v => Record a.fields v
  | .audio a, v => Record a.fields v
  | .font a, v => Record a.fields v
  | .sprite t, v => Record t.fields v
  | .scene t, v => Record [⟨"template", Record t.fields, False⟩] v
  | .graphic kind, v => v = .string kind.name ∨ v = .object [(kind.name, .null)]
  | .generic data, v => Record [.exactly "data" data False] v
  | .unknown typeName, v => Record [.exactly "type_name" (.string typeName) False] v

def Payload.WrittenAs (p : Payload) (v : Json) : Prop :=
  ∃ content, v = .object [(p.type.name, content)] ∧ p.ContentWrittenAs content

def Asset.fields (a : Asset) : List Field :=
  [.exactly "name" (.string a.name) False, ⟨"payload", a.payload.WrittenAs, False⟩,
    .exactly "is_root_scene" (.bool a.isRootScene) (a.isRootScene = false)]

/-- The value is an admissible encoding of the asset. -/
def Asset.WrittenAs (a : Asset) (v : Json) : Prop := Record a.fields v

end ContentPlayer
