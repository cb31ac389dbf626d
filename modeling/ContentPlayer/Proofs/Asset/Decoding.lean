import ContentPlayer.Asset.Read
import ContentPlayer.Proofs.Asset.Encoding

namespace ContentPlayer

open Json (Draft Record)
open Shape

variable {room : Nat}

section Leaves

/-- A bounded integer is written as an integer. -/
theorem readsAs_bounded {β : Type} {limit : Nat} (expected : String) {ofNat : Nat → β}
    {toNat : β → Nat} (htoNat : ∀ n < limit, toNat (ofNat n) = n)
    (hofNat : ∀ b, toNat b < limit ∧ ofNat (toNat b) = b) :
    ReadsAs room (fun _ d => (readNatural limit expected d).map ofNat) fun b v =>
      v = .int (toNat b) := by
  intro d v hd hdistinct b
  refine ((readsAs_natural limit expected).map ofNat d v hd hdistinct b).trans ⟨?_, ?_⟩
  · rintro ⟨n, ⟨rfl, hn⟩, rfl⟩
    rw [htoNat n hn]
  · rintro rfl
    exact ⟨toNat b, ⟨rfl, (hofNat b).1⟩, (hofNat b).2⟩

theorem readsAs_word : ReadsAs room (fun _ d => readWord d) fun n v => v = .int n.toNat :=
  readsAs_bounded "u32" (fun _ hn => UInt32.toNat_ofNat_of_lt' hn)
    fun n => ⟨n.toNat_lt, UInt32.ofNat_toNat⟩

theorem readsAs_half :
    ReadsAs room (fun _ d => (readNatural UInt16.size "u16" d).map Nat.toUInt16) fun n v =>
      v = .int n.toNat :=
  readsAs_bounded "u16" (fun _ hn => UInt16.toNat_ofNat_of_lt' hn)
    fun n => ⟨n.toNat_lt, UInt16.ofNat_toNat⟩

theorem readsAs_bytes : ReadsAs room readBytes fun bytes v => v = bytesToJson bytes := by
  intro d v hd hdistinct bytes
  have hbyte (room : Nat) : ReadsAs room
      (fun _ d => (readNatural UInt8.size "u8" d).map Nat.toUInt8) fun n v => v = .int n.toNat :=
    readsAs_bounded "u8" (fun _ hn => UInt8.toNat_ofNat_of_lt' hn)
      fun n => ⟨n.toNat_lt, UInt8.ofNat_toNat⟩
  have hlist := readsAs_list (fun room' _ => hbyte room') d v hd hdistinct bytes
  simp only [forall₂_eq_map, exists_eq_right] at hlist
  exact hlist

theorem readsAs_source :
    ReadsAs room (fun _ d => readOptional (readText "a string") d) fun c v =>
      v = sourceToJson c := by
  intro d v hd _ c
  cases reads_of_readAny hd <;> cases c <;>
    simp [readOptional, readText, mismatch, describe, Json.ofMembers, sourceToJson, Except.map,
      eq_comm]

end Leaves

section Columns

variable {σ α : Type}

/-! The kinds of fields that are written as one value. -/

def textColumn (name : String) (get : σ → Option String) (put : String → σ → σ)
    (value : α → String) : Column σ α :=
  ⟨String, name, get, put, fun _ d => readText "a string" d, fun s v => v = .string s, value,
    fun _ => False⟩

def flagColumn (name : String) (get : σ → Option Bool) (put : Bool → σ → σ)
    (value : α → Bool) : Column σ α :=
  ⟨Bool, name, get, put, fun _ d => readFlag d, fun b v => v = .bool b, value,
    fun a => value a = false⟩

def wordColumn (name : String) (get : σ → Option UInt32) (put : UInt32 → σ → σ)
    (value : α → UInt32) (spare : α → Prop) : Column σ α :=
  ⟨UInt32, name, get, put, fun _ d => readWord d, fun n v => v = .int n.toNat, value, spare⟩

def bytesColumn (name : String) (get : σ → Option (List UInt8)) (put : List UInt8 → σ → σ)
    (value : α → List UInt8) : Column σ α :=
  ⟨List UInt8, name, get, put, readBytes, fun bytes v => v = bytesToJson bytes, value,
    fun a => value a = []⟩

end Columns

section Forms

def textColumns : List (Column TextFields TextAsset) :=
  [textColumn "text" (·.text) (fun b s => { s with text := some b }) (·.text),
    flagColumn "html" (·.html) (fun b s => { s with html := some b }) (·.html)]

theorem textForm_madeOf : textForm.MadeOf textColumns where
  slots_eq := rfl
  apart := by simp [textColumns, textColumn, flagColumn, Column.apart_iff]
  get_start := by simp [textColumns, textColumn, flagColumn, textForm]
  get_put := by simp [textColumns, textColumn, flagColumn]
  finish_iff := by
    rintro ⟨text, html⟩ ⟨text', html'⟩
    cases text <;> cases html <;>
      simp [textForm, textColumns, textColumn, flagColumn, Column.Settled, required, bind,
        Except.bind, pure, Except.pure]

theorem readsAs_textAsset :
    ReadsAs room (textForm.read .text) fun a v => Record a.fields v :=
  textForm_madeOf.readsAs fun _ _ => by
    simp [textColumns, textColumn, flagColumn, readsAs_text, readsAs_flag]

def imageColumns : List (Column ImageFields ImageAsset) :=
  [wordColumn "width" (·.width) (fun b s => { s with width := some b }) (·.width) fun _ => False,
    wordColumn "height" (·.height) (fun b s => { s with height := some b }) (·.height)
      fun _ => False,
    bytesColumn "rgba" (·.rgba) (fun b s => { s with rgba := some b }) (·.rgba)]

theorem imageForm_madeOf : imageForm.MadeOf imageColumns where
  slots_eq := rfl
  apart := by simp [imageColumns, wordColumn, bytesColumn, Column.apart_iff]
  get_start := by simp [imageColumns, wordColumn, bytesColumn, imageForm]
  get_put := by simp [imageColumns, wordColumn, bytesColumn]
  finish_iff := by
    rintro ⟨width, height, rgba⟩ ⟨width', height', rgba'⟩
    cases width <;> cases height <;> cases rgba <;>
      simp [imageForm, imageColumns, wordColumn, bytesColumn, Column.Settled, required, bind,
        Except.bind, pure, Except.pure]

theorem readsAs_imageAsset :
    ReadsAs room (imageForm.read .text) fun a v => Record a.fields v :=
  imageForm_madeOf.readsAs fun _ _ => by
    simp [imageColumns, wordColumn, bytesColumn, readsAs_word, readsAs_bytes]

def audioColumns : List (Column AudioFields AudioAsset) :=
  [wordColumn "sample_rate" (·.sampleRate) (fun b s => { s with sampleRate := some b })
      (·.sampleRate) fun _ => False,
    ⟨UInt16, "channels", (·.channels), fun b s => { s with channels := some b },
      fun _ d => (readNatural UInt16.size "u16" d).map Nat.toUInt16, fun n v => v = .int n.toNat,
      (·.channels), fun _ => False⟩,
    bytesColumn "data" (·.data) (fun b s => { s with data := some b }) (·.data)]

theorem audioForm_madeOf : audioForm.MadeOf audioColumns where
  slots_eq := by
    refine congrArg₂ List.cons rfl (congrArg₂ List.cons ?_ rfl)
    refine congrArg (Slot.mk "channels" _) (funext fun _ => funext fun d => funext fun s => ?_)
    cases hn : readNatural UInt16.size "u16" d <;>
      simp [hn, bind, Except.bind, Except.map, pure, Except.pure]
  apart := by simp [audioColumns, wordColumn, bytesColumn, Column.apart_iff]
  get_start := by simp [audioColumns, wordColumn, bytesColumn, audioForm]
  get_put := by simp [audioColumns, wordColumn, bytesColumn]
  finish_iff := by
    rintro ⟨rate, channels, data⟩ ⟨rate', channels', data'⟩
    cases rate <;> cases channels <;> cases data <;>
      simp [audioForm, audioColumns, wordColumn, bytesColumn, Column.Settled, required, bind,
        Except.bind, pure, Except.pure]

theorem readsAs_audioAsset :
    ReadsAs room (audioForm.read .text) fun a v => Record a.fields v :=
  audioForm_madeOf.readsAs fun _ _ => by
    simp [audioColumns, wordColumn, bytesColumn, readsAs_word, readsAs_half, readsAs_bytes]

def fontColumns : List (Column FontFields FontAsset) :=
  [textColumn "family" (·.family) (fun b s => { s with family := some b }) (·.family),
    wordColumn "glyph_count" (·.glyphCount) (fun b s => { s with glyphCount := some b })
      (·.glyphCount) fun a => a.glyphCount = 0]

theorem fontForm_madeOf : fontForm.MadeOf fontColumns where
  slots_eq := rfl
  apart := by simp [fontColumns, textColumn, wordColumn, Column.apart_iff]
  get_start := by simp [fontColumns, textColumn, wordColumn, fontForm]
  get_put := by simp [fontColumns, textColumn, wordColumn]
  finish_iff := by
    rintro ⟨family, glyphs⟩ ⟨family', glyphs'⟩
    cases family <;> cases glyphs <;>
      simp [fontForm, fontColumns, textColumn, wordColumn, Column.Settled, required, bind,
        Except.bind, pure, Except.pure, @eq_comm _ _ glyphs']

theorem readsAs_fontAsset :
    ReadsAs room (fontForm.read .text) fun a v => Record a.fields v :=
  fontForm_madeOf.readsAs fun _ _ => by
    simp [fontColumns, textColumn, wordColumn, readsAs_text, readsAs_word]

def templateColumns (child : Reader Template) : List (Column TemplateFields Template) :=
  [textColumn "name" (·.name) (fun b s => { s with name := some b }) (·.name),
    wordColumn "frames" (·.frames) (fun b s => { s with frames := some b }) (·.frames)
      fun t => t.frames = 1,
    ⟨Option String, "constructor", (·.constructor), fun b s => { s with constructor := some b },
      fun _ d => readOptional (readText "a string") d, fun c v => v = sourceToJson c,
      (·.constructor), fun t => t.constructor = none⟩,
    ⟨List Template, "children", (·.children), fun b s => { s with children := some b },
      readList child, fun ts v => ∃ vs, v = .array vs ∧ Template.AllWritten ts vs, (·.children),
      fun t => t.children = []⟩]

theorem templateForm_madeOf (child : Reader Template) :
    (templateForm child).MadeOf (templateColumns child) where
  slots_eq := rfl
  apart := by simp [templateColumns, textColumn, wordColumn, Column.apart_iff]
  get_start := by simp [templateColumns, textColumn, wordColumn, templateForm]
  get_put := by simp [templateColumns, textColumn, wordColumn]
  finish_iff := by
    rintro ⟨name, frames, constructor, children⟩ ⟨name', frames', constructor', children'⟩
    cases name <;> cases frames <;> cases constructor <;> cases children <;>
      simp [templateForm, templateColumns, textColumn, wordColumn, Column.Settled, required, bind,
        Except.bind, pure, Except.pure, @eq_comm _ _ frames', @eq_comm _ _ constructor']

theorem allWritten_iff {ts : List Template} {vs : List Json} :
    Template.AllWritten ts vs ↔ List.Forall₂ (fun t v => Record t.fields v) ts vs := by
  induction ts generalizing vs with
  | nil => cases vs <;> simp [Template.AllWritten]
  | cons t ts ih => cases vs <;> simp [Template.AllWritten, ih]

/-- A template is read exactly from what it is written as, if its children are. -/
theorem readsAs_templateForm {child : Reader Template}
    (hchild : ∀ room', room = room' + 2 → ReadsAs room' child fun t v => Record t.fields v) :
    ReadsAs room ((templateForm child).read .text) fun t v => Record t.fields v := by
  have hfields (t : Template) : (templateColumns child).map (Column.field t) = t.fields := by
    obtain ⟨name, frames, constructor, children⟩ := t
    rfl
  have hchildren : ∀ room', room = room' + 1 → ReadsAs room' (readList child) fun ts v =>
      ∃ vs, v = .array vs ∧ Template.AllWritten ts vs := by
    rintro room' rfl
    simp only [allWritten_iff]
    exact readsAs_list fun room'' hroom => hchild room'' (by omega)
  have hcolumns : ∀ room', room = room' + 1 → ∀ c ∈ templateColumns child,
      ReadsAs room' c.read c.writes := by
    rintro room' rfl
    simp [templateColumns, textColumn, wordColumn, readsAs_text, readsAs_word, readsAs_source,
      hchildren]
  simpa only [hfields] using (templateForm_madeOf child).readsAs hcolumns

theorem readsAs_template : ReadsAs room (readTemplate .text) fun t v => Record t.fields v := by
  induction room using Nat.strongRecOn with
  | ind room ih =>
    match room with
    | 0 | 1 => exact readsAs_templateForm fun _ h => by omega
    | room + 2 =>
      refine readsAs_templateForm fun room' hroom => ?_
      obtain rfl : room' = room := by omega
      exact ih room' (by omega)

theorem singleForm_madeOf {α : Type} (name field : String) (read : Reader α)
    (writes : α → Json → Prop) :
    (singleForm name field read).MadeOf
      [⟨α, field, id, fun b _ => some b, read, writes, id, fun _ => False⟩] where
  slots_eq := rfl
  apart := List.pairwise_singleton _ _
  get_start := by simp [singleForm]
  get_put := by simp
  finish_iff := by
    intro s a
    cases s <;> simp [singleForm, Column.Settled, required]

/-- A record of one field is read exactly from what it is written as, if the field is. -/
theorem readsAs_singleForm {α : Type} (room : Nat) (name field : String) {read : Reader α}
    {writes : α → Json → Prop}
    (hread : ∀ room', room = room' + 1 → ReadsAs room' read writes) :
    ReadsAs room ((singleForm name field read).read .text) fun a v =>
      Record [⟨field, writes a, False⟩] v :=
  (singleForm_madeOf name field read writes).readsAs fun room' hroom => by
    simpa using hread room' hroom

end Forms

section Choices

theorem GraphicKind.find?_name (kind : GraphicKind) :
    GraphicKind.all.find? (·.name = kind.name) = some kind := by
  cases kind <;> simp [all, name]

theorem GraphicKind.mem_names {name : String} :
    name ∈ GraphicKind.all.map GraphicKind.name ↔ ∃ kind : GraphicKind, kind.name = name := by
  have hall (kind : GraphicKind) : kind ∈ GraphicKind.all := by cases kind <;> simp [all]
  simp [hall]

theorem GraphicKind.name_inj {kind kind' : GraphicKind} :
    kind.name = kind'.name ↔ kind = kind' := by
  cases kind <;> cases kind' <;> simp [name]

theorem AssetType.find?_name (type : AssetType) :
    AssetType.all.find? (·.name = type.name) = some type := by
  cases type <;> simp [all, name]

theorem AssetType.mem_names {name : String} :
    name ∈ AssetType.all.map AssetType.name ↔ ∃ type : AssetType, type.name = name := by
  have hall (type : AssetType) : type ∈ AssetType.all := by cases type <;> simp [all]
  simp [hall]

theorem AssetType.name_inj {type type' : AssetType} : type.name = type'.name ↔ type = type' := by
  refine ⟨fun h => ?_, congrArg name⟩
  have hfind := AssetType.find?_name type
  rw [h, AssetType.find?_name] at hfind
  exact (Option.some.inj hfind).symm

theorem readsAs_graphic : ReadsAs room (readGraphic .text) fun kind v =>
    v = .string kind.name ∨ v = .object [(kind.name, .null)] := by
  refine (readsAs_choice _ _ (fun name kind v => v = .null ∧ kind.name = name) ?_).congr ?_
  · rintro room' rfl name hname d v hd hdistinct kind
    obtain ⟨kind', -, rfl⟩ := List.mem_map.mp hname
    simp only [GraphicKind.find?_name]
    cases reads_of_readAny hd <;>
      simp [readUnit, mismatch, describe, Json.ofMembers, bind, Except.bind, GraphicKind.name_inj,
        eq_comm]
  · intro kind v
    simp only [GraphicKind.mem_names, exists_exists_eq_and, GraphicKind.find?_name, readUnit, bind,
      Except.bind, Except.ok.injEq, exists_eq_right]
    simp [GraphicKind.name_inj]

theorem readsAs_content (type : AssetType) :
    ReadsAs room (fun room d => readContent .text type (.value d) room) fun p v =>
      p.type = type ∧ p.ContentWrittenAs v := by
  cases type with
  | text =>
    refine (readsAs_textAsset.map Payload.text).congr fun p v => ?_
    cases p <;> simp [Payload.type, Payload.ContentWrittenAs]
  | image =>
    refine (readsAs_imageAsset.map Payload.image).congr fun p v => ?_
    cases p <;> simp [Payload.type, Payload.ContentWrittenAs]
  | audio =>
    refine (readsAs_audioAsset.map Payload.audio).congr fun p v => ?_
    cases p <;> simp [Payload.type, Payload.ContentWrittenAs]
  | font =>
    refine (readsAs_fontAsset.map Payload.font).congr fun p v => ?_
    cases p <;> simp [Payload.type, Payload.ContentWrittenAs]
  | sprite =>
    refine (readsAs_template.map Payload.sprite).congr fun p v => ?_
    cases p <;> simp [Payload.type, Payload.ContentWrittenAs]
  | scene =>
    have hscene := readsAs_singleForm room "struct SceneAsset" "template"
      fun _ _ => readsAs_template
    refine (hscene.map Payload.scene).congr fun p v => ?_
    cases p <;> simp [Payload.type, Payload.ContentWrittenAs]
  | graphic =>
    refine (readsAs_graphic.map Payload.graphic).congr fun p v => ?_
    cases p <;> simp [Payload.type, Payload.ContentWrittenAs]
  | generic =>
    have hgeneric := readsAs_singleForm room "struct GenericAsset" "data"
      fun _ _ => readsAs_any
    refine (hgeneric.map Payload.generic).congr fun p v => ?_
    cases p <;> simp [Payload.type, Payload.ContentWrittenAs, Json.Field.exactly]
  | unknown =>
    have hunknown := readsAs_singleForm room "struct variant AssetPayload::Unknown"
      "type_name" fun _ _ => readsAs_text
    refine (hunknown.map Payload.unknown).congr fun p v => ?_
    cases p <;> simp [Payload.type, Payload.ContentWrittenAs, Json.Field.exactly]

theorem readsAs_payload : ReadsAs room (readPayload .text) Payload.WrittenAs := by
  refine (readsAs_choice _ _ (fun name p v => p.type.name = name ∧ p.ContentWrittenAs v)
    ?_).congr ?_
  · rintro room' rfl name hname
    obtain ⟨type, rfl⟩ := AssetType.mem_names.mp hname
    simp only [AssetType.find?_name]
    simpa only [AssetType.name_inj] using readsAs_content type
  · intro p v
    have hnothing (type : AssetType) : readContent .text type .nothing room ≠ .ok p := by
      cases type <;> simp [readContent, readNewtype, readFields, Except.map]
    simp only [AssetType.mem_names, exists_exists_eq_and, AssetType.find?_name, hnothing,
      Payload.WrittenAs]
    simp [AssetType.name_inj]

end Choices

section Asset

def assetColumns : List (Column AssetFields Asset) :=
  [textColumn "name" (·.name) (fun b s => { s with name := some b }) (·.name),
    ⟨Payload, "payload", (·.payload), fun b s => { s with payload := some b }, readPayload .text,
      Payload.WrittenAs, (·.payload), fun _ => False⟩,
    flagColumn "is_root_scene" (·.isRootScene) (fun b s => { s with isRootScene := some b })
      (·.isRootScene)]

theorem assetForm_madeOf : (assetForm .text).MadeOf assetColumns where
  slots_eq := rfl
  apart := by simp [assetColumns, textColumn, flagColumn, Column.apart_iff]
  get_start := by simp [assetColumns, textColumn, flagColumn, assetForm]
  get_put := by simp [assetColumns, textColumn, flagColumn]
  finish_iff := by
    rintro ⟨name, payload, root⟩ ⟨name', payload', root'⟩
    cases name <;> cases payload <;> cases root <;>
      simp [assetForm, assetColumns, textColumn, flagColumn, Column.Settled, required, bind,
        Except.bind, pure, Except.pure]

theorem readsAs_asset : ReadsAs room (readAsset .text) Asset.WrittenAs :=
  assetForm_madeOf.readsAs fun _ _ => by
    simp [assetColumns, textColumn, flagColumn, readsAs_text, readsAs_flag, readsAs_payload]

end Asset

/-- A text that writes a JSON value decodes to an asset if and only if the value is an admissible
encoding of it. -/
theorem Asset.ofText_eq_ok_iff {text : String} {v : Json} (hv : v.WrittenBy text) (a : Asset) :
    Asset.ofText text = .ok a ↔ a.WrittenAs v := by
  obtain ⟨hreads, hdistinct⟩ := hv
  unfold Shape.ofText at hreads
  unfold Asset.ofText Shape.ofText
  generalize Json.Document.ofText text = document at hreads hdistinct
  cases hany : readAny textRoom document.value with
  | error e => simp [hany, bind, Except.bind] at hreads
  | ok v' =>
    have hread := readsAs_asset document.value v' hany hdistinct a
    cases hends : document.ends with
    | false => simp [hany, hends, bind, Except.bind] at hreads
    | true =>
      obtain rfl : v' = v := by simpa [hany, hends, bind, Except.bind] using hreads
      rw [← hread]
      cases hasset : readAsset .text textRoom document.value <;>
        simp [hends, hasset, bind, Except.bind]

/-- An asset and its payload as arrays, from whose ends what is not said is cut off. -/
theorem Asset.ofText_eq_ok_iff_terse :
    let text := "[\"note\",\x7b\"Text\":[\"hello\"]\x7d]"
    let v : Json := .array [.string "note", .object [("Text", .array [.string "hello"])]]
    v.WrittenBy text ∧ Asset.ofText text = .ok ⟨"note", .text ⟨"hello", false⟩, false⟩ := by
  intro text v
  have hdocument : Json.Document.ofText text =
      ⟨.array [.string "note", .object [(some "Text", .array [.string "hello"] none)] none] none,
        true⟩ := by
    simp [text, Json.Document.ofText, Json.readValue, Json.readItems, Json.readMembers,
      Json.skipSpace, Json.isSpace, Json.readString, Json.Scanned.push, Json.Scanned.text?]
  have hv : v.WrittenBy text := by
    constructor
    · unfold Shape.ofText
      rw [hdocument]
      rfl
    · simp [hdocument, Json.Draft.Distinct, Json.Draft.DistinctItems, Json.Draft.DistinctMembers]
  have hcontent : Record (TextAsset.fields ⟨"hello", false⟩) (.array [.string "hello"]) :=
    .array (.cons rfl (.nil (by simp [Json.Field.exactly])))
  refine ⟨hv, (Asset.ofText_eq_ok_iff hv _).mpr ?_⟩
  exact .array (.cons rfl (.cons ⟨_, rfl, hcontent⟩ (.nil (by simp [Json.Field.exactly]))))

end ContentPlayer
