import ContentPlayer.Config.Load
import ContentPlayer.Proofs.Config.Fields
import ContentPlayer.Proofs.Text.Utf8
import ContentPlayer.Proofs.Toml.Documents

namespace ContentPlayer

namespace PlayerConfig

section Files

variable {toml json : Except FileError Bytes} {c c' : PlayerConfig}

/-- A file that can be read, and holds the UTF-8 of a text. -/
def Spells (file : Except FileError Bytes) (text : String) : Prop := file = .ok (Text.encode text)

/-- The table in a file is a configuration. -/
def InToml (file : Except FileError Bytes) (c : PlayerConfig) : Prop :=
  ∃ text d, Spells file text ∧ Toml.ofText text = some d ∧ c.SaidBy .table d

/-- The JSON document in a file is a configuration. -/
def InJson (file : Except FileError Bytes) (c : PlayerConfig) : Prop :=
  ∃ text, Spells file text ∧ (Json.Document.ofText text).ends = true ∧
    c.SaidBy .text (Json.Document.ofText text).value

/-- The configuration of one file as a whole, the second only where the first is none, or the
defaults where neither is one. -/
inductive Chosen (toml json : Except FileError Bytes) : PlayerConfig → Prop where
  | toml {c : PlayerConfig} (hc : InToml toml c) : Chosen toml json c
  | json {c : PlayerConfig} (hno : ∀ c', ¬InToml toml c') (hc : InJson json c) :
      Chosen toml json c
  | default (hno : ∀ c', ¬InToml toml c') (hno' : ∀ c', ¬InJson json c') : Chosen toml json {}

theorem fileText_eq_ok_iff {file : Except FileError Bytes} {text : String} :
    fileText file = .ok text ↔ Spells file text := by
  cases file with
  | error e => simp [fileText, Spells, bind, Except.bind]
  | ok bytes =>
    simp [fileText, Spells, bind, Except.bind, mapError_eq_ok_iff, Text.decode_eq_ok_iff]

theorem ofFile_eq_ok_iff {parse : String → Except ConfigError PlayerConfig}
    {file : Except FileError Bytes} :
    ofFile parse file = .ok c ↔ ∃ text, Spells file text ∧ parse text = .ok c := by
  simp only [← fileText_eq_ok_iff]
  unfold ofFile
  cases fileText file <;> simp [bind, Except.bind, Except.mapError]

theorem ofFile_toml_iff : ofFile ofToml toml = .ok c ↔ InToml toml c := by
  simp only [ofFile_eq_ok_iff, ofToml_eq_ok_iff, InToml, exists_and_left]

theorem Spells.eq {file : Except FileError Bytes} {text text' : String} (h : Spells file text)
    (h' : Spells file text') : text = text' :=
  Except.ok.inj ((fileText_eq_ok_iff.mpr h).symm.trans (fileText_eq_ok_iff.mpr h'))

/-- Tables in a file are a configuration if they say one. -/
theorem inToml_writeTables {tables : List Toml.Table}
    (hnodup : (tables.map Toml.Table.name).Nodup)
    (hfile : Spells toml (String.ofList (Toml.writeTables tables))) :
    InToml toml c ↔ c.SaidBy .table (.object (tables.map Toml.Table.member) none) := by
  have hread := Toml.ofText_writeTables tables hnodup
  constructor
  · rintro ⟨text, d, htext, hd, hc⟩
    rw [htext.eq hfile, hread] at hd
    rwa [Option.some.inj hd]
  · exact fun hc => ⟨_, _, hfile, hread, hc⟩

theorem ofFile_json_iff : ofFile ofJson json = .ok c ↔ InJson json c := by
  simp only [ofFile_eq_ok_iff, ofJson_eq_ok_iff, InJson]

/-- There is always one choice, and it is what is loaded. -/
theorem chosen_iff {read : String → Except FileError Bytes} :
    Chosen (read tomlFile) (read jsonFile) c ↔ c = load (m := Id) read := by
  have hchosen : Chosen (read tomlFile) (read jsonFile) c ↔
      ofFile ofToml (read tomlFile) = .ok c ∨
        (∀ c', ofFile ofToml (read tomlFile) ≠ .ok c') ∧
          (ofFile ofJson (read jsonFile) = .ok c ∨
            (∀ c', ofFile ofJson (read jsonFile) ≠ .ok c') ∧ c = {}) := by
    simp only [ne_eq, ofFile_toml_iff, ofFile_json_iff]
    constructor
    · rintro (hc | ⟨hno, hc⟩ | ⟨hno, hno'⟩)
      · exact .inl hc
      · exact .inr ⟨hno, .inl hc⟩
      · exact .inr ⟨hno, .inr ⟨hno', rfl⟩⟩
    · rintro (hc | ⟨hno, hc | ⟨hno', rfl⟩⟩)
      · exact .toml hc
      · exact .json hno hc
      · exact .default hno hno'
  rw [hchosen]
  cases htoml : ofFile ofToml (read tomlFile) with
  | ok c' => simp [load, bind, pure, htoml, eq_comm]
  | error e => cases hjson : ofFile ofJson (read jsonFile) <;>
      simp [load, bind, pure, htoml, hjson, eq_comm]

end Files

end PlayerConfig

/-- A count of milliseconds as the environment may give it: at least one ASCII digit, perhaps behind
a plus, and a number that fits 64 bits. -/
def Counts (s : String) (n : UInt64) : Prop :=
  ∃ digits, (s.toList = digits ∨ s.toList = '+' :: digits) ∧ digits ≠ [] ∧
    (∀ c ∈ digits, c.isDigit) ∧ n.toNat = Nat.ofDigitChars 10 digits 0

/-- What is left of a text behind a plus. -/
def afterPlus : List Char → List Char
  | '+' :: rest => rest
  | cs => cs

/-- Where digits are is settled by whether there is a plus, which is no digit. -/
theorem eq_afterPlus_iff {digits cs : List Char} (hne : digits ≠ [])
    (hdigits : ∀ c ∈ digits, c.isDigit) :
    (cs = digits ∨ cs = '+' :: digits) ↔ digits = afterPlus cs := by
  unfold afterPlus
  split
  next rest =>
    constructor
    · rintro (rfl | hcons)
      · exact absurd (hdigits '+' (by simp)) (by decide)
      · exact (List.cons.inj hcons).2.symm
    · rintro rfl
      exact .inr rfl
  next hno =>
    constructor
    · rintro (rfl | rfl)
      · rfl
      · exact absurd rfl (hno digits)
    · rintro rfl
      exact .inl rfl

theorem milliseconds?_eq (s : String) : milliseconds? s =
    if (afterPlus s.toList).isEmpty || !(afterPlus s.toList).all Char.isDigit then none
    else
      let n := Nat.ofDigitChars 10 (afterPlus s.toList) 0
      if n < UInt64.size then some n.toUInt64 else none := by
  have hvalue (digits : List Char) :
      digits.foldl (fun n c => n * 10 + (c.toNat - '0'.toNat)) 0 =
        Nat.ofDigitChars 10 digits 0 := by
    simp only [Nat.ofDigitChars, Nat.mul_comm 10]
  rw [← hvalue]
  rfl

theorem counts_iff {s : String} {n : UInt64} : Counts s n ↔
    (afterPlus s.toList ≠ [] ∧ ∀ c ∈ afterPlus s.toList, c.isDigit) ∧
      n.toNat = Nat.ofDigitChars 10 (afterPlus s.toList) 0 := by
  constructor
  · rintro ⟨digits, hs, hne, hdigits, hn⟩
    obtain rfl := (eq_afterPlus_iff hne hdigits).mp hs
    exact ⟨⟨hne, hdigits⟩, hn⟩
  · rintro ⟨⟨hne, hdigits⟩, hn⟩
    exact ⟨_, (eq_afterPlus_iff hne hdigits).mpr rfl, hne, hdigits, hn⟩

theorem milliseconds?_eq_some_iff {s : String} {n : UInt64} :
    milliseconds? s = some n ↔ Counts s n := by
  rw [counts_iff, milliseconds?_eq]
  generalize afterPlus s.toList = digits
  by_cases hdigits : digits ≠ [] ∧ ∀ c ∈ digits, c.isDigit
  · have hread : ¬(digits.isEmpty || !digits.all Char.isDigit) := by simpa using hdigits
    rw [if_neg hread, and_iff_right hdigits]
    dsimp only
    split
    next hlt =>
      rw [Option.some.injEq, ← UInt64.toNat_inj, UInt64.toNat_ofNat_of_lt' hlt, eq_comm]
    next hge =>
      have hn : n.toNat < UInt64.size := n.toNat_lt
      simp only [reduceCtorEq, false_iff]
      omega
  · have hread : digits.isEmpty || !digits.all Char.isDigit := by
      by_contra hnot
      exact hdigits (by simpa using hnot)
    rw [if_pos hread]
    simp only [reduceCtorEq, false_iff]
    exact fun h => hdigits h.1

namespace LogLevel

/-- Two texts are the same but for the case of ASCII letters. -/
def SameButForCase (s t : String) : Prop := s.toList.map Char.toLower = t.toList.map Char.toLower

/-- A level's name, in any case; warnings have a second one. -/
def Names (s : String) (level : LogLevel) : Prop :=
  SameButForCase s level.name ∨ level = .warn ∧ SameButForCase s "warning"

theorem sameButForCase_iff {s t : String} : SameButForCase s t ↔ lowered s = lowered t :=
  String.ofList_inj.symm

theorem ofName?_eq_some_iff {s : String} {level : LogLevel} :
    ofName? s = some level ↔ Names s level := by
  have hname : lowered level.name = level.filter := by cases level <;> decide
  have hwarning : lowered "warning" = "warning" := by decide
  rw [Names, sameButForCase_iff, sameButForCase_iff, hname, hwarning, ofName?]
  split
  all_goals cases level <;> simp_all [filter]

end LogLevel

/-- A variable replaces a value if it is set to what means one; else the value stays. -/
def Replaced {α : Type} (means : String → α → Prop) (value? : Option String) (old new : α) :
    Prop :=
  (∃ s, value? = some s ∧ means s new) ∨ (∀ s, value? = some s → ∀ a, ¬means s a) ∧ new = old

theorem replaced_iff {α : Type} {means : String → α → Prop} {read : String → Option α}
    (hread : ∀ s a, read s = some a ↔ means s a) {value? : Option String} {old new : α} :
    Replaced means value? old new ↔ new = (value?.bind read).getD old := by
  simp only [Replaced, ← hread]
  cases value? with
  | none => simp
  | some s => cases hs : read s <;> simp [hs, @eq_comm _ new]

namespace PlayerConfig

/-- What the environment makes of a configuration: three fields may be replaced, each by its own
variable, and the others stay. -/
structure Overridden (env : Environment) (c c' : PlayerConfig) : Prop where
  assetRoot : Replaced (fun s root => root = s) (env "PLAYER_ASSET_ROOT") c.bootstrap.assetRoot
    c'.bootstrap.assetRoot
  fetchTimeout : Replaced Counts (env "PLAYER_FETCH_TIMEOUT_MS") c.bootstrap.fetchTimeout
    c'.bootstrap.fetchTimeout
  level : Replaced LogLevel.Names (env "PLAYER_LOG_LEVEL") c.logging.level c'.logging.level
  builtin : c'.bootstrap.builtin = c.bootstrap.builtin
  catalog : c'.bootstrap.catalog = c.bootstrap.catalog
  catalogIndex : c'.bootstrap.catalogIndex = c.bootstrap.catalogIndex
  shell : c'.bootstrap.shell = c.bootstrap.shell
  toConsole : c'.logging.toConsole = c.logging.toConsole

theorem overridden_iff {env : Environment} {c c' : PlayerConfig} :
    Overridden env c c' ↔ c' = c.override env := by
  have hassetRoot {old new : String} :
      Replaced (fun s root => root = s) (env "PLAYER_ASSET_ROOT") old new ↔
        new = (env "PLAYER_ASSET_ROOT").getD old := by
    have hsome (s root : String) : some s = some root ↔ root = s := by simp [eq_comm]
    simpa using replaced_iff hsome
  constructor
  · intro h
    obtain ⟨⟨assetRoot, builtin, catalog, catalogIndex, shell, fetchTimeout⟩,
      ⟨level, toConsole⟩⟩ := c'
    obtain rfl := hassetRoot.mp h.assetRoot
    obtain rfl := (replaced_iff fun _ _ => milliseconds?_eq_some_iff).mp h.fetchTimeout
    obtain rfl := (replaced_iff fun _ _ => LogLevel.ofName?_eq_some_iff).mp h.level
    obtain rfl := h.builtin
    obtain rfl := h.catalog
    obtain rfl := h.catalogIndex
    obtain rfl := h.shell
    obtain rfl := h.toConsole
    rfl
  · rintro rfl
    exact ⟨hassetRoot.mpr rfl, (replaced_iff fun _ _ => milliseconds?_eq_some_iff).mpr rfl,
      (replaced_iff fun _ _ => LogLevel.ofName?_eq_some_iff).mpr rfl, rfl, rfl, rfl, rfl, rfl⟩

/-- The configuration that is used is that of one file or the default one, with valid overrides;
these are made once and for all, and are no matter to whether the configuration is valid. What the
first file says is what its tables say, where it is written in tables. -/
theorem load_override (read : String → Except FileError Bytes) (env : Environment) :
    let loaded := load (m := Id) read
    let used := loaded.override env
    (∀ c, Chosen (read tomlFile) (read jsonFile) c ↔ c = loaded) ∧
      (∀ tables, (tables.map Toml.Table.name).Nodup →
        Spells (read tomlFile) (String.ofList (Toml.writeTables tables)) →
        ∀ c, InToml (read tomlFile) c ↔
          c.SaidBy .table (.object (tables.map Toml.Table.member) none)) ∧
      (∀ c, Overridden env loaded c ↔ c = used) ∧
      used.override env = used ∧ used.validate = loaded.validate := by
  intro loaded used
  refine ⟨fun c => chosen_iff, fun tables hnodup hfile c => inToml_writeTables hnodup hfile,
    fun c => overridden_iff, ?_, rfl⟩
  have hagain {α : Type} (new : Option α) (old : α) : new.getD (new.getD old) = new.getD old := by
    cases new <;> rfl
  simp only [used, override, hagain]

/-- Both files are configurations, and the first one is taken as a whole; one of three variables is
wrong. Where the first file is broken off, the second one is taken. -/
theorem load_override_shell :
    let files (table : String) : String → Except FileError Bytes := fun name =>
      if name = tomlFile then .ok (Text.encode table)
      else .ok (Text.encode "\x7b\"bootstrap\": \x7b\"shell\": \"b\", \"catalog\": \"c\"\x7d\x7d")
    let env : Environment := fun name => List.lookup name [
      ("PLAYER_FETCH_TIMEOUT_MS", "+007"), ("PLAYER_LOG_LEVEL", " warn"), ("PLAYER_ASSET_ROOT", "")]
    let whole := files
      "# quiet\nlogging.log_to_console = false\n[bootstrap]\nshell = 'a' # by name"
    let broken := files "[bootstrap]\nshell = \"a\"\nbuiltin ="
    let first : PlayerConfig := { bootstrap := { shell := "a" }, logging := { toConsole := false } }
    let second : PlayerConfig := { bootstrap := { shell := "b", catalog := "c" } }
    Chosen (whole tomlFile) (whole jsonFile) first ∧
      Overridden env first
        { first with bootstrap := { shell := "a", assetRoot := "", fetchTimeout := 7 } } ∧
      Chosen (broken tomlFile) (broken jsonFile) second ∧
      Overridden env second
        { second with
          bootstrap := { shell := "b", catalog := "c", assetRoot := "", fetchTimeout := 7 } } := by
  intro files env whole broken first second
  have hfirst : first = load (m := Id) whole := by decide +kernel
  have hsecond : second = load (m := Id) broken := by decide +kernel
  obtain ⟨hwhole, -, hused, -⟩ := load_override whole env
  obtain ⟨hbroken, -, hused', -⟩ := load_override broken env
  rw [← hfirst] at hused
  rw [← hsecond] at hused'
  exact ⟨(hwhole first).mpr hfirst, (hused _).mpr (by decide +kernel),
    (hbroken second).mpr hsecond, (hused' _).mpr (by decide +kernel)⟩

end PlayerConfig

end ContentPlayer
