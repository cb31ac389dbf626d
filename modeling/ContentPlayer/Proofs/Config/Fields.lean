import ContentPlayer.Config.Read
import ContentPlayer.Proofs.Shape.Values

namespace ContentPlayer

open Shape
open ContentPlayer.Json (Draft)

namespace LogLevel

/-- What comes with the name of a level where it is a key: null, in tables something empty. -/
def IsUnit : Medium → Draft → Prop
  | .table, d => d = .array [] none ∨ d = .object [] none
  | _, d => d = .null

/-- What stands for a level: its name, or the name as an only key. -/
def SaidBy (level : LogLevel) (m : Medium) (d : Draft) : Prop :=
  d = .string level.name ∨ ∃ content stray, d = .object [(some level.name, content)] stray ∧
    IsUnit m content ∧ (m = .text → stray = none)

theorem name_mem_names (level : LogLevel) : level.name ∈ all.map name := by
  cases level <;> decide

theorem find?_name (level : LogLevel) : all.find? (·.name = level.name) = some level := by
  cases level <;> rfl

theorem find?_eq_some_iff {name : String} {level : LogLevel} :
    all.find? (·.name = name) = some level ↔ name = level.name := by
  constructor
  · intro hfind
    simpa [eq_comm] using List.find?_some hfind
  · rintro rfl
    exact find?_name level

end LogLevel

theorem readUnit_eq_ok_iff {m : Medium} {d : Draft} :
    readUnit m (.value d) = .ok () ↔ LogLevel.IsUnit m d := by
  cases m with
  | table =>
    rcases d with _ | _ | _ | _ | _ | _ | _ | ⟨_ | _, _ | _⟩ | ⟨_ | _, _ | _⟩ | _ <;>
      simp [readUnit, LogLevel.IsUnit]
  | text | value => cases d <;> simp [readUnit, LogLevel.IsUnit]

/-- A level by its name, and by what comes with it. -/
def levelOf (m : Medium) (name : String) (content : Content) : Except Fault LogLevel := do
  readUnit m content
  match LogLevel.all.find? (·.name = name) with
  | some level => .ok level
  | none => .error (.unknownVariant name (LogLevel.all.map LogLevel.name))

theorem levelOf_eq_ok_iff {m : Medium} {name : String} {content : Content} {level : LogLevel} :
    levelOf m name content = .ok level ↔ readUnit m content = .ok () ∧ name = level.name := by
  unfold levelOf
  rw [← LogLevel.find?_eq_some_iff]
  cases readUnit m content <;> cases LogLevel.all.find? (·.name = name) <;>
    simp [bind, Except.bind]

/-- A level is read under a known name only. -/
theorem known_levelOf {m : Medium} {name : String} {content : Content} {level : LogLevel} :
    (if (LogLevel.all.map LogLevel.name).contains name then levelOf m name content
      else .error (.unknownVariant name (LogLevel.all.map LogLevel.name))) = .ok level ↔
    readUnit m content = .ok () ∧ name = level.name := by
  rw [← levelOf_eq_ok_iff]
  split
  next => rfl
  next hknown =>
    refine iff_of_false (by simp) fun hlevel => hknown ?_
    obtain ⟨-, rfl⟩ := levelOf_eq_ok_iff.mp hlevel
    simpa using level.name_mem_names

theorem readLevel_eq_ok_iff {m : Medium} {room : Nat} {d : Draft} {level : LogLevel}
    (hroom : 0 < d.depth → 0 < room) : readLevel m room d = .ok level ↔ level.SaidBy m d := by
  have hread : readLevel m =
      readChoice m (LogLevel.all.map LogLevel.name) fun name content _ => levelOf m name content :=
    rfl
  rw [hread]
  cases d with
  | string name =>
    rw [readChoice, known_levelOf]
    simp [LogLevel.SaidBy, readUnit]
  | object members stray =>
    obtain ⟨room, rfl⟩ := Nat.exists_eq_add_one.mpr (hroom (Nat.succ_pos _))
    have hsaid (name : String) (content : Draft) (rest : List (Option String × Draft)) :
        level.SaidBy m (.object ((some name, content) :: rest) stray) ↔
          (readUnit m (.value content) = .ok () ∧ name = level.name) ∧
            rest = [] ∧ (m = .text → stray = none) := by
      simp only [LogLevel.SaidBy, reduceCtorEq, false_or, Draft.object.injEq, List.cons.injEq,
        Prod.mk.injEq, Option.some.injEq, readUnit_eq_ok_iff]
      constructor
      · rintro ⟨content, stray, ⟨⟨⟨rfl, rfl⟩, rfl⟩, rfl⟩, hunit, hstray⟩
        exact ⟨⟨hunit, rfl⟩, rfl, hstray⟩
      · rintro ⟨⟨hunit, rfl⟩, rfl, hstray⟩
        exact ⟨content, stray, ⟨⟨⟨rfl, rfl⟩, rfl⟩, rfl⟩, hunit, hstray⟩
    rcases members with _ | ⟨⟨_ | name, content⟩, rest⟩
    · cases m <;> simp [readChoice, LogLevel.SaidBy]
    · cases m <;> cases rest <;> simp [readChoice, LogLevel.SaidBy]
    · rw [hsaid, ← known_levelOf]
      cases m with
      | text =>
        simp only [readChoice]
        split
        next =>
          cases levelOf .text name (.value content) <;> cases rest <;> cases stray <;>
            simp [bind, Except.bind]
        next => simp
      | value | table => cases rest <;> simp [readChoice]
  | _ => cases m <;> cases room <;> simp [readChoice, LogLevel.SaidBy]

theorem readNatural_lt {limit n : Nat} {expected : String} {d : Draft}
    (hn : readNatural limit expected d = .ok n) : n < limit := by
  cases d with
  | int m =>
    simp only [readNatural, Bool.and_eq_true, decide_eq_true_eq] at hn
    split at hn
    next =>
      obtain rfl := Except.ok.inj hn
      omega
    next => simp at hn
  | _ => simp [readNatural] at hn

/-- What is read of the milliseconds is a word of 64 bits. -/
theorem readNatural_map_eq_ok_iff {expected : String} {d : Draft} {n : UInt64} :
    (readNatural UInt64.size expected d).map Nat.toUInt64 = .ok n ↔ d = .int n.toNat := by
  cases d with
  | int m =>
    simp only [readNatural, Draft.int.injEq, Bool.and_eq_true, decide_eq_true_eq]
    have hn := n.toNat_lt
    split
    next hm =>
      obtain ⟨k, rfl⟩ := Int.eq_ofNat_of_zero_le hm.1
      have hk : k < UInt64.size := by omega
      have hword : k.toUInt64 = n ↔ k = n.toNat := by
        rw [← UInt64.toNat_inj, UInt64.toNat_ofNat_of_lt' hk]
      rw [Except.map, Except.ok.injEq, Int.toNat_natCast, hword, Int.natCast_inj]
    next hm =>
      simp only [Except.map, reduceCtorEq, false_iff]
      rintro rfl
      exact hm ⟨Int.natCast_nonneg _, Int.ofNat_lt.mpr hn⟩
  | _ => simp [readNatural, Except.map]

theorem readText_eq_ok_iff {expected s : String} {d : Draft} :
    readText expected d = .ok s ↔ d = .string s := by
  cases d <;> simp [readText]

theorem readFlag_eq_ok_iff {b : Bool} {d : Draft} : readFlag d = .ok b ↔ d = .bool b := by
  cases d <;> simp [readFlag]

namespace BootstrapConfig

def fieldNames : List String :=
  ["asset_root", "builtin", "catalog", "catalog_index", "shell", "fetch_timeout_ms"]

/-- The fields that are texts. -/
def texts : List (String × (BootstrapConfig → String)) :=
  [("asset_root", (·.assetRoot)), ("builtin", (·.builtin)), ("catalog", (·.catalog)),
    ("catalog_index", (·.catalogIndex)), ("shell", (·.shell))]

/-- What a section says: at most one thing stands for each field, and a field for which there is
none has its default. -/
structure SaidBy (c : BootstrapConfig) (m : Medium) (d : Draft) : Prop where
  fits : Fits fieldNames m d
  texts : ∀ f ∈ texts, StandsFor (· = .string (f.2 c)) (f.2 c = f.2 {}) (d.held fieldNames f.1)
  fetchTimeout : StandsFor (· = .int c.fetchTimeout.toNat)
    (c.fetchTimeout = ({} : BootstrapConfig).fetchTimeout) (d.held fieldNames "fetch_timeout_ms")

def textColumn (name expected : String) (get : BootstrapFields → Option String)
    (put : String → BootstrapFields → BootstrapFields) (value : BootstrapConfig → String) :
    Column BootstrapFields BootstrapConfig :=
  ⟨String, name, get, put, fun _ d => readText expected d, fun s v => v = .string s, value,
    fun c => value c = value {}⟩

def timeoutColumn : Column BootstrapFields BootstrapConfig :=
  ⟨UInt64, "fetch_timeout_ms", fun s => s.fetchTimeout.map Nat.toUInt64,
    fun n s => { s with fetchTimeout := some n.toNat },
    fun _ d => (readNatural UInt64.size "u64" d).map Nat.toUInt64, fun n v => v = .int n.toNat,
    (·.fetchTimeout), fun c => c.fetchTimeout = ({} : BootstrapConfig).fetchTimeout⟩

def columns : List (Column BootstrapFields BootstrapConfig) :=
  [textColumn "asset_root" "path string" (·.assetRoot) (fun b s => { s with assetRoot := some b })
      (·.assetRoot),
    textColumn "builtin" "a string" (·.builtin) (fun b s => { s with builtin := some b })
      (·.builtin),
    textColumn "catalog" "a string" (·.catalog) (fun b s => { s with catalog := some b })
      (·.catalog),
    textColumn "catalog_index" "a string" (·.catalogIndex)
      (fun b s => { s with catalogIndex := some b }) (·.catalogIndex),
    textColumn "shell" "a string" (·.shell) (fun b s => { s with shell := some b }) (·.shell),
    timeoutColumn]

theorem timeoutColumn_slot : timeoutColumn.slot = ⟨"fetch_timeout_ms", (·.fetchTimeout.isSome),
    fun _ d s => do
      return { s with fetchTimeout := some (← readNatural UInt64.size "u64" d) }⟩ := by
  have hread (d : Draft) (s : BootstrapFields) :
      (do return { s with
            fetchTimeout := some (← (readNatural UInt64.size "u64" d).map Nat.toUInt64).toNat } :
        Except Fault BootstrapFields) =
      do return { s with fetchTimeout := some (← readNatural UInt64.size "u64" d) } := by
    cases hn : readNatural UInt64.size "u64" d with
    | error e => rfl
    | ok n =>
      have hlt : n < UInt64.size := readNatural_lt hn
      simp [Except.map, bind, Except.bind, UInt64.toNat_ofNat_of_lt' hlt]
  simp only [Column.slot, timeoutColumn, Option.isSome_map, hread]

theorem settled_textColumn {name expected : String} {get : BootstrapFields → Option String}
    {put : String → BootstrapFields → BootstrapFields} {value : BootstrapConfig → String}
    {s : BootstrapFields} {c : BootstrapConfig} :
    (textColumn name expected get put value).Settled s c ↔
      (get s).getD (value {}) = value c := by
  unfold Column.Settled textColumn
  cases hget : get s <;> simp [hget, eq_comm]

theorem settled_timeoutColumn {s : BootstrapFields} {c : BootstrapConfig} :
    timeoutColumn.Settled s c ↔
      (s.fetchTimeout.map Nat.toUInt64).getD ({} : BootstrapConfig).fetchTimeout =
        c.fetchTimeout := by
  unfold Column.Settled timeoutColumn
  cases hget : s.fetchTimeout <;> simp [hget, eq_comm]

theorem form_madeOf : bootstrapForm.MadeOf columns where
  slots_eq := by
    rw [columns, List.map_cons, List.map_cons, List.map_cons, List.map_cons, List.map_cons,
      List.map_cons, timeoutColumn_slot]
    rfl
  apart := by simp [columns, textColumn, timeoutColumn, Column.apart_iff]
  get_start := by simp [columns, textColumn, timeoutColumn, bootstrapForm]
  get_put := by simp [columns, textColumn, timeoutColumn]
  finish_iff s c := by
    obtain ⟨assetRoot, builtin, catalog, catalogIndex, shell, fetchTimeout⟩ := c
    simp [columns, settled_textColumn, settled_timeoutColumn, bootstrapForm,
      BootstrapFields.config]

theorem saidBy_iff {c : BootstrapConfig} {m : Medium} {d : Draft} : c.SaidBy m d ↔
    Fits fieldNames m d ∧
      (∀ f ∈ texts, StandsFor (· = .string (f.2 c)) (f.2 c = f.2 {}) (d.held fieldNames f.1)) ∧
      StandsFor (· = .int c.fetchTimeout.toNat)
        (c.fetchTimeout = ({} : BootstrapConfig).fetchTimeout)
        (d.held fieldNames "fetch_timeout_ms") :=
  ⟨fun h => ⟨h.1, h.2, h.3⟩, fun h => ⟨h.1, h.2.1, h.2.2⟩⟩

theorem read_eq_ok_iff {m : Medium} {room : Nat} {d : Draft} {c : BootstrapConfig}
    (hroom : 0 < d.depth → 0 < room) : bootstrapForm.read m room d = .ok c ↔ c.SaidBy m d := by
  have hnames : columns.map Column.name = fieldNames := rfl
  rw [form_madeOf.read_eq_ok_iff_of_room hroom, hnames, saidBy_iff]
  simp [columns, textColumn, timeoutColumn, texts, Column.Given, readText_eq_ok_iff,
    readNatural_map_eq_ok_iff, and_assoc]

end BootstrapConfig

namespace LoggingConfig

def fieldNames : List String := ["level", "log_to_console"]

/-- What a section says: at most one thing stands for each field, and a field for which there is
none has its default. -/
structure SaidBy (c : LoggingConfig) (m : Medium) (d : Draft) : Prop where
  fits : Fits fieldNames m d
  level : StandsFor (c.level.SaidBy m) (c.level = ({} : LoggingConfig).level)
    (d.held fieldNames "level")
  toConsole : StandsFor (· = .bool c.toConsole) (c.toConsole = ({} : LoggingConfig).toConsole)
    (d.held fieldNames "log_to_console")

def columns (m : Medium) : List (Column LoggingFields LoggingConfig) :=
  [⟨LogLevel, "level", (·.level), fun b s => { s with level := some b }, readLevel m,
      fun level v => level.SaidBy m v.draft, (·.level), fun c => c.level = .info⟩,
    ⟨Bool, "log_to_console", (·.toConsole), fun b s => { s with toConsole := some b },
      fun _ d => readFlag d, fun b v => v = .bool b, (·.toConsole), fun c => c.toConsole = true⟩]

theorem form_madeOf (m : Medium) : (loggingForm m).MadeOf (columns m) where
  slots_eq := rfl
  apart := by simp [columns, Column.apart_iff]
  get_start := by simp [columns, loggingForm]
  get_put := by simp [columns]
  finish_iff := by
    rintro ⟨level, toConsole⟩ ⟨level', toConsole'⟩
    cases level <;> cases toConsole <;>
      simp [loggingForm, columns, LoggingFields.config, Column.Settled, @eq_comm _ _ level',
        @eq_comm _ _ toConsole']

theorem saidBy_iff {c : LoggingConfig} {m : Medium} {d : Draft} : c.SaidBy m d ↔
    Fits fieldNames m d ∧
      StandsFor (c.level.SaidBy m) (c.level = .info) (d.held fieldNames "level") ∧
      StandsFor (· = .bool c.toConsole) (c.toConsole = true)
        (d.held fieldNames "log_to_console") :=
  ⟨fun h => ⟨h.1, h.2, h.3⟩, fun h => ⟨h.1, h.2.1, h.2.2⟩⟩

theorem read_eq_ok_iff {m : Medium} {room : Nat} {d : Draft} {c : LoggingConfig}
    (hroom : min d.depth 2 ≤ room) : (loggingForm m).read m room d = .ok c ↔ c.SaidBy m d := by
  have hnames : (columns m).map Column.name = fieldNames := rfl
  rw [(form_madeOf m).read_eq_ok_iff_of_room (by omega), hnames, saidBy_iff]
  have hlevel : StandsFor (fun d' => readLevel m (room - 1) d' = .ok c.level) (c.level = .info)
      (d.held fieldNames "level") ↔
      StandsFor (c.level.SaidBy m) (c.level = .info) (d.held fieldNames "level") :=
    standsFor_held_congr fun d' hlt => readLevel_eq_ok_iff (by omega)
  simp [columns, Column.Given, readFlag_eq_ok_iff, hlevel]

end LoggingConfig

namespace PlayerConfig

def fieldNames : List String := ["bootstrap", "logging"]

/-- What a file says: each section at most once, and a section that there is not has its
defaults. -/
structure SaidBy (c : PlayerConfig) (m : Medium) (d : Draft) : Prop where
  fits : Fits fieldNames m d
  bootstrap : StandsFor (c.bootstrap.SaidBy m) (c.bootstrap = {}) (d.held fieldNames "bootstrap")
  logging : StandsFor (c.logging.SaidBy m) (c.logging = {}) (d.held fieldNames "logging")

def columns (m : Medium) : List (Column PlayerFields PlayerConfig) :=
  [⟨BootstrapConfig, "bootstrap", (·.bootstrap), fun b s => { s with bootstrap := some b },
      bootstrapForm.read m, fun c v => c.SaidBy m v.draft, (·.bootstrap),
      fun c => c.bootstrap = {}⟩,
    ⟨LoggingConfig, "logging", (·.logging), fun b s => { s with logging := some b },
      (loggingForm m).read m, fun c v => c.SaidBy m v.draft, (·.logging),
      fun c => c.logging = {}⟩]

theorem form_madeOf (m : Medium) : (playerForm m).MadeOf (columns m) where
  slots_eq := rfl
  apart := by simp [columns, Column.apart_iff]
  get_start := by simp [columns, playerForm]
  get_put := by simp [columns]
  finish_iff := by
    rintro ⟨bootstrap, logging⟩ ⟨bootstrap', logging'⟩
    cases bootstrap <;> cases logging <;>
      simp [playerForm, columns, PlayerFields.config, Column.Settled, @eq_comm _ _ bootstrap',
        @eq_comm _ _ logging']

theorem saidBy_iff {c : PlayerConfig} {m : Medium} {d : Draft} : c.SaidBy m d ↔
    Fits fieldNames m d ∧
      StandsFor (c.bootstrap.SaidBy m) (c.bootstrap = {}) (d.held fieldNames "bootstrap") ∧
      StandsFor (c.logging.SaidBy m) (c.logging = {}) (d.held fieldNames "logging") :=
  ⟨fun h => ⟨h.1, h.2, h.3⟩, fun h => ⟨h.1, h.2.1, h.2.2⟩⟩

/-- Sections and the levels in them stand no deeper than three in one another. -/
theorem read_eq_ok_iff {m : Medium} {room : Nat} {d : Draft} {c : PlayerConfig}
    (hroom : min d.depth 3 ≤ room) : PlayerConfig.read m room d = .ok c ↔ c.SaidBy m d := by
  have hnames : (columns m).map Column.name = fieldNames := rfl
  rw [PlayerConfig.read, (form_madeOf m).read_eq_ok_iff_of_room (by omega), hnames, saidBy_iff]
  have hbootstrap : StandsFor (fun d' => bootstrapForm.read m (room - 1) d' = .ok c.bootstrap)
      (c.bootstrap = {}) (d.held fieldNames "bootstrap") ↔
      StandsFor (c.bootstrap.SaidBy m) (c.bootstrap = {}) (d.held fieldNames "bootstrap") :=
    standsFor_held_congr fun d' hlt => BootstrapConfig.read_eq_ok_iff (by omega)
  have hlogging : StandsFor (fun d' => (loggingForm m).read m (room - 1) d' = .ok c.logging)
      (c.logging = {}) (d.held fieldNames "logging") ↔
      StandsFor (c.logging.SaidBy m) (c.logging = {}) (d.held fieldNames "logging") :=
    standsFor_held_congr fun d' hlt => LoggingConfig.read_eq_ok_iff (by omega)
  simp [columns, Column.Given, hbootstrap, hlogging]

theorem mapError_eq_ok_iff {ε ε' α : Type} {r : Except ε α} {f : ε → ε'} {a : α} :
    r.mapError f = .ok a ↔ r = .ok a := by
  cases r <;> simp [Except.mapError]

/-- A text is a configuration if it is a table throughout, and the table says one. -/
theorem ofToml_eq_ok_iff {text : String} {c : PlayerConfig} :
    ofToml text = .ok c ↔ ∃ d, Toml.ofText text = some d ∧ c.SaidBy .table d := by
  unfold ofToml
  cases Toml.ofText text with
  | none => simp
  | some d =>
    rw [mapError_eq_ok_iff, ofDraft, read_eq_ok_iff (Nat.min_le_left _ _)]
    simp

/-- A text is a configuration if it is one JSON document, and the document says one. -/
theorem ofJson_eq_ok_iff {text : String} {c : PlayerConfig} :
    ofJson text = .ok c ↔ (Json.Document.ofText text).ends = true ∧
      c.SaidBy .text (Json.Document.ofText text).value := by
  have hroom : min (Json.Document.ofText text).value.depth 3 ≤ textRoom :=
    Nat.le_trans (Nat.min_le_right _ _) (by decide)
  rw [ofJson, mapError_eq_ok_iff, ← read_eq_ok_iff hroom, Shape.ofText]
  cases PlayerConfig.read .text textRoom (Json.Document.ofText text).value <;>
    cases (Json.Document.ofText text).ends <;> simp [bind, Except.bind]

end PlayerConfig

end ContentPlayer
