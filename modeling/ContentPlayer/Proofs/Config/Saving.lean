import ContentPlayer.Config.Read
import ContentPlayer.Config.Write
import ContentPlayer.Proofs.Toml.Documents

namespace ContentPlayer

open ContentPlayer.Json (Draft)

/-- A pair of a text. -/
def textPair (key : String) (bare : Toml.Bare key) (s : String) : Toml.Pair where
  key := key
  text := Toml.writeString s.toList
  value := .string s
  bare := bare
  writes := .text s

section Pairs

variable {key : String} {bare : Toml.Bare key} {s : String}

@[simp] theorem key_textPair : (textPair key bare s).key = key := rfl

@[simp] theorem text_textPair : (textPair key bare s).text = Toml.writeString s.toList := rfl

@[simp] theorem value_textPair : (textPair key bare s).value = .string s := rfl

end Pairs

def BootstrapConfig.table (c : BootstrapConfig) : Toml.Table where
  name := "bootstrap"
  pairs := [
    textPair "asset_root" ⟨by simp, by simp [Toml.isBareKeyChar]⟩ c.assetRoot,
    textPair "builtin" ⟨by simp, by simp [Toml.isBareKeyChar]⟩ c.builtin,
    textPair "catalog" ⟨by simp, by simp [Toml.isBareKeyChar]⟩ c.catalog,
    textPair "catalog_index" ⟨by simp, by simp [Toml.isBareKeyChar]⟩ c.catalogIndex,
    textPair "shell" ⟨by simp, by simp [Toml.isBareKeyChar]⟩ c.shell,
    { key := "fetch_timeout_ms"
      text := Nat.toDigits 10 c.fetchTimeout.toNat
      value := .int c.fetchTimeout.toNat
      bare := ⟨by simp, by simp [Toml.isBareKeyChar]⟩
      writes := .natural c.fetchTimeout.toNat_lt }]
  bare := ⟨by simp, by simp [Toml.isBareKeyChar]⟩
  nodup := by
    show ["asset_root", "builtin", "catalog", "catalog_index", "shell", "fetch_timeout_ms"].Nodup
    simp

def LoggingConfig.table (c : LoggingConfig) : Toml.Table where
  name := "logging"
  pairs := [
    textPair "level" ⟨by simp, by simp [Toml.isBareKeyChar]⟩ c.level.name,
    { key := "log_to_console"
      text := if c.toConsole then "true".toList else "false".toList
      value := .bool c.toConsole
      bare := ⟨by simp, by simp [Toml.isBareKeyChar]⟩
      writes := .flag c.toConsole }]
  bare := ⟨by simp, by simp [Toml.isBareKeyChar]⟩
  nodup := by
    show ["level", "log_to_console"].Nodup
    simp

def PlayerConfig.tables (c : PlayerConfig) : List Toml.Table :=
  [c.bootstrap.table, c.logging.table]

theorem PlayerConfig.toToml_eq (c : PlayerConfig) :
    c.toToml = String.ofList (Toml.writeTables c.tables) := by
  simp [toToml, tables, BootstrapConfig.table, LoggingConfig.table, Toml.writeTables,
    Toml.Table.written, Toml.Pair.written]

namespace Shape

theorem readNatural_of_lt {n limit : Nat} (hn : n < limit) (expected : String) :
    readNatural limit expected (.int n) = .ok n := by
  simp [readNatural, hn]

theorem ok_bind {α β : Type} (a : α) (f : α → Except Fault β) : (.ok a >>= f) = f a := rfl

theorem Form.read_object {σ α : Type} {form : Form σ α} {room : Nat} {s : σ} {a : α}
    {members : List (Option String × Draft)}
    (hmembers : readMembers form.slots room members form.start = .ok s)
    (hfinish : form.finish s = .ok a) :
    form.read .table (room + 1) (.object members none) = .ok a := by
  simp [Form.read, hmembers, hfinish, ok_bind, Except.mapError]

end Shape

section Reading

open Shape

theorem readLevel_name (level : LogLevel) (room : Nat) :
    readLevel .table room (.string level.name) = .ok level := by
  cases level <;> rfl

theorem bootstrapForm_read (c : BootstrapConfig) (room : Nat) :
    bootstrapForm.read .table (room + 1) (.object (c.table.pairs.map Toml.Pair.member) none) =
      .ok c := by
  have htimeout : readNatural UInt64.size "u64" (.int c.fetchTimeout.toNat) =
      .ok c.fetchTimeout.toNat := readNatural_of_lt c.fetchTimeout.toNat_lt _
  refine Form.read_object (s := ⟨c.assetRoot, c.builtin, c.catalog, c.catalogIndex, c.shell,
    c.fetchTimeout.toNat⟩) ?_ ?_
  · simp [bootstrapForm, BootstrapConfig.table, Toml.Pair.member, Shape.readMembers, readText,
      htimeout, ok_bind]
  · simp [bootstrapForm, BootstrapFields.config]

theorem loggingForm_read (c : LoggingConfig) (room : Nat) :
    (loggingForm .table).read .table (room + 1)
      (.object (c.table.pairs.map Toml.Pair.member) none) = .ok c := by
  refine Form.read_object (s := ⟨c.level, c.toConsole⟩) ?_ rfl
  simp [loggingForm, LoggingConfig.table, Toml.Pair.member, Shape.readMembers, readFlag,
    readLevel_name, ok_bind]

theorem PlayerConfig.read_tables (c : PlayerConfig) :
    ofDraft (PlayerConfig.read .table) (.object (c.tables.map Toml.Table.member) none) = .ok c := by
  have hdepth : (Draft.object (c.tables.map Toml.Table.member) none).depth = 2 := by
    simp [tables, Toml.Table.member, BootstrapConfig.table, LoggingConfig.table, Toml.Pair.member,
      Draft.depth, Draft.depthMembers]
  have hbootstrap := bootstrapForm_read c.bootstrap 0
  have hlogging := loggingForm_read c.logging 0
  have hname : c.bootstrap.table.name = "bootstrap" := rfl
  have hname' : c.logging.table.name = "logging" := rfl
  rw [ofDraft, hdepth]
  refine Form.read_object (s := ⟨c.bootstrap, c.logging⟩) ?_ rfl
  simp [playerForm, tables, Toml.Table.member, Shape.readMembers, hname, hname', hbootstrap,
    hlogging, ok_bind]

end Reading

/-- A configuration that is written as a file reads back as it was. -/
theorem PlayerConfig.ofToml_toToml (c : PlayerConfig) : ofToml c.toToml = .ok c := by
  have hnodup : (c.tables.map Toml.Table.name).Nodup := by
    simp [tables, BootstrapConfig.table, LoggingConfig.table]
  have hdocument := Toml.ofText_writeTables c.tables hnodup
  unfold ofToml
  rw [toToml_eq, hdocument]
  dsimp only
  rw [read_tables]
  rfl

end ContentPlayer
