import UnitLift.Proofs.Logging
import UnitLift.Proofs.Settings.Laws
import UnitLift.SettingsStore

namespace UnitLift.SettingsStore

open Settings (LoggingSection)
open Value (IsTree Alike)

variable {Config : Type} {library : SettingsLibrary Config} {dialect : Dialect}
  {store loaded left saved after : SettingsStore Config} {source path text : String}
  {user settings : Config} {entries : List (Scalar × Value)} {wanted : LoggingSection}

private theorem exists_runFrom_note (level : Level) (message : String) (store : SettingsStore Config) :
    ∃ noted, (note level message).runFrom store = (.ok ⟨⟩, noted) ∧
      noted.logging = store.logging.log ⟨level.rank, Logging.name, message⟩ := ⟨_, rfl, rfl⟩

/-! ## Setting up the log -/

private theorem of_runFrom_setUpLog (ran : (setUpLog library settings).runFrom store = (.ok ⟨⟩, after)) :
    ∃ wanted, library.logging settings = .ok wanted ∧
      (Logging.setUpFor wanted).runFrom store.logging = (.ok ⟨⟩, after.logging) := by
  obtain ⟨wanted, between, found, next⟩ := Work.of_runFrom_bind ran
  obtain ⟨asked, same⟩ := Work.of_runFrom_ofFault found
  rw [same] at next
  obtain ⟨⟨⟩, changed, set, last⟩ := Work.of_runFrom_bind next
  rw [Work.runFrom_onPart] at set
  have outcome : ((Logging.setUpFor wanted).runFrom store.logging).1 = .ok ⟨⟩ := congrArg Prod.fst set
  have logging : ((Logging.setUpFor wanted).runFrom store.logging).2 = changed.logging :=
    congrArg (fun run => run.2.logging) set
  have kept : changed.logging = after.logging := congrArg (fun run => run.2.logging) last
  exact ⟨wanted, asked, Prod.ext outcome (logging.trans kept)⟩

private theorem exists_runFrom_setUpLog (asked : library.logging settings = .ok wanted)
    (sends : store.logging.SendsTo wanted.file) :
    ∃ after, (setUpLog library settings).runFrom store = (.ok ⟨⟩, after) := by
  obtain ⟨changed, set⟩ := Logging.exists_setUp sends wanted.verbose wanted.colored
  let next : SettingsStore Config := { store with logging := changed }
  have part : ((Logging.setUpFor wanted).onPart logging
      fun logging store => { store with logging }).runFrom store = (.ok ⟨⟩, next) := by
    rw [Work.runFrom_onPart, Logging.setUpFor, set]
  unfold setUpLog
  rw [asked, Work.runFrom_bind_of_ok (Work.runFrom_ofFault_ok wanted store)]
  exact ⟨_, Work.runFrom_bind_of_ok part _⟩

/-! ## Reading -/

def settingsIn (library : SettingsLibrary Config) (text : String) : Except Fault Config := do
  library.merge (library.create Settings.defaults) (← library.load text)

/-- Puts settings that were found in a file to use. -/
def adopt (library : SettingsLibrary Config) (path : String) (settings : Config) :
    Work (SettingsStore Config) Config := do
  note .info ("Loaded configuration from " ++ path)
  setUpLog library settings
  modify fun store => { store with latest := some settings }
  return settings

private theorem runFrom_readSettings (regular : store.logging.fileSystem.paths.IsRegular)
    (there : store.logging.fileSystem.read path = .ok text) :
    (readSettings library (some path)).runFrom store =
      (Work.ofFault (settingsIn library text) >>= adopt library path).runFrom store := by
  obtain ⟨leads, filled⟩ := FileSystem.exists_of_read regular there
  have given : (some path).filter (!·.isEmpty) = some path := by simp [filled]
  unfold readSettings settingsIn
  rw [given]
  dsimp only
  rw [Work.runFrom_bind_of_ok (Work.runFrom_get _), leads, if_neg (by simp), there,
    Work.runFrom_bind_of_ok (Work.runFrom_ofFault_ok text _)]
  cases library.load text with
  | error fault => rfl
  | ok user => rfl

private theorem runFrom_readSettings_of_ok (regular : store.logging.fileSystem.paths.IsRegular)
    (there : store.logging.fileSystem.read path = .ok text) (found : settingsIn library text = .ok settings) :
    (readSettings library (some path)).runFrom store = (adopt library path settings).runFrom store := by
  rw [runFrom_readSettings regular there, found,
    Work.runFrom_bind_of_ok (Work.runFrom_ofFault_ok settings store)]

private theorem of_runFrom_adopt {result : Config}
    (ran : (adopt library path settings).runFrom store = (.ok result, after)) :
    result = settings ∧ store.logging.Extends after.logging ∧
      ∃ wanted, library.logging settings = .ok wanted ∧ after.logging.SendsTo wanted.file := by
  obtain ⟨noted, note, logged⟩ := exists_runFrom_note .info ("Loaded configuration from " ++ path) store
  unfold adopt at ran
  rw [Work.runFrom_bind_of_ok note] at ran
  obtain ⟨⟨⟩, changed, set, last⟩ := Work.of_runFrom_bind ran
  obtain ⟨wanted, asked, opened⟩ := of_runFrom_setUpLog set
  have same : result = settings := (Except.ok.inj (congrArg Prod.fst last)).symm
  have kept : changed.logging = after.logging := congrArg (fun run => run.2.logging) last
  have later : store.logging.Extends noted.logging := logged ▸ Logging.extends_log _ _
  rw [← kept]
  exact ⟨same, later.trans (Logging.extends_of_setUp opened), wanted, asked, Logging.sendsTo_of_setUp opened⟩

private theorem exists_runFrom_adopt (path : String) (asked : library.logging settings = .ok wanted)
    (sends : store.logging.SendsTo wanted.file) :
    ∃ after, (adopt library path settings).runFrom store = (.ok settings, after) := by
  obtain ⟨noted, note, logged⟩ := exists_runFrom_note .info ("Loaded configuration from " ++ path) store
  have still : noted.logging.SendsTo wanted.file := sends.mono (logged ▸ Logging.extends_log _ _)
  obtain ⟨changed, set⟩ := exists_runFrom_setUpLog asked still
  unfold adopt
  rw [Work.runFrom_bind_of_ok note, Work.runFrom_bind_of_ok set]
  exact ⟨_, rfl⟩

/-! ## Saving -/

/-- Settings that were saved are in their file, unless the log writes to it as well. -/
private theorem holds_of_save (ran : (save library settings path).runFrom left = (.ok true, saved))
    (apart : left.logging.IsApart path) :
    left.logging.Extends saved.logging ∧
      ∃ text file, library.dump (library.contents settings) = .ok text ∧
        saved.logging.fileSystem.Holds path file text := by
  unfold save write at ran
  rw [Work.runFrom_bind_of_ok (Work.runFrom_get _)] at ran
  generalize library.dump (library.contents settings) = document at ran ⊢
  cases written : left.logging.fileSystem.write path (document.toOption.getD "") with
  | error fault =>
    rw [written] at ran
    cases fault with
    | notOpened => cases ran
    | _ => cases ran
  | ok fileSystem =>
    rw [written] at ran
    cases document with
    | error fault => cases ran
    | ok text =>
      obtain ⟨directory, paths, file, opened, holds⟩ := FileSystem.holds_of_write written
      let changed : SettingsStore Config := { left with logging := { left.logging with fileSystem } }
      obtain ⟨noted, note, logged⟩ :=
        exists_runFrom_note .info ("Saved configuration to " ++ path) changed
      rw [Work.runFrom_bind_of_ok (Work.runFrom_modify _ _),
        Work.runFrom_bind_of_ok (Work.runFrom_ofFault_ok text _), Work.runFrom_bind_of_ok note] at ran
      obtain rfl : noted = saved := congrArg Prod.snd ran
      have kept : left.logging.Extends changed.logging := ⟨directory, paths, List.Subset.refl _⟩
      rw [logged]
      refine ⟨kept.trans (Logging.extends_log _ _), text, file, rfl, Logging.holds_log _ ?_ holds⟩
      rintro absolute _ member rfl
      exact apart absolute _ member opened

theorem exists_save {file : String} (opened : left.logging.fileSystem.fileAt .write path = .ok file)
    (made : (library.dump (library.contents settings)).isOk = true) :
    ∃ saved, (save library settings path).runFrom left = (.ok true, saved) := by
  unfold save write
  rw [Work.runFrom_bind_of_ok (Work.runFrom_get _), FileSystem.write, opened]
  cases document : library.dump (library.contents settings) with
  | error fault =>
    rw [document] at made
    cases made
  | ok text => exact ⟨_, rfl⟩

/-! ## Saving and reading again -/

private theorem sendsTo_alike {value other : Value} {logging : Logging} (sends : logging.SendsTo value)
    (given : other.isTruthy = value.isTruthy) (alike : Alike other value) : logging.SendsTo other := by
  intro asked
  obtain ⟨path, rfl, there⟩ := sends (given ▸ asked)
  exact ⟨path, alike.scalar_right, there⟩

/-- Settings that were loaded from a file and saved to another are loaded from there as they were: what they
answer under any key is the same but for the order of entries. The log must not write to the file that they
were saved to. -/
theorem load_saved (laws : library.Laws dialect) (regular : store.logging.fileSystem.paths.IsRegular)
    (there : store.logging.fileSystem.read source = .ok text) (read : library.load text = .ok user)
    (mapping : library.contents user = .mapping entries)
    (tree : IsTree dialect.IsFaithfulName dialect.IsFaithfulLeaf 0 (.mapping entries))
    (loads : (readSettings library (some source)).runFrom store = (.ok settings, loaded))
    (later : loaded.logging.Extends left.logging) (apart : left.logging.IsApart path)
    (saves : (save library settings path).runFrom left = (.ok true, saved)) :
    ∃ again after, (readSettings library (some path)).runFrom saved = (.ok again, after) ∧
      ∀ key default, Agree (library.get again key default) (library.get settings key default) := by
  rw [runFrom_readSettings regular there] at loads
  obtain ⟨found, between, inFile, adopted⟩ := Work.of_runFrom_bind loads
  obtain ⟨inFile, same⟩ := Work.of_runFrom_ofFault inFile
  obtain ⟨rfl, still, wanted, asked, sends⟩ := of_runFrom_adopt adopted
  obtain ⟨kept, document, file, made, holds⟩ := holds_of_save saves apart
  rw [settingsIn, read] at inFile
  obtain ⟨dumped, again, loaded', merged, settled, settled', alike⟩ :=
    laws.exists_load_dump read mapping tree inFile made
  obtain ⟨wanted', asked', -, -, given, sameFile⟩ := laws.logging_alike settled settled' alike asked
  have regular' : saved.logging.fileSystem.paths.IsRegular := by
    have paths := ((still.trans later).trans kept).paths
    rw [paths, same]
    exact regular
  obtain ⟨after, ran⟩ := exists_runFrom_adopt path asked'
    (sendsTo_alike (sends.mono (later.trans kept)) given sameFile)
  have result : settingsIn library document = .ok again := by
    rw [settingsIn, loaded']
    exact merged
  exact ⟨again, after, (runFrom_readSettings_of_ok regular' (holds.read regular') result).trans ran,
    fun key default => laws.get_alike settled settled' alike key default⟩

/-- A store with one file of a user. -/
def storeOf (text : String) : SettingsStore Value :=
  start .info (.working "/work" (.ofList [("a.yaml", text)]))

private theorem regular_storeOf (text : String) : (storeOf text).logging.fileSystem.paths.IsRegular :=
  WorkingDirectory.isRegular_paths "/work"

/-- Sections of which names and texts look like something else, with a file for the log. -/
def sectionsSample : List (String × Value) :=
  [("logging", .record [("file", .text "log"), ("level", .text "debug")]),
    ("names", .record [("1", .text "yes"), ("a: b", .text " 1.5 # ")]), ("parser", .null)]

/-- The file of a user with those sections. -/
def textSample : String :=
  "logging: \x7bfile: log, level: debug\x7d\nnames:\n  '1': 'yes'\n  'a: b': ' 1.5 # '\nparser:\n"

def settingsSample : Value :=
  .record [("logging", .record [("level", .text "debug"), ("colored", .bool true), ("file", .text "log")]),
    ("parser", .null), ("names", sectionsSample[1].2)]

private theorem isTree_sample :
    IsTree Settings.dialect.IsFaithfulName Settings.dialect.IsFaithfulLeaf 0 (.record sectionsSample) := by
  refine .record (by decide) (by decide +kernel) (List.forall_mem_cons.mpr ⟨?logging,
    List.forall_mem_cons.mpr ⟨?names, List.forall_mem_singleton.mpr (.scalar trivial)⟩⟩)
  case logging =>
    exact .record (by decide) (by decide +kernel) (List.forall_mem_cons.mpr
      ⟨.scalar (by decide +kernel), List.forall_mem_singleton.mpr (.scalar (by decide +kernel))⟩)
  case names =>
    exact .record (by decide) (by decide +kernel) (List.forall_mem_cons.mpr
      ⟨.scalar (by decide +kernel), List.forall_mem_singleton.mpr (.scalar (by decide +kernel))⟩)

theorem load_saved_sample :
    ∃ loaded saved again after,
      (readSettings Settings.library (some "a.yaml")).runFrom (storeOf textSample) =
        (.ok settingsSample, loaded) ∧
      (save Settings.library settingsSample "b.yaml").runFrom loaded = (.ok true, saved) ∧
      (readSettings Settings.library (some "b.yaml")).runFrom saved = (.ok again, after) ∧
      ∀ key default, Agree (Settings.library.get again key default)
        (Settings.library.get settingsSample key default) := by
  have there : (storeOf textSample).logging.fileSystem.read "a.yaml" = .ok textSample := by decide +kernel
  have read : Settings.library.load textSample = .ok (.record sectionsSample) := by decide +kernel
  have found : settingsIn Settings.library textSample = .ok settingsSample := by
    rw [settingsIn, read]
    decide +kernel
  let run := (adopt Settings.library "a.yaml" settingsSample).runFrom (storeOf textSample)
  have known : (run.1, run.2.logging.outlets, run.2.logging.fileSystem.fileAt .write "b.yaml") =
      (.ok settingsSample, [.console false, .file "/work/log" "log"], .ok "b.yaml") := by decide +kernel
  obtain ⟨result, outlets, opened⟩ := by simpa only [Prod.mk.injEq] using known
  have loads : (readSettings Settings.library (some "a.yaml")).runFrom (storeOf textSample) =
      (.ok settingsSample, run.2) :=
    (runFrom_readSettings_of_ok (regular_storeOf _) there found).trans (Prod.ext result rfl)
  have apart : run.2.logging.IsApart "b.yaml" := by
    intro absolute file member same
    rw [outlets] at member
    obtain rfl : file = "log" := by simpa using (by simpa using member : absolute = "/work/log" ∧ file = "log").2
    exact absurd (Except.ok.inj (opened.symm.trans same)) (by decide)
  have made : (Settings.library.dump (Settings.library.contents settingsSample)).isOk = true := by
    decide +kernel
  obtain ⟨saved, saves⟩ := exists_save opened made
  obtain ⟨again, after, reads, agree⟩ := load_saved Settings.laws (regular_storeOf _) there
    read rfl isTree_sample loads (.refl _) apart saves
  exact ⟨run.2, saved, again, after, loads, saves, reads, agree⟩

/-- The file of a user with a text that looks like a number to the reader only. -/
def numberLikeText : String := "name: '1e3'\nparser:\n"

def settingsNamed (value : Value) : Value :=
  .record [("logging", .record [("level", .text "INFO"), ("colored", .bool true), ("file", .null)]),
    ("parser", .null), ("name", value)]

def numberLikeDocument : String :=
  "logging:\n  colored: true\n  file: null\n  level: INFO\nname: 1e3\nparser: null\n"

private theorem document_numberLike :
    Settings.document (settingsNamed (.text "1e3")) = .ok numberLikeDocument := by
  have inner (level colored file : List Char) :
      Yaml.sortEntries [(.text "level", level), (.text "colored", colored), (.text "file", file)] =
        [(.text "colored", colored), (.text "file", file), (.text "level", level)] := by
    have coloredLevel : Yaml.comesBefore (.text "colored") (.text "level") = true := by decide +kernel
    have fileColored : Yaml.comesBefore (.text "file") (.text "colored") = false := by decide +kernel
    have fileLevel : Yaml.comesBefore (.text "file") (.text "level") = true := by decide +kernel
    simp [Yaml.sortEntries, Yaml.isText, List.mergeSort, coloredLevel, fileColored, fileLevel]
  have outer (logging parser name : List Char) :
      Yaml.sortEntries [(.text "logging", logging), (.text "parser", parser), (.text "name", name)] =
        [(.text "logging", logging), (.text "name", name), (.text "parser", parser)] := by
    have parserLogging : Yaml.comesBefore (.text "parser") (.text "logging") = false := by decide +kernel
    have nameLogging : Yaml.comesBefore (.text "name") (.text "logging") = false := by decide +kernel
    have nameParser : Yaml.comesBefore (.text "name") (.text "parser") = true := by decide +kernel
    simp [Yaml.sortEntries, Yaml.isText, List.mergeSort, parserLogging, nameLogging, nameParser]
  rw [settingsNamed, Value.record, Settings.document, if_pos (by decide +kernel)]
  simp only [Value.record, List.map, Yaml.writeDocument, Yaml.writeEntries, Yaml.writeValue,
    Yaml.joinEntries, outer, inner]
  decide +kernel

/-- A text that is saved may be loaded as a number. -/
theorem save_loses_text_sample :
    ∃ loaded saved again after,
      (readSettings Settings.library (some "a.yaml")).runFrom (storeOf numberLikeText) =
        (.ok (settingsNamed (.text "1e3")), loaded) ∧
      (save Settings.library (settingsNamed (.text "1e3")) "b.yaml").runFrom loaded = (.ok true, saved) ∧
      (readSettings Settings.library (some "b.yaml")).runFrom saved = (.ok again, after) ∧
      Settings.library.get (settingsNamed (.text "1e3")) "name" .null = .ok (.text "1e3") ∧
      Settings.library.get again "name" .null = .ok (.scalar (.real (.ofNat 1000))) := by
  have there : (storeOf numberLikeText).logging.fileSystem.read "a.yaml" = .ok numberLikeText := by
    decide +kernel
  have found : settingsIn Settings.library numberLikeText = .ok (settingsNamed (.text "1e3")) := by
    decide +kernel
  let run := (adopt Settings.library "a.yaml" (settingsNamed (.text "1e3"))).runFrom
    (storeOf numberLikeText)
  have known : (run.1, run.2.logging.outlets, run.2.logging.fileSystem.fileAt .write "b.yaml") =
      (.ok (settingsNamed (.text "1e3")), [.console false], .ok "b.yaml") := by decide +kernel
  obtain ⟨result, outlets, opened⟩ := by simpa only [Prod.mk.injEq] using known
  have made : (Settings.library.dump (Settings.library.contents (settingsNamed (.text "1e3")))).isOk =
      true := by
    decide +kernel
  obtain ⟨saved, saves⟩ := exists_save opened made
  have apart : run.2.logging.IsApart "b.yaml" := fun _ _ member => by simp [outlets] at member
  obtain ⟨kept, text, file, made, holds⟩ := holds_of_save saves apart
  obtain rfl := Except.ok.inj (document_numberLike.symm.trans made)
  let again := settingsNamed (.scalar (.real (.ofNat 1000)))
  have read : settingsIn Settings.library numberLikeDocument = .ok again := by decide +kernel
  have asked : Settings.library.logging again = .ok ⟨false, true, .null⟩ := by decide +kernel
  obtain ⟨after, reads⟩ : ∃ after,
      (adopt Settings.library "b.yaml" again).runFrom saved = (.ok again, after) :=
    exists_runFrom_adopt "b.yaml" asked nofun
  have adopted : run = (.ok (settingsNamed (.text "1e3")), run.2) := Prod.ext result rfl
  have regular : saved.logging.fileSystem.paths.IsRegular := by
    rw [kept.paths, (of_runFrom_adopt adopted).2.1.paths]
    exact regular_storeOf numberLikeText
  exact ⟨run.2, saved, again, after,
    (runFrom_readSettings_of_ok (regular_storeOf numberLikeText) there found).trans adopted, saves,
    (runFrom_readSettings_of_ok regular (holds.read regular) read).trans reads, by decide +kernel,
    by decide +kernel⟩

end UnitLift.SettingsStore
