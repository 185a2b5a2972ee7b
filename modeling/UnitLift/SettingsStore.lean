import UnitLift.Logging
import UnitLift.SettingsLibrary

namespace UnitLift

/-- A log with the file system that it writes to, and the settings that hold for the process. -/
structure SettingsStore (Config : Type) where
  logging : Logging := {}
  journal : Journal := {}
  /-- The settings that hold for the process, once they have been asked for. -/
  current : Option Config := none
  /-- The settings that were read or asked for last. -/
  latest : Option Config := none

namespace SettingsStore

variable {Config : Type} (library : SettingsLibrary Config)

/-- A store at the start, when the log is set up for records from a level on. -/
def start (level : Level) (fileSystem : FileSystem) : SettingsStore Config :=
  { logging :=
      { level := some level, propagates := false, outlets := [.console false]
        fileSystem }
    journal := { threshold := level } }

def note (level : Level) (message : String) : Work (SettingsStore Config) Unit :=
  modify fun store =>
    { store with
      journal := store.journal.add ⟨level, .settings, message⟩
      logging := store.logging.log ⟨level.rank, Logging.name, message⟩ }

def setUpLog (settings : Config) : Work (SettingsStore Config) Unit := do
  let wanted ← Work.ofFault (library.logging settings)
  (Logging.setUp wanted.verbose wanted.colored wanted.file).onPart logging
    fun logging store => { store with logging }
  modify fun store =>
    { store with
      journal := { store.journal with threshold := store.logging.level.getD .info } }

/-- The settings in a file laid over the defaults, or the defaults where there is no file. -/
def readSettings (path : Option String) : Work (SettingsStore Config) Config := do
  let defaults := library.create Settings.defaults
  let settings ← match path.filter (!·.isEmpty) with
    | none => pure defaults
    | some path => do
      let system := (← get).logging.fileSystem
      if !system.exists? path then
        note .warning ("Configuration file not found: " ++ path)
        pure defaults
      else
        let text ← Work.ofFault (system.read path)
        let settings ← Work.ofFault (library.merge defaults (← Work.ofFault (library.load text)))
        note .info ("Loaded configuration from " ++ path)
        pure settings
  setUpLog library settings
  modify fun store => { store with latest := some settings }
  return settings

/-- Lets the settings in a file hold for the process. -/
def load (path : Option String) : Work (SettingsStore Config) Config := do
  let settings ← readSettings library path
  modify fun store => { store with current := some settings }
  return settings

/-- The settings that hold for the process: the defaults, unless others were loaded. -/
def processSettings : Work (SettingsStore Config) Config := do
  match (← get).current with
  | some settings => return settings
  | none =>
    let latest := (← get).latest
    let settings ← load library none
    modify fun store => { store with latest }
    return settings

/-- The settings that hold for the process, which count as the latest ones then. -/
def askProcess : Work (SettingsStore Config) Config := do
  let settings ← processSettings library
  modify fun store => { store with latest := some settings }
  return settings

/-- The settings that were read or asked for last, of which there have to be some. -/
def latestSettings : Work (SettingsStore Config) Config := do
  match (← get).latest with
  | some settings => return settings
  | none => Work.fault .missingPart

/-- Writes a document to a file, and logs that with `done` or `failed` before the path or the error.
Where there is none to write, the file has been opened and is empty. -/
def write (path : String) (document : Except Fault String) (done failed : String) :
    Work (SettingsStore Config) Bool := do
  match (← get).logging.fileSystem.write path (document.toOption.getD "") with
  | .ok fileSystem =>
    modify fun store => { store with logging := { store.logging with fileSystem } }
    let _ ← Work.ofFault document
    note .info (done ++ path)
    return true
  | .error (.notOpened error) =>
    note .error (failed ++ error.text path)
    return false
  | .error fault => Work.fault fault

/-- Saves settings to a file, and tells whether that was possible. -/
def save (settings : Config) (path : String) : Work (SettingsStore Config) Bool :=
  write path (library.dump (library.contents settings)) "Saved configuration to "
    "Error saving configuration: "

/-- Writes the defaults to a file, and tells whether that was possible. -/
def generate (path : String) : Work (SettingsStore Config) Bool :=
  write path (library.dump Settings.defaults) "Generated default configuration at "
    "Error generating default configuration: "

def textOf (path : String) : Work (SettingsStore Config) String := do
  Work.ofFault ((← get).logging.fileSystem.read path)

end SettingsStore

end UnitLift
