import UnitLift.Session

/-!
Loading a compilation database. The commands that the library yields are grouped by file, in the
order in which the files first come up; a relative file name is seen from the directory of its
command.
-/

namespace UnitLift

structure RecordedCommand where
  directory : String
  file : String
  arguments : List String
deriving DecidableEq, Repr

def RecordedCommand.key (command : RecordedCommand) : String :=
  if Path.isAbsolute command.file then command.file
  else Path.join command.directory command.file

def Database.group (records : Table String (List Command)) (command : RecordedCommand) :
    Table String (List Command) :=
  records.insert command.key
    ((records.get? command.key).getD [] ++ [⟨command.directory, command.arguments⟩])

def Database.groupAll (commands : List RecordedCommand) : Table String (List Command) :=
  commands.foldl Database.group .empty

structure DatabaseSource where
  directory : String
  /-- The paths that are files. -/
  files : List String
  /-- The library can be used. -/
  libraryWorks : Bool
  /-- What the library answers: the commands, or why it cannot load them. -/
  commands : Except String (List RecordedCommand)

/-- The words of the library about commands that it cannot load. -/
def DatabaseSource.libraryError (reason : String) : String := "Error 1: " ++ reason

def DatabaseSource.commandFile (source : DatabaseSource) : String :=
  Path.join source.directory "compile_commands.json"

def Database.load (source : DatabaseSource) : Work Session DatabaseId := do
  if !source.files.contains source.commandFile then
    Work.fail (.databaseLoad (.noCommandFile source.directory))
  if !source.libraryWorks then Work.fail (.databaseLoad .noLibrary)
  match source.commands with
  | .error reason => Work.fail (.databaseLoad (.refused source.directory reason))
  | .ok commands =>
    let records := Database.groupAll commands
    Session.log .debug .database
      ("Loaded " ++ toString records.size ++ " files from compilation database " ++
        source.commandFile)
    let session ← get
    set { session with
      databases := session.databases.push { directory := source.directory, records := some records } }
    return session.databases.size

end UnitLift
