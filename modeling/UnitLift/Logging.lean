import UnitLift.Data.Value
import UnitLift.Journal
import UnitLift.WorkingDirectory
import UnitLift.Work

/-!
Where log records go: to the console, where the level may be painted, and to files. Setting up the
log may be repeated: it adds what is missing, and the level only ever moves towards more records.
-/

namespace UnitLift

/-- Where records are sent. -/
inductive Outlet where
  | console (painted : Bool)
  /-- A file, by its absolute path and its name. -/
  | file (path file : String)
  /-- An outlet that drops what it gets. -/
  | drain
deriving DecidableEq, Repr

def Outlet.isConsole : Outlet → Bool
  | console _ => true
  | _ => false

/-- The absolute path of the file that an outlet writes to. -/
def Outlet.path? : Outlet → Option String
  | file path _ => some path
  | _ => none

/-- A record on its way to the outlets; any number may serve as its level. -/
structure LogRecord where
  rank : Int
  logger : String
  message : String
deriving DecidableEq, Repr

/-- The code that a terminal takes for the colour of a level. -/
def Level.colour : Level → String
  | debug => "\x1b[36m"
  | info => "\x1b[32m"
  | warning => "\x1b[33m"
  | error => "\x1b[31m"
  | critical => "\x1b[1;31m"

def Text.replaceFirst (part replacement : List Char) : List Char → List Char
  | [] => []
  | c :: rest =>
    if part.isPrefixOf (c :: rest) then replacement ++ (c :: rest).drop part.length
    else c :: replaceFirst part replacement rest

namespace LogRecord

def levelName (record : LogRecord) : String :=
  match Level.ofRank? record.rank with
  | some level => level.name
  | none => if record.rank == 0 then "NOTSET" else "Level " ++ toString record.rank

/-- A record in one line, after the time at which it was made. -/
def line (time : String) (record : LogRecord) : String :=
  String.intercalate " - " [time, record.logger, record.levelName, record.message]

/-- The line of a record with the name of its level painted where it first occurs. -/
def paintedLine (time : String) (record : LogRecord) : String :=
  let plain := record.line time
  match Level.ofRank? record.rank with
  | none => plain
  | some level =>
    String.ofList (Text.replaceFirst level.name.toList
      (level.colour ++ level.name ++ "\x1b[0m").toList plain.toList)

end LogRecord

/-- A logger with its outlets, the console and the file system that it writes to. -/
structure Logging where
  /-- The level from which on records pass, if it was ever set. -/
  level : Option Level := none
  /-- Whether records are also handed to what would take them had nothing been set up. -/
  propagates : Bool := true
  outlets : List Outlet := []
  /-- Whether the console is a terminal. -/
  terminal : Bool := false
  time : String := "2023-11-14 22:13:20,000"
  console : String := ""
  fileSystem : FileSystem := .working "/work" .empty

namespace Logging

def name : String := "cxxparse"

/-- The name of a logger below it, or its own if none is named. -/
def childName (child : String) : String := if child.isEmpty then name else name ++ "." ++ child

/-- Sends records to a file as well, unless it is open under its absolute path. -/
def openFile (path : String) : Work Logging Unit := do
  let system := (← get).fileSystem
  let path := Path.absolute system.directory path
  if !(← get).outlets.any (·.path? == some path) then
    let file ← Work.ofFault (system.fileAt .append path)
    modify fun logging =>
      { logging with
        outlets := logging.outlets ++ [.file path file]
        fileSystem := logging.fileSystem.append file "" }

/-- Adds a console unless there is one, and a file if one is given, and lowers the level for verbose
logs. A file that cannot be opened leaves the level as it was. -/
def setUp (verbose colored : Bool) (logFile : Value) : Work Logging Unit := do
  if !(← get).outlets.any Outlet.isConsole then
    modify fun logging =>
      { logging with
        outlets := logging.outlets ++ [.console (colored && logging.terminal)], propagates := false }
  if logFile.isTruthy then
    match logFile with
    | .scalar (.text path) => openFile path
    | _ => Work.fault .notAPath
  modify fun logging =>
    { logging with
      level := if verbose then some .debug else some (logging.level.getD .info) }

/-- Adds an outlet that drops what it gets. -/
def addDrain (logging : Logging) : Logging :=
  { logging with outlets := logging.outlets ++ [.drain] }

/-- The rank from which on records pass. -/
def threshold (logging : Logging) : Nat := (logging.level.getD .warning).rank

/-- The name of the level, if it was ever set. -/
def levelName (logging : Logging) : String := (logging.level.map Level.name).getD "NOTSET"

def print (logging : Logging) (line : String) : Logging :=
  { logging with console := logging.console ++ line ++ "\n" }

def send (record : LogRecord) (logging : Logging) : Outlet → Logging
  | .console painted =>
    logging.print (if painted then record.paintedLine logging.time else record.line logging.time)
  | .file _ file =>
    { logging with
      fileSystem := logging.fileSystem.append file (record.line logging.time ++ "\n") }
  | .drain => logging

/-- Logs a record. Where there is no outlet at all, what is at least a warning is printed bare. -/
def log (record : LogRecord) (logging : Logging) : Logging :=
  if record.rank < logging.threshold then logging
  else if !logging.outlets.isEmpty then logging.outlets.foldl (send record) logging
  else if Level.warning.rank ≤ record.rank then logging.print record.message
  else logging

end Logging

end UnitLift
