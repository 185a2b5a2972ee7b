import UnitLift.Session

/-!
Queries to compilation databases and their ownership. The records of a database have one owner at a
time: taking them makes a new database with them and leaves the old one closed for good. A database
that is not open refuses every query.
-/

namespace UnitLift.Database

def isOpen (database : Database) : Bool := database.records.isSome

def summary (database : Database) : String :=
  "LibclangCompilationDatabase(" ++ Text.quoted database.directory ++
    (if database.isOpen then ", open)" else ", closed)")

def absent : Database := { directory := "", records := none }

def find (id : DatabaseId) : Work Session Database := do
  return ((← get).databases[id]?).getD absent

def replace (id : DatabaseId) (database : Database) : Work Session Unit :=
  modify fun session =>
    { session with databases := session.databases.setIfInBounds id database }

def recordsOf (id : DatabaseId) : Work Session (Table String (List Command)) := do
  match (← find id).records with
  | some records => return records
  | none => Work.refuse .databaseReleased

def hasConfig (id : DatabaseId) (file : PathArgument) : Work Session Bool := do
  let records ← recordsOf id
  match file with
  | .other _ => Work.fault .notAPath
  | .path file =>
    let database ← find id
    replace id { database with asked := database.asked ++ [file] }
    return records.contains file

def commandsFor (id : DatabaseId) (file : PathArgument) : Work Session (List Command) := do
  let records ← recordsOf id
  match file with
  | .other _ => Work.fault .notAPath
  | .path file => return (records.get? file).getD []

/-- The recorded files, each once. -/
def files (id : DatabaseId) : Work Session (List String) := do
  return (← recordsOf id).keys

def close (id : DatabaseId) : Work Session Unit := do
  replace id { ← find id with records := none }

/-- Moves the records to a new database. -/
def take (id : DatabaseId) : Work Session DatabaseId := do
  let records ← recordsOf id
  let database ← find id
  close id
  let session ← get
  set { session with
    databases := session.databases.push
      { directory := database.directory, records := some records } }
  return session.databases.size

/-- Databases are not copied. -/
def copy (_ : DatabaseId) : Work Session DatabaseId := Work.fault .databaseCopied

end UnitLift.Database

namespace UnitLift

/-- Does something with every file recorded in a database. The files are known before the first of
them is dealt with. -/
def Database.forEachFile {σ : Type} (files : Work σ (List String)) (callback : String → Work σ Unit) :
    Work σ Unit := do
  (← files).forM callback

end UnitLift
