import UnitLift.Compile.Recorded
import UnitLift.Diagnostic
import UnitLift.Entity.Index
import UnitLift.Work
import UnitLift.World

namespace UnitLift

/-- A compilation database. Its records are gone once it has been closed, or moved to a new owner. -/
structure Database where
  directory : String
  records : Option (Table String (List Command))
  /-- The files it was asked about, in order. -/
  asked : List String := []
deriving DecidableEq, Repr

/-- The name of a database within its session. -/
abbrev DatabaseId := Nat

/-- What a parser keeps between calls, and while it works. -/
structure ParserStatus where
  stage : Stage := .idle
  /-- The failure of the last call, if it failed. -/
  failure : Option Failure := none
  /-- A file is being parsed. -/
  busy : Bool := false
  /-- The parser was closed. -/
  closed : Bool := false
  /-- The number of the child process that is running. -/
  running : Option Nat := none
  /-- How long a child process may take, as it stands in messages. -/
  timeout : String := "None"
deriving DecidableEq, Repr

/-- All that operations change. -/
structure Session where
  defaults : BuildDefaults
  world : World := {}
  journal : Journal := {}
  sink : Sink := .recording
  databases : Array Database := #[]
  parser : ParserStatus := {}
  graph : EntityGraph := {}
  index : EntityIndex := {}

namespace Session

/-- Writes a journal record. -/
def log (level : Level) (channel : Channel) (message : String) : Work Session Unit :=
  modify fun session => { session with journal := session.journal.add ⟨level, channel, message⟩ }

/-- The session with one more database, of given records, and the name of that. -/
def withRecords (session : Session) (records : Table String (List Command)) :
    DatabaseId × Session :=
  (session.databases.size,
    { session with
      databases := session.databases.push { directory := "", records := some records } })

def report (source : String) (diagnostic : Diagnostic) : Work Session Unit :=
  modify fun session =>
    let (_, sink, journal) := session.sink.log session.journal ⟨source, diagnostic⟩
    { session with sink, journal }

def modifyWorld (change : World → World) : Work Session Unit :=
  modify fun session => { session with world := change session.world }

def modifyParser (change : ParserStatus → ParserStatus) : Work Session Unit :=
  modify fun session => { session with parser := change session.parser }

def enter (stage : Stage) : Work Session Unit := modifyParser ({ · with stage })

/-- A path as seen from the current directory. -/
def absolutePath (path : String) : Work Session String := do
  return Path.absolute (← get).world.currentDirectory path

end Session

end UnitLift
