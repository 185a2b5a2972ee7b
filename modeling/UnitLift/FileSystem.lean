import UnitLift.Failure
import UnitLift.Path
import UnitLift.Table
import UnitLift.Text.Quoted

namespace UnitLift

def OpenError.text (error : OpenError) (path : String) : String := error.words ++ Text.quoted path

inductive Purpose where
  | read
  | write
  | append
deriving DecidableEq, Repr

/-- The paths of a file system, by the files that there are. Each file has a name of its own, whatever
paths lead to it. -/
structure Paths where
  /-- Whether there is something at a path. -/
  lead : (String → Bool) → String → Bool
  /-- The file that is opened under a path, or why there is none. -/
  fileAt : Purpose → (String → Bool) → String → Except OpenError String

/-- A file system as seen from a current directory. -/
structure FileSystem where
  directory : String
  paths : Paths
  files : Table String String := .empty

namespace FileSystem

def isPath (path : String) : Bool := !path.toList.contains '\x00'

def exists? (system : FileSystem) (path : String) : Bool :=
  isPath path && system.paths.lead system.files.contains path

/-- The file that is opened under a path, or why there is none. -/
def fileAt (system : FileSystem) (purpose : Purpose) (path : String) : Except Fault String :=
  if !isPath path then .error .badPath
  else (system.paths.fileAt purpose system.files.contains path).mapError .notOpened

/-- The text of a file, or why it cannot be read. -/
def read (system : FileSystem) (path : String) : Except Fault String := do
  let file ← system.fileAt .read path
  match system.files.get? file with
  | some text => return text
  | none => throw (.notOpened .missing)

/-- Writes a file, or says why that is not possible. -/
def write (system : FileSystem) (path text : String) : Except Fault FileSystem := do
  let file ← system.fileAt .write path
  return { system with files := system.files.insert file text }

/-- Appends to a file, which comes into being if there is none. -/
def append (system : FileSystem) (file text : String) : FileSystem :=
  { system with files := system.files.insert file ((system.files.get? file).getD "" ++ text) }

end FileSystem

end UnitLift
