import UnitLift.Parse.Cursor
import UnitLift.Table
import UnitLift.Text.Utf8

/-!
The outside world: files, child processes and the library that parses. What a child or a translation
unit will do is laid down in scripts, which are used up in order; what was asked of the world is
kept.
-/

namespace UnitLift

inductive Stage where
  | idle
  | preprocessing
  | parsing
  | lifting
  | done
  | failed
deriving DecidableEq, Repr

inductive FileContent where
  | ofText (text : String)
  | ofBytes (bytes : List UInt8)
deriving DecidableEq, Repr

/-- A file read as text: UTF-8, with line feeds for line ends of other kinds. -/
def FileContent.read : FileContent → String
  | ofText text => String.ofList (Text.withLineFeeds text.toList)
  | ofBytes bytes => String.ofList (Text.withLineFeeds (Text.decodeUtf8 bytes))

/-- What a child process does once it runs. -/
structure ChildRun where
  stdout : String := ""
  stderr : String := ""
  exitCode : Int := 0
  /-- It does not come to its end in the time it has. -/
  overruns : Bool := false
  /-- While it is waited for, somebody asks for it to be terminated. -/
  terminated : Bool := false
  /-- While it is waited for, somebody closes the parser. -/
  closed : Bool := false
  /-- Its exit code as seen while it is waited for, if it has come to its end. -/
  status : Option Int := none
  /-- Its exit code as others see it who ask for it to be terminated while it is waited for. -/
  terminations : List (Option Int) := []
  /-- The same for those who ask when its time is up and it has been killed. -/
  lateTerminations : List (Option Int) := []
deriving DecidableEq, Repr

/-- What happens when a child process is launched. -/
inductive ChildScript where
  | refused (reason : String)
  /-- The arguments are not taken: one of them has a NUL character, which no argument may have. -/
  | barred
  | runs (run : ChildRun)
deriving DecidableEq, Repr

/-- What is done with a child process that runs. -/
inductive Deed where
  | wait
  | kill
deriving DecidableEq, Repr

/-- A launch of a child process, and what was done with it. -/
structure Launch where
  arguments : List String
  /-- Its input is a pipe. -/
  piped : Bool
  /-- What was written to its input. -/
  input : Option String := none
  /-- What was done with it, in order. -/
  deeds : List Deed := []
  /-- The stage of the parser at the launch. -/
  stage : Stage
deriving DecidableEq, Repr

namespace Launch

def kills (launch : Launch) : Nat := launch.deeds.count .kill

def waits (launch : Launch) : Nat := launch.deeds.count .wait

/-- The launch with more done. -/
def did (deeds : List Deed) (launch : Launch) : Launch :=
  { launch with deeds := launch.deeds ++ deeds }

end Launch

/-- A diagnostic of the library; its severity is a number. -/
structure UnitDiagnostic where
  severity : Int
  message : String
  place : CursorPlace := {}
deriving DecidableEq, Repr

/-- What the library answers when it is asked to parse a file. -/
inductive UnitScript where
  | nothing
  | refused (reason : String)
  | noCursor
  | unit (cursors : List Cursor) (diagnostics : List UnitDiagnostic)

structure ParseRequest where
  path : String
  arguments : List String
  /-- Contents that take the place of those on disk. -/
  unsaved : List (String × String)
  options : Nat
  stage : Stage
  /-- The stage when the cursors of the unit were asked for. -/
  liftStage : Option Stage := none
deriving DecidableEq, Repr

/-- The outside world. -/
structure World where
  currentDirectory : String := "/work"
  links : Path.Links := []
  files : Table String FileContent := .empty
  /-- The files that cannot be opened for writing, by their paths without links. -/
  unwritable : List String := []
  children : List ChildScript := []
  units : List UnitScript := []
  launches : List Launch := []
  requests : List ParseRequest := []
  /-- What was written, in order. -/
  written : List (String × String) := []
  /-- The calls of stand-in parsers: paths and flags. -/
  standInCalls : List (String × List String) := []

namespace World

/-- The path of the file that a path leads to, links followed; none in a loop of links. -/
def target? (world : World) (path : String) : Option String :=
  Path.follow? world.currentDirectory world.links path

/-- The text of a file, or why it cannot be read. -/
def read (world : World) (path : String) : Except String String :=
  match world.target? path with
  | none => .error ("[Errno 40] Too many levels of symbolic links: " ++ Text.quoted path)
  | some target =>
    match world.files.get? target with
    | some content => .ok content.read
    | none => .error ("[Errno 2] No such file or directory: " ++ Text.quoted path)

def isWritable (world : World) (path : String) : Bool :=
  (world.target? path).any (!world.unwritable.contains ·)

/-- Writes a file, or says why that is not possible. The file that a link leads to is the one that
changes. -/
def write (world : World) (path text : String) : Except String World :=
  match world.target? path with
  | none => .error ("[Errno 40] Too many levels of symbolic links: " ++ Text.quoted path)
  | some target =>
    if world.unwritable.contains target then
      .error ("[Errno 13] Permission denied: " ++ Text.quoted path)
    else
      .ok { world with
        files := world.files.insert target (.ofText text)
        written := world.written ++ [(path, text)] }

/-- Takes the next script of a child process. One that is not laid down ends at once. -/
def nextChild (world : World) : ChildScript × World :=
  match world.children with
  | [] => (.runs {}, world)
  | script :: rest => (script, { world with children := rest })

/-- Takes the next answer of the library. -/
def nextUnit (world : World) : UnitScript × World :=
  match world.units with
  | [] => (.nothing, world)
  | script :: rest => (script, { world with units := rest })

def modifyLaunch (world : World) (number : Nat) (change : Launch → Launch) : World :=
  { world with launches := world.launches.modify number change }

def modifyLastRequest (world : World) (change : ParseRequest → ParseRequest) : World :=
  { world with requests := world.requests.modify (world.requests.length - 1) change }

/-- How the file system looks to the lifting of cursors. -/
def pathView (world : World) : PathView := ⟨world.currentDirectory, world.links⟩

end World

end UnitLift
