import UnitLift.Preprocess.Child
import UnitLift.Preprocess.Definition
import UnitLift.Preprocess.Placeholder

/-!
Preprocessing a file. In full mode one child resolves all includes and the main file is taken from
its output. In fast mode a first child lists all definitions, and a second one preprocesses the file
with its include directives hidden and with these definitions.
-/

namespace UnitLift

structure Preprocessed where
  source : String
  includes : List Include
  definitions : Definitions := .empty
  /-- The includes have the full paths of the included files. -/
  fullIncludePaths : Bool
deriving DecidableEq, Repr

namespace Preprocessed

/-- The path that the preprocessed form of a file is written to. -/
def sidePath (path : String) : String := path ++ ".pp"

def commentArgument (view : ConfigView) : String := if view.keepComments then "-CC" else "-C"

def mainFile (output path : String) : Work Session MainFile := do
  Work.ofFault (MainFile.ofOutput (← get).world.currentDirectory output path)

/-- The arguments of a child process that preprocesses a file. -/
def fullArguments (path : String) (view : ConfigView) : List String :=
  view.binary :: view.arguments ++ ["-E", "-dD", commentArgument view, path]

/-- The arguments of a child process that lists all definitions. -/
def listingArguments (path : String) (view : ConfigView) : List String :=
  view.binary :: view.arguments ++ ["-E", "-dM", path]

/-- The arguments of a child process that preprocesses its input with given definitions. -/
def hiddenArguments (view : ConfigView) (definitions : Definitions) : List String :=
  view.binary :: view.arguments ++ ["-E", "-dD", commentArgument view, "-nostdinc", "-undef"] ++
    definitions.arguments ++ ["-"]

/-- Preprocesses the file at an absolute path in full mode. -/
def runFull (path : String) (view : ConfigView) : Work Session Preprocessed := do
  let output ← Child.invoke path (fullArguments path view) none
  let file ← mainFile output path
  return { source := file.source, includes := file.includes, fullIncludePaths := true }

/-- What the second child of fast mode reads: lines said to be those of `path`. -/
def hiddenInput (path : String) (lines : List String) : String :=
  LineMarker.render ⟨1, path, []⟩ ++ "\n" ++ Text.joinLines lines

/-- Preprocesses the file at an absolute path in fast mode. -/
def runFast (path : String) (view : ConfigView) : Work Session Preprocessed := do
  let dump ← Child.invoke path (listingArguments path view) none
  let definitions := Definitions.ofOutput dump
  Session.log .debug .preprocessor
    ("Collected " ++ toString definitions.size ++ " macros for " ++ path)
  match (← get).world.read path with
  | .error reason => Work.fail (.sourceFile (.unreadable path reason))
  | .ok text =>
    let (lines, hidden) := HiddenDirective.hide (Text.linesOf text)
    let output ← Child.invoke path (hiddenArguments view definitions) (some (hiddenInput path lines))
    let file ← mainFile output path
    let (lines, includes) ← Work.ofFault (HiddenDirective.restore hidden (Text.linesOf file.source))
    return { source := Text.joinLines lines, includes, definitions, fullIncludePaths := false }

/-- Writes a preprocessed file next to its source. -/
def write (path : String) (result : Preprocessed) : Work Session Unit := do
  let target := sidePath path
  let session ← get
  match session.world.write target result.source with
  | .error reason => Work.fail (.sourceFile (.unwritable target reason))
  | .ok world =>
    set { session with world }
    Session.log .debug .preprocessor ("Wrote preprocessed file " ++ target)

/-- Preprocesses a file as its configuration says. -/
def run (path : String) (view : ConfigView) : Work Session Preprocessed := do
  let path ← Session.absolutePath path
  let result ← if view.fastPreprocessing then runFast path view else runFull path view
  if view.writePreprocessed then write path result
  return result

end Preprocessed

end UnitLift
