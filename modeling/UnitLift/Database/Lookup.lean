import UnitLift.Database.Ownership

namespace UnitLift

namespace Database

/-- Extensions tried in place of that of a file, those of sources before those of headers. -/
def candidateExtensions : List String :=
  [".cpp", ".cc", ".cxx", ".c++", ".C", ".c", ".hpp", ".hh", ".hxx", ".h++", ".H", ".h"]

def candidates (file : String) : List String := candidateExtensions.map (Path.stem file ++ ·)

def configOf (id : DatabaseId) (file : PathArgument) (toolchain : Option Toolchain := none) :
    Work Session CompileConfig := do
  if !(← hasConfig id file) then Work.fail (.notConfigured file.printed)
  let fresh ← Work.ofExcept (CompileConfig.fresh (← get).defaults toolchain)
  let takeover := Takeover.ofCommands fresh (← commandsFor id file)
  takeover.unknownStandards.forM fun standard =>
    Session.log .warning .compileConfig
      ("Ignoring unsupported standard '-std=" ++ standard ++ "' from compilation database")
  Session.log .debug .compileConfig
    ("Configuration for " ++ file.printed ++ " from database: " ++
      Text.quotedList takeover.config.arguments)
  return takeover.config

def firstRecorded (id : DatabaseId) : List String → Work Session (Option String)
  | [] => return none
  | name :: rest => do
    if ← hasConfig id (.path name) then return some name else firstRecorded id rest

/-- The configuration of a file or of its first recorded sibling, if there is one. -/
def findConfig (id : DatabaseId) (file : PathArgument) : Work Session (Option CompileConfig) := do
  if ← hasConfig id file then return some (← configOf id file)
  let name := file.printed
  match ← firstRecorded id ((candidates name).filter (· != name)) with
  | some sibling =>
    Session.log .debug .lookup ("Using configuration of " ++ sibling ++ " for " ++ name)
    return some (← configOf id (.path sibling))
  | none =>
    Session.log .debug .lookup ("No configuration found for " ++ name)
    return none

end Database

end UnitLift
