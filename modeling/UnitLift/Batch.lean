import UnitLift.Database.Lookup
import UnitLift.Parse.FrontEnd

/-!
Batches: files parsed one after the other with one parser and one index. A batch either stops at the
first failure or collects the failures and goes on. A fault is no failure, and ends a batch of either
sort.
-/

namespace UnitLift

structure Batch where
  session : Session
  /-- The first failure ends a call, and is not collected. -/
  stopOnError : Bool := true
  /-- The roots of the files parsed so far. -/
  files : List EntityId := []
  /-- The failures collected so far, with the files they are about. -/
  errors : List (String × Failure) := []

namespace Batch

def onSession {α : Type} (work : Work Session α) : Work Batch α :=
  work.onPart Batch.session fun session batch => { batch with session }

/-- Deals with a failure: stops with it, or writes it down. -/
def fail (path : PathArgument) (failure : Failure) : Work Batch Unit := do
  if (← get).stopOnError then Work.fail failure
  onSession (Session.log .error .batch
    ("Failed to parse " ++ path.printed ++ ": " ++ failure.text))
  modify fun batch => { batch with errors := batch.errors ++ [(path.printed, failure)] }

/-- The result of an operation on the session; its failure is dealt with as one about a file. -/
def attempt {α : Type} (path : PathArgument) (work : Work Session α) : Work Batch (Option α) := do
  match ← Work.outcome (onSession work) with
  | .ok result => return some result
  | .error (.failure failure) =>
    fail path failure
    return none
  | .error stop => throw stop

/-- Parses one file: its root, unless it failed and failures are collected. -/
def parse (frontEnd : FrontEnd) (path : PathArgument) (config : AnyConfig) :
    Work Batch (Option EntityId) := do
  match ← attempt path (frontEnd.parse path config) with
  | none => return none
  | some root =>
    modify fun batch => { batch with files := batch.files ++ [root] }
    return some root

/-- Parses one file with the configuration that is found for it. -/
def parseConfigured (frontEnd : FrontEnd) (getConfig : PathArgument → Work Session AnyConfig)
    (path : PathArgument) : Work Batch (Option EntityId) := do
  match ← attempt path (getConfig path) with
  | none => return none
  | some config => parse frontEnd path config

/-- Parses files with the configurations that are found for them: the roots of those that were
parsed, in order. -/
def parseFilesWith (frontEnd : FrontEnd) (getConfig : PathArgument → Work Session AnyConfig) :
    List PathArgument → Work Batch (List EntityId)
  | [] => return []
  | path :: rest => do
    let root ← parseConfigured frontEnd getConfig path
    return root.toList ++ (← parseFilesWith frontEnd getConfig rest)

/-- Refuses front ends that do not take the configurations of compilation databases. -/
def requireLibrary (frontEnd : FrontEnd) : Work Batch Unit := do
  if !frontEnd.usesLibrary then Work.refuse (.unsuitableParser frontEnd.className)

/-- The configuration of a file or of its first recorded sibling. -/
def foundConfig (id : DatabaseId) (path : PathArgument) : Work Session AnyConfig := do
  match ← Database.findConfig id path with
  | some config => return .library config
  | none => Work.fail (.notConfigured path.printed)

/-- The configuration recorded for a file. -/
def recordedConfig (id : DatabaseId) (path : PathArgument) : Work Session AnyConfig := do
  return .library (← Database.configOf id path)

/-- Parses files with configurations from a compilation database; a file that is not recorded gets
that of a sibling. -/
def parseFiles (frontEnd : FrontEnd) (id : DatabaseId) (paths : List PathArgument) :
    Work Batch (List EntityId) := do
  requireLibrary frontEnd
  parseFilesWith frontEnd (foundConfig id) paths

/-- Parses every file recorded in a compilation database. -/
def parseDatabase (frontEnd : FrontEnd) (id : DatabaseId) : Work Batch (List EntityId) := do
  requireLibrary frontEnd
  let names ← onSession (Database.files id)
  let roots ← parseFilesWith frontEnd (recordedConfig id) (names.map .path)
  onSession (Session.log .info .batch
    ("Parsed " ++ toString roots.length ++ " files from compilation database"))
  return roots

/-- Whether a file could not be parsed, or errors were found in one that was. -/
def hadErrors (batch : Batch) : Bool :=
  !batch.errors.isEmpty || batch.files.any fun root =>
    ((batch.session.graph.get? root).bind (·.facts)).any (·.hadErrors)

end Batch

end UnitLift
