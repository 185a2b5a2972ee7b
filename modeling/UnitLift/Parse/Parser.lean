import UnitLift.Compile.Any
import UnitLift.Preprocess.Run

/-!
Parsing a file: it is preprocessed, handed to the library, and the cursors of its translation unit
are lifted to entities. A parser handles one file at a time. Its stage tells how far it has come, and
a failure of the last call is kept.
-/

namespace UnitLift.Parser

/-- The name of the configurations that the parser accepts. -/
def name : String := CompileConfig.libraryName

/-- The option by which the library keeps a record of preprocessing. -/
def parseOptions : Nat := 1

/-- The severity that a diagnostic of the library has, if it counts at all. -/
def severity? (code : Int) : Option Severity :=
  if code == 1 then some .info
  else if code == 2 then some .warning
  else if code == 3 then some .error
  else if code == 4 then some .critical
  else none

/-- A diagnostic of the library as it is reported, if it counts at all. -/
def diagnostic? (unitDiagnostic : UnitDiagnostic) : Option Diagnostic :=
  (severity? unitDiagnostic.severity).map fun severity =>
    { message := unitDiagnostic.message
      location := match unitDiagnostic.place.file with
        | none => {}
        | some file => ⟨some file, some unitDiagnostic.place.line, some unitDiagnostic.place.column⟩
      severity }

/-- Reports diagnostics up to the first fatal one, which stops the parse; tells how many errors and
how many warnings there were. -/
def drain (path : String) (errors warnings : Nat) : List Diagnostic → Work Session (Nat × Nat)
  | [] => return (errors, warnings)
  | diagnostic :: rest => do
    Session.report "libclang" diagnostic
    match diagnostic.severity with
    | .critical =>
      Work.fail (.parsing (.fatalDiagnostic path diagnostic.location.text diagnostic.message))
    | .error => drain path (errors + 1) warnings rest
    | .warning => drain path errors (warnings + 1) rest
    | _ => drain path errors warnings rest

/-- Reports the diagnostics of a translation unit: whether there were errors. -/
def drainDiagnostics (path : String) (diagnostics : List UnitDiagnostic) : Work Session Bool := do
  let (errors, warnings) ← drain path 0 0 (diagnostics.filterMap diagnostic?)
  if errors != 0 then
    Session.log .error .parser
      ("Parsing diagnostics for " ++ path ++ ": " ++ toString errors ++ " errors, " ++
        toString warnings ++ " warnings")
  else if warnings != 0 then
    Session.log .warning .parser
      ("Parsing diagnostics for " ++ path ++ ": " ++ toString warnings ++ " warnings")
  return errors != 0

/-- Hands a preprocessed file to the library: the cursors of its translation unit and the diagnostics
that go with it. -/
def parseUnit (path : String) (preprocessed : Preprocessed) (view : ConfigView) :
    Work Session (List Cursor × List UnitDiagnostic) := do
  let session ← get
  if session.parser.closed then Work.fault .indexReleased
  let (script, world) := session.world.nextUnit
  let request : ParseRequest :=
    { path, arguments := view.arguments, unsaved := [(path, preprocessed.source)]
      options := parseOptions, stage := session.parser.stage }
  set { session with world := { world with requests := world.requests ++ [request] } }
  match script with
  | .refused reason => Work.fail (.parsing (.notLoaded path reason))
  | .nothing => Work.fail (.parsing (.noUnit path))
  | .noCursor => Work.fail (.parsing (.noUnit path))
  | .unit cursors diagnostics => return (cursors, diagnostics)

/-- Lifts cursors to entities below a root, and registers these. -/
def lift (root : EntityId) (path : String) (cursors : List Cursor) : Work Session Unit := do
  let stage := (← get).parser.stage
  Session.modifyWorld (·.modifyLastRequest ({ · with liftStage := some stage }))
  let view := (← get).world.pathView
  let target := view.resolve path
  (List.replicate (Cursor.unreadableIn view target cursors)
    ("Skipping cursor in " ++ path ++ ": Unknown template argument kind 604")).forM
      (Session.log .debug .parser)
  let outlines := Cursor.outlinesOf view target cursors
  modify fun session =>
    let (planted, graph) := Outline.plantAll root outlines session.graph
    { session with graph, index := session.index.registerAll graph planted }

def parseFile (path : String) (view : ConfigView) : Work Session EntityId := do
  Session.enter .preprocessing
  Session.log .info .parser
    ("Parsing " ++ path ++ " with args: " ++ Text.quotedList view.arguments)
  let preprocessed ← Preprocessed.run path view
  Session.enter .parsing
  let (cursors, diagnostics) ← parseUnit path preprocessed view
  let hadErrors ← drainDiagnostics path diagnostics
  Session.enter .lifting
  let (root, graph) := (← get).graph.createFile path
    { hadErrors, includes := preprocessed.includes
      fullIncludePaths := preprocessed.fullIncludePaths }
  modify ({ · with graph })
  lift root path cursors
  modify fun session => { session with index := session.index.registerFile session.graph root }
  Session.log .info .parser
    ("Successfully parsed " ++ toString ((← get).graph.below root).length ++ " entities from " ++
      path)
  return root

/-- What a parser makes of a configuration and of its own state before it starts. -/
def accept (path : PathArgument) (config : AnyConfig) : Work Session ConfigView := do
  let view ← Work.ofExcept config.access
  if view.binary.isEmpty then Work.refuse (.noBinary path.printed)
  let parser := (← get).parser
  if parser.closed then Work.refuse .parserClosed
  if parser.busy then Work.refuse .parserBusy
  return view

/-- Parses a file and registers its entities in the index. -/
def parse (path : PathArgument) (config : AnyConfig) : Work Session EntityId := do
  let view ← accept path config
  Session.modifyParser ({ · with busy := true })
  match path with
  | .other _ => Work.fault .notAPath
  | .path path =>
    let path ← Session.absolutePath path
    Session.modifyParser ({ · with failure := none })
    match ← Work.outcome (parseFile path view) with
    | .ok root =>
      Session.modifyParser ({ · with stage := .done, busy := false })
      return root
    | .error (.failure failure) =>
      Session.modifyParser ({ · with stage := .failed, failure := some failure, busy := false })
      Work.fail failure
    | .error stop =>
      Session.modifyParser ({ · with busy := false })
      throw stop

def close : Work Session Unit := Child.closeParser

/-- Marks the parser as busy: whether it was free. -/
def seize : Work Session Bool := do
  let free := !(← get).parser.busy
  Session.modifyParser ({ · with busy := true })
  return free

def release : Work Session Unit := do
  if !(← get).parser.busy then Work.fault .lockNotHeld
  Session.modifyParser ({ · with busy := false })

end UnitLift.Parser
