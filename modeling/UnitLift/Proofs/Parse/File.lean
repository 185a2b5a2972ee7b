import UnitLift.Proofs.Parse.Call
import UnitLift.Proofs.Preprocess.Handling
import UnitLift.Proofs.Preprocess.Run

namespace UnitLift.Parser

open Work

variable {session : Session} {path : String} {view : ConfigView}

/-- The first stage of a parse. -/
def prepare (path : String) (view : ConfigView) : Work Session Preprocessed := do
  Session.enter .preprocessing
  Session.log .info .parser
    ("Parsing " ++ path ++ " with args: " ++ Text.quotedList view.arguments)
  Preprocessed.run path view

/-- The last stage of a parse. -/
def liftUnit (path : String) (preprocessed : Preprocessed) (cursors : List Cursor)
    (hadErrors : Bool) : Work Session EntityId := do
  Session.enter .lifting
  let (root, graph) := (← get).graph.createFile path
    { hadErrors, includes := preprocessed.includes
      fullIncludePaths := preprocessed.fullIncludePaths }
  modify ({ · with graph })
  lift root path cursors
  modify fun session => { session with index := session.index.registerFile session.graph root }
  Session.log .info .parser
    ("Successfully parsed " ++ toString ((← get).graph.below root).length ++ " entities from " ++
      path)
  return root

/-- The stage in which the library is asked: the cursors of the unit, and whether there are errors
in it. -/
def askLibrary (path : String) (view : ConfigView) (preprocessed : Preprocessed) :
    Work Session (List Cursor × Bool) := do
  Session.enter .parsing
  let (cursors, diagnostics) ← parseUnit path preprocessed view
  let hadErrors ← drainDiagnostics path diagnostics
  return (cursors, hadErrors)

theorem parseFile_eq (path : String) (view : ConfigView) :
    parseFile path view = (do
      let preprocessed ← prepare path view
      let (cursors, hadErrors) ← askLibrary path view preprocessed
      liftUnit path preprocessed cursors hadErrors) := by
  simp only [askLibrary, bind_assoc, pure_bind]
  rfl

/-- Preprocessing leaves all but the stage, what child processes do, what is said and what is
written. -/
theorem unwritten_of_prepare {result : Except Stop Preprocessed} {left : Session}
    (ran : (prepare path view).runFrom session = (result, left)) :
    left.unwritten =
      { session with parser := { session.parser with stage := .preprocessing } }.unwritten := by
  have said (message : String) : Keeps Session.unwritten (Session.log .info .parser message) :=
    fun _ => rfl
  rw [prepare, runFrom_bind_of_ok (Session.runFrom_enter _ _)] at ran
  exact ((said _).bind fun _ => Preprocessed.keeps_run path view).of_runFrom ran

/-- What the library answers when it is asked to parse a file. -/
def answer (path : String) : UnitScript → Except Failure (List Cursor × List UnitDiagnostic)
  | .refused reason => .error (.parsing (.notLoaded path reason))
  | .nothing => .error (.parsing (.noUnit path))
  | .noCursor => .error (.parsing (.noUnit path))
  | .unit cursors diagnostics => .ok (cursors, diagnostics)

theorem runFrom_parseUnit_of_closed (closed : session.parser.closed = true)
    (preprocessed : Preprocessed) :
    (parseUnit path preprocessed view).runFrom session =
      (.error (.fault .indexReleased), session) := by
  rw [parseUnit, runFrom_bind_of_ok (runFrom_get session)]
  simp only [closed, ↓reduceIte]
  rfl

private theorem nextUnit_eq (world : World) :
    world.nextUnit.2 = { world with units := world.nextUnit.2.units } := by
  rw [World.nextUnit]
  split
  · rfl
  · rfl

theorem runFrom_parseUnit (path : String) (view : ConfigView) (preprocessed : Preprocessed)
    (session : Session) (opened : session.parser.closed = false) :
    ∃ left, (parseUnit path preprocessed view).runFrom session =
        ((answer path session.world.nextUnit.1).mapError Stop.failure, left) ∧
      left.unasked = session.unasked ∧ left.heard = session.heard := by
  have taken := nextUnit_eq session.world
  rw [parseUnit, runFrom_bind_of_ok (runFrom_get session)]
  simp only [opened, Bool.false_eq_true, ↓reduceIte]
  rw [taken, runFrom_bind_of_ok (runFrom_set _ session)]
  cases session.world.nextUnit.1 with
  | refused reason => exact ⟨_, rfl, rfl, rfl⟩
  | nothing => exact ⟨_, rfl, rfl, rfl⟩
  | noCursor => exact ⟨_, rfl, rfl, rfl⟩
  | unit cursors diagnostics => exact ⟨_, rfl, rfl, rfl⟩

/-- What diagnostics make of a parse: the first fatal one stops it, else it is told whether there
are errors. -/
def verdict (path : String) (diagnostics : List Diagnostic) : Except Failure Bool :=
  match diagnostics.find? (·.severity == .critical) with
  | some fatal => .error (.parsing (.fatalDiagnostic path fatal.location.text fatal.message))
  | none => .ok (diagnostics.any (·.severity == .error))

private theorem verdict_of_fatal {diagnostic : Diagnostic} (fatal : diagnostic.severity = .critical)
    (rest : List Diagnostic) :
    verdict path (diagnostic :: rest) =
      .error (.parsing (.fatalDiagnostic path diagnostic.location.text diagnostic.message)) := by
  rw [verdict, List.find?_cons_of_pos (by simp [fatal])]

private theorem verdict_of_mild {diagnostic : Diagnostic} (mild : diagnostic.severity ≠ .critical)
    (rest : List Diagnostic) :
    verdict path (diagnostic :: rest) =
      (verdict path rest).map ((diagnostic.severity == .error) || ·) := by
  rw [verdict, List.find?_cons_of_neg (by simpa using mild), verdict]
  split
  · rfl
  · rfl

/-- Diagnostics are reported up to the verdict. The errors of all calls are counted together. -/
private theorem runFrom_drain (errors warnings : Nat) (diagnostics : List Diagnostic)
    (session : Session) :
    ∃ result left, (drain path errors warnings diagnostics).runFrom session = (result, left) ∧
      left.unsaid = session.unsaid ∧
      result.map (·.1 != 0) =
        ((verdict path diagnostics).map (errors != 0 || ·)).mapError Stop.failure := by
  induction diagnostics generalizing errors warnings session with
  | nil =>
    refine ⟨.ok (errors, warnings), session, rfl, rfl, ?_⟩
    exact congrArg Except.ok (Bool.or_false (errors != 0)).symm
  | cons diagnostic rest ih =>
    obtain ⟨_, reported, ranReport, kept⟩ := Session.passes_report "libclang" diagnostic session
    rw [drain, runFrom_bind_of_ok ranReport]
    have passed (errors' warnings' : Nat) (mild : diagnostic.severity ≠ .critical)
        (counted : (errors' != 0) = (errors != 0 || diagnostic.severity == .error)) :
        ∃ result left, (drain path errors' warnings' rest).runFrom reported = (result, left) ∧
          left.unsaid = session.unsaid ∧
          result.map (·.1 != 0) =
            ((verdict path (diagnostic :: rest)).map (errors != 0 || ·)).mapError Stop.failure := by
      obtain ⟨result, left, ran, same, told⟩ := ih errors' warnings' reported
      refine ⟨result, left, ran, same.trans kept, told.trans ?_⟩
      rw [verdict_of_mild mild, counted]
      cases verdict path rest with
      | error failure => rfl
      | ok had => simp [Except.map, Bool.or_assoc]
    cases severity : diagnostic.severity with
    | critical =>
      rw [verdict_of_fatal severity]
      exact ⟨_, reported, rfl, kept, rfl⟩
    | error => exact passed (errors + 1) warnings (by simp [severity]) (by simp [severity])
    | warning => exact passed errors (warnings + 1) (by simp [severity]) (by simp [severity])
    | info => exact passed errors warnings (by simp [severity]) (by simp [severity])
    | debug => exact passed errors warnings (by simp [severity]) (by simp [severity])

theorem runFrom_drainDiagnostics (path : String) (diagnostics : List UnitDiagnostic)
    (session : Session) :
    ∃ left, (drainDiagnostics path diagnostics).runFrom session =
        ((verdict path (diagnostics.filterMap diagnostic?)).mapError Stop.failure, left) ∧
      left.unsaid = session.unsaid := by
  obtain ⟨result, drained, ran, kept, told⟩ :=
    runFrom_drain 0 0 (diagnostics.filterMap diagnostic?) session
  have summed : (verdict path (diagnostics.filterMap diagnostic?)).mapError Stop.failure =
      result.map (·.1 != 0) := by
    rw [told]
    cases verdict path (diagnostics.filterMap diagnostic?) with
    | error failure => rfl
    | ok had => rfl
  rw [drainDiagnostics, summed]
  cases result with
  | error stop => exact ⟨drained, runFrom_bind_of_error ran _, kept⟩
  | ok counts =>
    obtain ⟨errors, warnings⟩ := counts
    rw [runFrom_bind_of_ok ran]
    simp only
    split
    · exact ⟨_, rfl, kept⟩
    · split
      · exact ⟨_, rfl, kept⟩
      · exact ⟨_, rfl, kept⟩

/-- What the library's answer comes to: the cursors of the unit, and whether there are errors. -/
def outcomeOf (path : String) (script : UnitScript) : Except Failure (List Cursor × Bool) := do
  let (cursors, diagnostics) ← answer path script
  let hadErrors ← verdict path (diagnostics.filterMap diagnostic?)
  return (cursors, hadErrors)

theorem units_of_outcomeOf {world : World} {cursors : List Cursor} {hadErrors : Bool}
    (answered : outcomeOf path world.nextUnit.1 = .ok (cursors, hadErrors)) :
    ∃ diagnostics rest, world.units = .unit cursors diagnostics :: rest := by
  rw [World.nextUnit] at answered
  cases units : world.units with
  | nil =>
    rw [units] at answered
    cases answered
  | cons script rest =>
    rw [units] at answered
    cases script with
    | unit known diagnostics =>
      simp only [outcomeOf, answer, bind, Except.bind] at answered
      split at answered
      · cases answered
      · cases answered
        exact ⟨diagnostics, rest, rfl⟩
    | _ => cases answered

theorem runFrom_askLibrary_of_closed (closed : session.parser.closed = true)
    (preprocessed : Preprocessed) :
    (askLibrary path view preprocessed).runFrom session =
      (.error (.fault .indexReleased),
        { session with parser := { session.parser with stage := .parsing } }) := by
  rw [askLibrary, runFrom_bind_of_ok (Session.runFrom_enter _ _)]
  exact runFrom_bind_of_error (runFrom_parseUnit_of_closed (by exact closed) preprocessed) _

theorem runFrom_askLibrary (opened : session.parser.closed = false) (preprocessed : Preprocessed) :
    ∃ left, (askLibrary path view preprocessed).runFrom session =
        ((outcomeOf path session.world.nextUnit.1).mapError Stop.failure, left) ∧
      left.unasked =
        { session with parser := { session.parser with stage := .parsing } }.unasked := by
  obtain ⟨asked, ranUnit, kept, -⟩ := runFrom_parseUnit path view preprocessed
    { session with parser := { session.parser with stage := .parsing } } opened
  rw [askLibrary, runFrom_bind_of_ok (Session.runFrom_enter _ _), outcomeOf]
  change _ = ((answer path session.world.nextUnit.1).mapError _, _) at ranUnit
  rcases answered : answer path session.world.nextUnit.1 with failure | ⟨cursors, diagnostics⟩
  · rw [answered] at ranUnit
    exact ⟨asked, runFrom_bind_of_error ranUnit _, kept⟩
  · rw [answered] at ranUnit
    obtain ⟨left, ranDrain, unsaid⟩ := runFrom_drainDiagnostics path diagnostics asked
    refine ⟨left, (runFrom_bind_of_ok ranUnit _).trans ?_,
      (Session.unasked_of_unsaid unsaid).trans kept⟩
    rcases judged : verdict path (diagnostics.filterMap diagnostic?) with failure | hadErrors
    · rw [judged] at ranDrain
      simp only [judged, bind, Except.bind]
      exact runFrom_bind_of_error ranDrain _
    · rw [judged] at ranDrain
      simp only [judged, bind, Except.bind]
      exact runFrom_bind_of_ok ranDrain _

/-- What the root of a file tells about it. -/
def factsOf (preprocessed : Preprocessed) (hadErrors : Bool) : FileFacts :=
  { hadErrors, includes := preprocessed.includes
    fullIncludePaths := preprocessed.fullIncludePaths }

/-- What the lifting of a file adds to a graph: the entities below the root, in the order of their
creation. -/
def grown (graph : EntityGraph) (path : String) (facts : FileFacts) (outlines : List Outline) :
    List EntityId × EntityGraph :=
  Outline.plantAll graph.entities.size outlines (graph.createFile path facts).2

private theorem runFrom_lift (root : EntityId) (path : String) (cursors : List Cursor)
    (session : Session) :
    ∃ left, (lift root path cursors).runFrom session = (.ok ⟨⟩, left) ∧
      left.parser = session.parser ∧
      (let (planted, graph) := Outline.plantAll root
        (Cursor.outlinesOf session.world.pathView (session.world.pathView.resolve path) cursors)
        session.graph
      left.graph = graph ∧ left.index = session.index.registerAll graph planted) := by
  let asked : Session :=
    { session with world :=
        session.world.modifyLastRequest ({ · with liftStage := some session.parser.stage }) }
  let view := session.world.pathView
  obtain ⟨_, logged, ranLogs, kept⟩ :=
    Session.passes_logs .debug .parser id (List.replicate (Cursor.unreadableIn view (view.resolve path) cursors)
      ("Skipping cursor in " ++ path ++ ": Unknown template argument kind 604")) asked
  have parser : logged.parser = asked.parser := Session.parser_of_unsaid kept
  have graph : logged.graph = asked.graph := congrArg (·.graph) kept
  have index : logged.index = asked.index := congrArg (·.index) kept
  refine ⟨_, (runFrom_bind_of_ok ranLogs _).trans (runFrom_modify _ _), parser, ?_⟩
  simp only [graph, index]
  exact ⟨rfl, rfl⟩

theorem runFrom_liftUnit (preprocessed : Preprocessed) (cursors : List Cursor) (hadErrors : Bool)
    (session : Session) :
    ∃ left, (liftUnit path preprocessed cursors hadErrors).runFrom session =
        (.ok session.graph.entities.size, left) ∧
      left.parser = { session.parser with stage := .lifting } ∧
      (let (planted, graph) := grown session.graph path (factsOf preprocessed hadErrors)
        (Cursor.outlinesOf session.world.pathView (session.world.pathView.resolve path) cursors)
      left.graph = graph ∧
        left.index = (session.index.registerAll graph planted).registerFile graph
          session.graph.entities.size) := by
  let rooted : Session := { session with
    parser := { session.parser with stage := .lifting }
    graph := (session.graph.createFile path (factsOf preprocessed hadErrors)).2 }
  obtain ⟨lifted, ranLift, parser, graph, index⟩ :=
    runFrom_lift session.graph.entities.size path cursors rooted
  refine ⟨_, (runFrom_bind_of_ok ranLift _).trans rfl, parser, graph, ?_⟩
  simp only [index, graph]
  rfl

private theorem passes_handled_log (level : Level) (message : String) :
    Passes Session.handled (Session.log level .parser message) := by
  apply Passes.modify
  intro session
  exact Prod.ext (Prod.ext rfl (Prod.ext rfl (Prod.ext rfl (Journal.heard_add_of_ne _ (by simp)))))
    rfl

private theorem keeps_lift (root : EntityId) (path : String) (cursors : List Cursor) :
    Keeps Session.handled (lift root path cursors) := by
  apply Keeps.get_bind
  intro session
  refine Keeps.bind (fun _ => rfl) (fun _ => ?_) session
  apply Keeps.get_bind
  intro asked
  exact Keeps.bind (Passes.forM (passes_handled_log .debug) _).keeps (fun _ _ => rfl) asked

/-- Lifting has nothing to do with child processes and diagnostics. -/
theorem keeps_liftUnit (path : String) (preprocessed : Preprocessed) (cursors : List Cursor)
    (hadErrors : Bool) : Keeps Session.handled (liftUnit path preprocessed cursors hadErrors) := by
  refine Keeps.bind (fun _ => rfl) fun _ => Keeps.get_bind fun session => ?_
  refine Keeps.bind (fun _ => rfl) (fun _ => ?_) session
  refine (keeps_lift _ _ _).bind fun _ => Keeps.bind (fun _ => rfl) fun _ => ?_
  exact .get_bind fun lifted => Keeps.bind (passes_handled_log .info _).keeps (fun _ => .pure _) lifted

/-- What a call makes of the parse of its file concerns nothing else. -/
theorem handled_settle (ended : Except Stop EntityId × Session) :
    (settle ended).2.handled = ended.2.handled ∧ (settle ended).2.world = ended.2.world := by
  obtain ⟨(_ | _) | _, left⟩ := ended
  · exact ⟨rfl, rfl⟩
  · exact ⟨rfl, rfl⟩
  · exact ⟨rfl, rfl⟩

/-- How the parse of a file can go. -/
inductive FileRun (path : String) (view : ConfigView) (session : Session) :
    Except Stop EntityId → Session → Prop
  /-- Preprocessing stops. -/
  | unprepared {stop : Stop} {left : Session}
      (ran : (prepare path view).runFrom session = (.error stop, left)) :
      FileRun path view session (.error stop) left
  /-- The parser was closed while the file was preprocessed. -/
  | released {preprocessed : Preprocessed} {prepared left : Session}
      (ran : (prepare path view).runFrom session = (.ok preprocessed, prepared))
      (closed : prepared.parser.closed = true)
      (same : left = { prepared with parser := { prepared.parser with stage := .parsing } }) :
      FileRun path view session (.error (.fault .indexReleased)) left
  /-- The library gives no unit, or one with a fatal diagnostic. -/
  | unparsed {preprocessed : Preprocessed} {prepared left : Session} {failure : Failure}
      (ran : (prepare path view).runFrom session = (.ok preprocessed, prepared))
      (opened : prepared.parser.closed = false)
      (answered : outcomeOf path session.world.nextUnit.1 = .error failure)
      (parser : left.parser = { prepared.parser with stage := .parsing })
      (graph : left.graph = session.graph) (index : left.index = session.index) :
      FileRun path view session (.error (.failure failure)) left
  /-- The cursors of the unit are lifted. -/
  | lifted {preprocessed : Preprocessed} {prepared left : Session} {cursors : List Cursor}
      {hadErrors : Bool} {planted : List EntityId} {graph : EntityGraph}
      (ran : (prepare path view).runFrom session = (.ok preprocessed, prepared))
      (opened : prepared.parser.closed = false)
      (answered : outcomeOf path session.world.nextUnit.1 = .ok (cursors, hadErrors))
      (grew : grown session.graph path (factsOf preprocessed hadErrors)
        (Cursor.outlinesOf session.world.pathView (session.world.pathView.resolve path) cursors) =
          (planted, graph))
      (parser : left.parser = { prepared.parser with stage := .lifting })
      (graph_eq : left.graph = graph)
      (index : left.index = (session.index.registerAll graph planted).registerFile graph
        session.graph.entities.size) :
      FileRun path view session (.ok session.graph.entities.size) left

theorem fileRun_parseFile (path : String) (view : ConfigView) (session : Session) :
    FileRun path view session ((parseFile path view).runFrom session).1
      ((parseFile path view).runFrom session).2 := by
  rw [parseFile_eq]
  rcases prepared : (prepare path view).runFrom session with ⟨stop | preprocessed, left⟩
  · rw [runFrom_bind_of_error prepared]
    exact .unprepared prepared
  · rw [runFrom_bind_of_ok prepared]
    have kept := unwritten_of_prepare prepared
    have graph : left.graph = session.graph := congrArg (·.graph) kept
    have index : left.index = session.index := congrArg (·.index) kept
    have units : left.world.units = session.world.units := congrArg (·.world.units) kept
    have files : left.world.pathView = session.world.pathView :=
      congrArg (·.world.pathView) kept
    have script : left.world.nextUnit.1 = session.world.nextUnit.1 := by
      rw [World.nextUnit, World.nextUnit, units]
      cases session.world.units with
      | nil => rfl
      | cons script rest => rfl
    cases closed : left.parser.closed with
    | true =>
      rw [runFrom_bind_of_error (runFrom_askLibrary_of_closed closed preprocessed)]
      exact .released prepared closed rfl
    | false =>
      obtain ⟨asked, ranAsk, same⟩ := runFrom_askLibrary closed preprocessed
      have parser : asked.parser = { left.parser with stage := .parsing } :=
        congrArg (·.parser) same
      have askedGraph : asked.graph = session.graph := (congrArg (·.graph) same).trans graph
      have askedIndex : asked.index = session.index := (congrArg (·.index) same).trans index
      have askedFiles : asked.world.pathView = session.world.pathView :=
        (congrArg (·.world.pathView) same).trans files
      rw [script] at ranAsk
      rcases answered : outcomeOf path session.world.nextUnit.1 with failure | ⟨cursors, hadErrors⟩
      · rw [answered] at ranAsk
        rw [runFrom_bind_of_error ranAsk]
        exact .unparsed prepared closed answered parser askedGraph askedIndex
      · rw [answered] at ranAsk
        obtain ⟨lifted, ranLift, lifting, grew, registered⟩ :=
          runFrom_liftUnit preprocessed cursors hadErrors asked
        rw [askedGraph] at ranLift
        rw [runFrom_bind_of_ok ranAsk, ranLift]
        rw [askedGraph, askedFiles] at grew
        rw [askedGraph, askedFiles, askedIndex] at registered
        refine .lifted prepared closed answered rfl (lifting.trans ?_) grew registered
        rw [parser]

/-- A call that is taken up is the parse of its file, settled. -/
theorem exists_fileRun {config : CompileConfig} (admitted : Admits session (.library config))
    (path : String) :
    ∃ result after, FileRun (Path.absolute session.world.currentDirectory path) config.view
        (begun session) result after ∧
      (parse (.path path) (.library config)).runFrom session = settle (result, after) :=
  ⟨_, _, fileRun_parseFile _ _ _, runFrom_parse admitted path⟩

end UnitLift.Parser
