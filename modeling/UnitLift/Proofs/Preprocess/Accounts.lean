import UnitLift.Proofs.Preprocess.Attendance

/-! The accounts of a preprocessor, whatever calls it gets. Each run attends to all that it launches and
reports a failure once, and nothing runs between the calls, so that to ask for an end then makes no
difference. -/

namespace UnitLift.Preprocessed

open Work

variable {session : Session} {path : String} {view : ConfigView}

private theorem ofOutput_ne_barred (directory output path : String) :
    MainFile.ofOutput directory output path ≠ .error .badArgument := by
  intro stops
  rw [MainFile.ofOutput, MainFile.ofLines_eq_error_iff] at stops
  cases stops

private theorem restore_ne_barred (hidden : List HiddenDirective) (lines : List String) :
    HiddenDirective.restore hidden lines ≠ .error .badArgument := by
  intro stops
  rw [HiddenDirective.restore_eq_error_iff] at stops
  cases stops

private theorem aloof_mainFile (output path : String) : Child.Aloof (mainFile output path) := by
  have each (session : Session) : Child.Aloof
      (ofFault (MainFile.ofOutput session.world.currentDirectory output path) : Work Session MainFile) :=
    .ofFault (ofOutput_ne_barred _ output path)
  refine ⟨.get_bind fun session => (each session).keeps session, fun session => ?_, fun session => ?_⟩
  · rw [mainFile, runFrom_bind_of_ok (runFrom_get session)]
    exact (each session).blameless session
  · rw [mainFile, runFrom_bind_of_ok (runFrom_get session)]
    exact (each session).free session

private theorem aloof_log (message : String) :
    Child.Aloof (Session.log .debug .preprocessor message) := by
  refine ⟨fun session => ?_, fun session => Child.not_isFailure_ok (), fun session => nofun⟩
  exact Prod.ext ((Session.passes_handling_log (by decide)).keeps session) rfl

private theorem aloof_finish (path : String) (view : ConfigView) (result : Preprocessed) :
    Child.Aloof (finish path view result) := by
  have aloof_write : Child.Aloof (write path result) := by
    have each (session : Session) :
        ((write path result).runFrom session).2.attended = session.attended ∧
          ¬Child.IsFailure ((write path result).runFrom session).1 ∧
          ¬Child.IsBarred ((write path result).runFrom session).1 := by
      obtain ⟨-, reason, ran⟩ | ⟨target, -, -, ran⟩ := runFrom_write_cases path result session
      · rw [ran]
        refine ⟨rfl, ?_, nofun⟩
        rintro ⟨_, same⟩
        cases same
      · obtain ⟨keeps, blameless, free⟩ :=
          aloof_log ("Wrote preprocessed file " ++ sidePath path)
        rw [ran]
        exact ⟨(keeps _).trans rfl, blameless _, free _⟩
    exact ⟨fun session => (each session).1, fun session => (each session).2.1,
      fun session => (each session).2.2⟩
  rw [finish]
  split
  · exact aloof_write.bind fun _ => .pure result
  · exact .pure result

/-- The scripts of the child processes that a run for the file at an absolute path launches. There is a
second one in fast mode, if the first one does not fail and the file can be read. -/
def scripts (path : String) (view : ConfigView) (world : World) : List ChildScript :=
  let first := world.nextChild.1
  if view.fastPreprocessing && !first.fails && (world.read path).isOk then
    [first, world.nextChild.2.nextChild.1]
  else [first]

/-- A second child process is launched only in fast mode, after a first one that did not fail. -/
private theorem of_length_scripts {world : World} (twice : (scripts path view world).length = 2) :
    view.fastPreprocessing = true ∧ world.nextChild.1.fails = false ∧
      ∃ text, world.read path = .ok text := by
  simp only [scripts] at twice
  split at twice
  · rename_i both
    simp only [Bool.and_eq_true, Bool.not_eq_true'] at both
    obtain ⟨⟨fast, fine⟩, readable⟩ := both
    refine ⟨fast, fine, ?_⟩
    cases read : world.read path with
    | ok text => exact ⟨text, rfl⟩
    | error reason =>
      rw [read] at readable
      cases readable
  · cases twice

private theorem attends_runFull (alone : session.Alone)
    (mode : view.fastPreprocessing = false) :
    Child.Attends path view.binary session.parser.timeout (scripts path view session.world) session
      ((runFull path view).runFrom session) := by
  have only : scripts path view session.world = [session.world.nextChild.1] := by
    simp [scripts, mode]
  have invoked : Child.Attends path view.binary session.parser.timeout
      [session.world.nextChild.1] session
      ((Child.invoke path (fullArguments path view) none).runFrom session) :=
    Child.attends_invoke path none rfl alone
  rw [only, runFull]
  exact invoked.andThen fun output => (aloof_mainFile output path).bind fun _ => .pure _

/-- What is left to do in fast mode when the definitions and the text of a file are known. -/
def runHidden (path : String) (view : ConfigView) (definitions : Definitions) (text : String) :
    Work Session Preprocessed := do
  let (lines, hidden) := HiddenDirective.hide (Text.linesOf text)
  let output ← Child.invoke path (hiddenArguments view definitions) (some (hiddenInput path lines))
  let file ← mainFile output path
  let (lines, includes) ← Work.ofFault (HiddenDirective.restore hidden (Text.linesOf file.source))
  return { source := Text.joinLines lines, includes, definitions, fullIncludePaths := false }

private theorem attends_runHidden (alone : session.Alone) (definitions : Definitions)
    (text : String) : Child.Attends path view.binary session.parser.timeout
      [session.world.nextChild.1] session
      ((runHidden path view definitions text).runFrom session) := by
  let input := some (hiddenInput path (HiddenDirective.hide (Text.linesOf text)).1)
  have invoked : Child.Attends path view.binary session.parser.timeout
      [session.world.nextChild.1] session
      ((Child.invoke path (hiddenArguments view definitions) input).runFrom session) :=
    Child.attends_invoke path input rfl alone
  refine invoked.andThen fun output => (aloof_mainFile output path).bind fun file => ?_
  exact (Child.Aloof.ofFault (restore_ne_barred _ _)).bind fun _ => .pure _

/-- What is done first in fast mode: a child process lists the definitions. -/
def listDefinitions (path : String) (view : ConfigView) : Work Session Definitions := do
  let dump ← Child.invoke path (listingArguments path view) none
  let definitions := Definitions.ofOutput dump
  Session.log .debug .preprocessor
    ("Collected " ++ toString definitions.size ++ " macros for " ++ path)
  return definitions

private theorem runFast_eq (path : String) (view : ConfigView) :
    runFast path view = (do
      let definitions ← listDefinitions path view
      match (← get).world.read path with
      | .error reason => Work.fail (.sourceFile (.unreadable path reason))
      | .ok text => runHidden path view definitions text) := by
  simp only [listDefinitions, bind_assoc, pure_bind]
  rfl

/-- How a run in fast mode goes, and the scripts of the child processes that it launches. -/
inductive FastRun (path : String) (view : ConfigView) (session : Session) :
    Except Stop Preprocessed × Session → List ChildScript → Prop
  /-- The first child process fails. -/
  | unlisted {stop : Stop} {left : Session}
      (listed : (listDefinitions path view).runFrom session = (.error stop, left)) :
      FastRun path view session (.error stop, left) [session.world.nextChild.1]
  | unread {definitions : Definitions} {reason : String} {left : Session}
      (listed : (listDefinitions path view).runFrom session = (.ok definitions, left))
      (read : session.world.read path = .error reason) :
      FastRun path view session (.error (.failure (.sourceFile (.unreadable path reason))), left)
        [session.world.nextChild.1]
  /-- A second child process preprocesses the file with its directives hidden. -/
  | hidden {definitions : Definitions} {text : String} {left : Session}
      (listed : (listDefinitions path view).runFrom session = (.ok definitions, left))
      (read : session.world.read path = .ok text)
      (timeout : left.parser.timeout = session.parser.timeout) :
      FastRun path view session ((runHidden path view definitions text).runFrom left)
        [session.world.nextChild.1, left.world.nextChild.1]

theorem fastRun_runFast (path : String) (mode : view.fastPreprocessing = true) (session : Session) :
    FastRun path view session ((runFast path view).runFrom session)
      (scripts path view session.world) := by
  obtain ⟨dumped, ranDump, kept⟩ :=
    Child.runFrom_invoke path (listingArguments path view) none session
  rw [runFast_eq]
  cases ends : Child.ending path ((listingArguments path view).headD "") session.parser.timeout
      session.world.nextChild.1 with
  | error stop =>
    rw [ends] at ranDump
    have fails : session.world.nextChild.1.fails = true := Child.fails_of_ending_error ends
    have only : scripts path view session.world = [session.world.nextChild.1] := by
      simp [scripts, fails]
    have listed : (listDefinitions path view).runFrom session = (.error stop, dumped) :=
      runFrom_bind_of_error ranDump _
    rw [only, runFrom_bind_of_error listed]
    exact .unlisted listed
  | ok dump =>
    rw [ends] at ranDump
    have fine : session.world.nextChild.1.fails = false := Child.fails_of_ending ends
    obtain ⟨_, logged, ranLog, unsaid⟩ := Session.passes_log .debug .preprocessor ("Collected " ++
      toString (Definitions.ofOutput dump).size ++ " macros for " ++ path) dumped
    have listed : (listDefinitions path view).runFrom session =
        (.ok (Definitions.ofOutput dump), logged) :=
      (runFrom_bind_of_ok ranDump _).trans (runFrom_bind_of_ok ranLog _)
    have same : logged.unlaunched = session.unlaunched :=
      (Session.unlaunched_of_unsaid unsaid).trans (congrArg (·.1) kept)
    have readable : logged.world.read path = session.world.read path :=
      congrArg (·.world.read path) same
    rw [runFrom_bind_of_ok listed, runFrom_bind_of_ok (runFrom_get logged), readable]
    cases read : session.world.read path with
    | error reason =>
      have only : scripts path view session.world = [session.world.nextChild.1] := by
        simp [scripts, read, Except.isOk, Except.toBool]
      rw [only]
      exact .unread listed read
    | ok text =>
      have next : logged.world.nextChild.1 = session.world.nextChild.2.nextChild.1 := by
        have left : dumped.world.children = session.world.nextChild.2.children :=
          congrArg (·.2.1) kept
        rw [Session.world_of_unsaid unsaid, World.nextChild_fst, left, World.nextChild_fst]
      have both : scripts path view session.world =
          [session.world.nextChild.1, logged.world.nextChild.1] := by
        simp [scripts, mode, fine, read, Except.isOk, Except.toBool, next]
      rw [both]
      exact .hidden listed read (congrArg (·.parser.timeout) same)

private theorem attends_runFast (alone : session.Alone) (mode : view.fastPreprocessing = true) :
    Child.Attends path view.binary session.parser.timeout (scripts path view session.world) session
      ((runFast path view).runFrom session) := by
  have invoked : Child.Attends path view.binary session.parser.timeout
      [session.world.nextChild.1] session
      ((Child.invoke path (listingArguments path view) none).runFrom session) :=
    Child.attends_invoke path none rfl alone
  have listing : Child.Attends path view.binary session.parser.timeout
      [session.world.nextChild.1] session ((listDefinitions path view).runFrom session) :=
    invoked.andThen fun dump => (aloof_log _).bind fun _ => .pure _
  have run := fastRun_runFast path mode session
  generalize (runFast path view).runFrom session = ended at run ⊢
  generalize scripts path view session.world = scripts at run ⊢
  cases run with
  | unlisted listed =>
    rw [listed] at listing
    exact listing.congr rfl rfl (by simp [Child.IsFailure]) (by simp [Child.IsBarred])
  | unread listed _ =>
    rw [listed] at listing
    refine listing.congr rfl rfl (iff_of_false ?_ (Child.not_isFailure_ok _))
      (by simp [Child.IsBarred])
    rintro ⟨_, same⟩
    cases same
  | @hidden definitions text left listed _ timeout =>
    rw [listed] at listing
    have hidden : Child.Attends path view.binary session.parser.timeout [left.world.nextChild.1] left
        ((runHidden path view definitions text).runFrom left) :=
      timeout ▸ attends_runHidden listing.alone definitions text
    exact listing.andMore hidden

theorem attends_run (alone : session.Alone) (path : String) (view : ConfigView) :
    let absolute := Path.absolute session.world.currentDirectory path
    Child.Attends absolute view.binary session.parser.timeout (scripts absolute view session.world)
      session ((run path view).runFrom session) := by
  intro absolute
  rw [run_eq, runFrom_bind_of_ok (Session.runFrom_absolutePath path session)]
  cases mode : view.fastPreprocessing with
  | false => exact (attends_runFull alone mode).andThen (aloof_finish absolute view)
  | true => exact (attends_runFast alone mode).andThen (aloof_finish absolute view)

/-- What a run for the file at an absolute path reports. -/
def reports (path : String) (view : ConfigView) (session : Session) : List Report :=
  (scripts path view session.world).filterMap (·.report? path view.binary session.parser.timeout)

/-- What there is to say about the child processes of a run for the file at an absolute path. -/
structure Accounted (path : String) (view : ConfigView) (before : Session)
    (ended : Except Stop Preprocessed × Session) : Prop extends
    Child.Attends path view.binary before.parser.timeout (scripts path view before.world) before
      ended where
  second : ended.2.world.launches.length = before.world.launches.length + 2 →
    view.fastPreprocessing = true ∧ before.world.nextChild.1.fails = false ∧
      ∃ text, before.world.read path = .ok text
  source : ∀ report ∈ reports path view before,
    report.source = "preprocessor" ∧ report.diagnostic.location.file = some path
  /-- A failure is reported once. -/
  errors : Child.IsFailure ended.1 →
    (reports path view before).countP (·.diagnostic.severity == .error) = 1
  /-- Nothing else is an error. -/
  harmless : ¬Child.IsFailure ended.1 →
    ∀ report ∈ reports path view before, report.diagnostic.severity = .warning
  warnings : (reports path view before).countP (·.diagnostic.severity == .warning) =
    (scripts path view before.world).countP ChildScript.warns
  /-- A sink that records has just these reports more. -/
  records : before.sink.delivery = .record →
    ended.2.sink.records = before.sink.records ++ reports path view before

private theorem countP_severity (path binary timeout : String) (scripts : List ChildScript) :
    let reports := scripts.filterMap (·.report? path binary timeout)
    reports.countP (·.diagnostic.severity == .error) = scripts.countP ChildScript.failsAloud ∧
      reports.countP (·.diagnostic.severity == .warning) = scripts.countP ChildScript.warns := by
  intro reports
  have counted (severity : Severity) : reports.countP (·.diagnostic.severity == severity) =
      scripts.countP fun script => (if script.failsAloud then some Severity.error
        else if script.warns then some .warning else none) == some severity := by
    rw [List.countP_filterMap]
    congr 1
    funext script
    rw [← ChildScript.severity_report? path binary timeout script]
    cases script.report? path binary timeout with
    | none => rfl
    | some report => rfl
  rw [counted, counted]
  constructor
  · refine List.countP_congr fun script _ => ?_
    cases script.failsAloud <;> cases script.warns <;> decide
  · refine List.countP_congr fun script _ => ?_
    have fine : script.warns = true → script.failsAloud = false := fun warns => by
      simp [ChildScript.failsAloud, ChildScript.fails_of_warns warns]
    cases fails : script.failsAloud <;> cases warns : script.warns <;> simp_all

private theorem Accounted.of_attends {before : Session} {ended : Except Stop Preprocessed × Session}
    (attends : Child.Attends path view.binary before.parser.timeout
      (scripts path view before.world) before ended) : Accounted path view before ended := by
  have counted := countP_severity path view.binary before.parser.timeout
    (scripts path view before.world)
  have found {report : Report} (member : report ∈ reports path view before) :
      ∃ script ∈ scripts path view before.world,
        script.report? path view.binary before.parser.timeout = some report :=
    List.mem_filterMap.mp member
  have severity {report : Report} (member : report ∈ reports path view before) :
      ∃ script ∈ scripts path view before.world, report.diagnostic.severity =
        if script.failsAloud then .error else .warning := by
    obtain ⟨script, inside, reported⟩ := found member
    have shown := script.severity_report? path view.binary before.parser.timeout
    rw [reported, Option.map_some] at shown
    exact ⟨script, inside, by grind⟩
  refine { attends with
    second := ?second, source := ?source, errors := ?errors, harmless := ?harmless
    warnings := counted.2, records := ?records }
  case second =>
    intro twice
    obtain ⟨launches, launched, dealt⟩ := attends.launched
    have length : launches.length = (scripts path view before.world).length := by
      simpa using congrArg List.length dealt
    rw [launched, List.length_append, length] at twice
    exact of_length_scripts (Nat.add_left_cancel twice)
  case source =>
    intro report member
    obtain ⟨script, -, reported⟩ := found member
    exact ChildScript.source_of_report? reported
  case errors => exact fun failed => counted.1.trans (attends.countP_failsAloud failed)
  case harmless =>
    intro fine report member
    obtain ⟨script, inside, shown⟩ := severity member
    have sound : script.failsAloud = false := by
      have none := attends.isFailure_iff.not.mp fine
      simpa using fun fails => none ⟨script, inside, fails⟩
    rwa [sound] at shown
  case records =>
    intro recording
    have heard := congrArg (·.1.records) attends.reported
    refine heard.trans (Report.records_foldl_hear (fun report member => ?_) recording)
    obtain ⟨script, -, shown⟩ := severity member
    rw [shown]
    split <;> decide

/-- A call of a preprocessor. -/
inductive Call where
  | run (path : String) (view : ConfigView)
  /-- Somebody asks for the running child process to be killed, and sees its exit code if it has one. -/
  | terminate (status : Option Int)

namespace Call

def isRun : Call → Bool
  | run _ _ => true
  | terminate _ => false

def leave (session : Session) : Call → Session
  | run path view => ((Preprocessed.run path view).runFrom session).2
  | terminate status => ((Child.terminate status).runFrom session).2

end Call

/-- The session that calls leave, one after the other. -/
def leaveAll (session : Session) (calls : List Call) : Session := calls.foldl Call.leave session

/-- If no child process is running, there is nothing to terminate. -/
theorem runFrom_terminate (alone : session.Alone) (status : Option Int) :
    (Child.terminate status).runFrom session = (.ok (), session) := by
  rw [Child.terminate, runFrom_bind_of_ok (runFrom_get session), alone]
  rfl

private theorem Call.alone_leave (alone : session.Alone) (call : Call) :
    (call.leave session).Alone := by
  cases call with
  | run path view => exact preserves_run path view session alone
  | terminate status =>
    rw [leave, runFrom_terminate alone]
    exact alone

private theorem alone_leaveAll (alone : session.Alone) (calls : List Call) :
    (leaveAll session calls).Alone := by
  induction calls generalizing session with
  | nil => exact alone
  | cons call rest ih => exact ih (call.alone_leave alone)

/-- Between runs it makes no difference whether somebody asks for an end. -/
private theorem leaveAll_filter (alone : session.Alone) (calls : List Call) :
    leaveAll session (calls.filter Call.isRun) = leaveAll session calls := by
  induction calls generalizing session with
  | nil => rfl
  | cons call rest ih =>
    have next := ih (call.alone_leave alone)
    cases call with
    | run path view => exact next
    | terminate status =>
      have same : (Call.terminate status).leave session = session := by
        rw [Call.leave, runFrom_terminate alone]
      rw [same] at next
      rw [List.filter_cons_of_neg (by simp [Call.isRun]), next, leaveAll, leaveAll, List.foldl_cons,
        same]

/-- Whatever calls a preprocessor gets, it attends to its child processes: at each moment between them
none is running, so that an end that is asked for then changes nothing, and a run that comes next accounts
for all that it launches. A run of which a child process fails ends with that failure, unless it is the
arguments that are not taken. -/
theorem accounted_after_calls (alone : session.Alone) (calls : List Call) :
    let now := leaveAll session calls
    now.Alone ∧ (∀ status, (Child.terminate status).runFrom now = (.ok (), now)) ∧
      now = leaveAll session (calls.filter Call.isRun) ∧
      ∀ path view,
        let absolute := Path.absolute now.world.currentDirectory path
        let launched := scripts absolute view now.world
        let ended := (run path view).runFrom now
        Accounted absolute view now ended ∧
          ((∃ script ∈ launched, script.fails = true) ↔
            Child.IsFailure ended.1 ∨ Child.IsBarred ended.1) ∧
          (.barred ∉ launched →
            (Child.IsFailure ended.1 ↔ ∃ script ∈ launched, script.fails = true)) := by
  intro now
  have still : now.Alone := alone_leaveAll alone calls
  refine ⟨still, runFrom_terminate still, (leaveAll_filter alone calls).symm, fun path view => ?_⟩
  have accounted := Accounted.of_attends (attends_run still path view)
  refine ⟨accounted, ?_, fun taken => ?_⟩
  · rw [accounted.isFailure_iff, accounted.isBarred_iff]
    exact ChildScript.exists_fails_iff _
  · rw [accounted.isFailure_iff, ChildScript.exists_fails_iff, or_iff_left taken]

def crowdedSample : Session :=
  { fastSample "int a;\n" "" with
    world := { (fastSample "int a;\n" "").world with
      children :=
        [.runs { stderr := "note\n", terminated := true, status := some 0 },
          .runs { overruns := true, terminations := [none, some 0], lateTerminations := [none] },
          .refused "[Errno 2]"] } }

/-- The first child process has ended when somebody asks for that, the second one is given up while others
ask for its end, and the third one is not launched. -/
theorem accounted_after_calls_sample :
    let full : ConfigView := { fastView with fastPreprocessing := false }
    let calls : List Call := [.terminate none, .run "a.cpp" fastView, .terminate none]
    let now := leaveAll crowdedSample calls
    let ended := (run "a.cpp" full).runFrom now
    now.Alone ∧ now.world.launches.map Launch.deeds = [[.wait], [.wait, .kill, .kill, .wait, .kill]] ∧
      now.sink.diagnostics.map (fun said => (said.severity, said.message)) =
        [(.warning, "note"), (.error, "preprocessor timed out after None seconds")] ∧
      Child.IsFailure ended.1 ∧
      ended.2.sink.diagnostics.map Diagnostic.severity = [.warning, .error, .error] := by
  intro full calls now ended
  have alone : crowdedSample.Alone := rfl
  obtain ⟨still, -, -, accounts⟩ := accounted_after_calls alone calls
  have accounted : Accounted _ full now ended := (accounts "a.cpp" full).1
  generalize absolute : Path.absolute now.world.currentDirectory "a.cpp" = path at accounted
  have refused : scripts path full now.world = [.refused "[Errno 2]"] := by
    subst absolute
    decide +kernel
  have recording : now.sink.delivery = .record := by decide +kernel
  have records := accounted.records recording
  refine ⟨still, by decide +kernel, by decide +kernel, ?_, ?_⟩
  · exact accounted.isFailure_iff.mpr ⟨_, refused ▸ List.mem_singleton_self _, rfl⟩
  · rw [Sink.diagnostics, records, reports, refused]
    subst absolute
    decide +kernel

/-- Nothing is reported of a child process that is not launched since one of its arguments has a NUL
character, and the run does not end with its failure. -/
theorem unreported_sample :
    let launched := scripts "/work/a.cpp" fastView nulSample.world
    let ended := (run "a.cpp" fastView).runFrom nulSample
    (∃ script ∈ launched, script.fails = true) ∧ ¬Child.IsFailure ended.1 ∧
      ended.2.sink.diagnostics = [] ∧ ended.2.world.launches.map Launch.deeds = [[.wait], []] := by
  intro launched ended
  have stops : ended.1 = .error (.fault .badArgument) := by decide +kernel
  refine ⟨by decide +kernel, ?_, by decide +kernel, by decide +kernel⟩
  rw [stops]
  rintro ⟨_, same⟩
  cases same

end UnitLift.Preprocessed
