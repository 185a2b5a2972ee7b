import UnitLift.Proofs.Preprocess.FastMode
import UnitLift.Proofs.Preprocess.Flaws
import UnitLift.Proofs.Preprocess.Run

/-! How preprocessing ends. It has a result, or fails for a child process or a file, unless it trips
over a number in a text: over one that is too long to be read, one of a line before the first, or one
of a directive that the file does not have; or over arguments that no child process takes. -/

namespace UnitLift

/-- Which child is launched next depends on the scripts only. -/
theorem World.nextChild_fst (world : World) :
    world.nextChild.1 = world.children.headD (.runs {}) := by
  rw [nextChild]
  cases world.children with
  | nil => rfl
  | cons script rest => rfl

namespace Child

open Work

variable {path : String} {arguments : List String} {input : Option String} {session : Session}

/-- A child process gives output only if it succeeds. -/
theorem ending_eq_ok_iff {binary timeout output : String} {script : ChildScript} :
    ending path binary timeout script = .ok output ↔
      ∃ run, script = .runs run ∧ run.Succeeds ∧ run.stdout = output := by
  cases script with
  | refused reason => simp [ending]
  | barred => simp [ending]
  | runs run =>
    simp only [ending, ChildRun.Succeeds]
    cases late : run.overruns with
    | true => simp [late]
    | false =>
      by_cases exited : run.exitCode = 0
      · simp [late, exited]
      · simp [exited]

/-- A child process that gives no output fails, or its arguments are not taken. -/
theorem ending_eq_error {binary timeout : String} {script : ChildScript} {stop : Stop}
    (stops : ending path binary timeout script = .error stop) :
    script = .barred ∧ stop = .fault .badArgument ∨
      script ≠ .barred ∧ ∃ cause, stop = .failure (.preprocessing cause) := by
  cases script with
  | refused reason =>
    cases stops
    exact .inr ⟨nofun, _, rfl⟩
  | barred =>
    cases stops
    exact .inl ⟨rfl, rfl⟩
  | runs run =>
    refine .inr ⟨nofun, ?_⟩
    rw [ending] at stops
    split at stops
    · cases stops
      exact ⟨_, rfl⟩
    · split at stops
      · cases stops
        exact ⟨_, rfl⟩
      · cases stops

theorem stops_invoke {failure : Failure}
    (stops : ((invoke path arguments input).runFrom session).1 = .error (.failure failure)) :
    ∃ cause, failure = .preprocessing cause := by
  obtain ⟨left, ran, -⟩ := runFrom_invoke path arguments input session
  rw [ran] at stops
  rcases ending_eq_error stops with ⟨-, same⟩ | ⟨-, cause, same⟩
  · cases same
  · exact ⟨cause, Stop.failure.inj same⟩

/-- Launching a child process ends in a fault if its arguments are not taken, or if what follows it does,
which is asked about the sessions that a child leaves. -/
theorem faults_invoke_bind_iff {α : Type} {next : String → Work Session α} {fault : Fault}
    {faults : ChildRun → Prop}
    (follows : ∀ run left, left.unlaunched = session.unlaunched →
      left.world.children = session.world.nextChild.2.children →
      (((next run.stdout).runFrom left).1 = .error (.fault fault) ↔ faults run)) :
    ((invoke path arguments input >>= next).runFrom session).1 = .error (.fault fault) ↔
      (session.world.nextChild.1 = .barred ∧ fault = .badArgument) ∨
        ∃ run, session.world.nextChild.1 = .runs run ∧ run.Succeeds ∧ faults run := by
  obtain ⟨left, ran, kept⟩ := runFrom_invoke path arguments input session
  have follows (run : ChildRun) := follows run left (congrArg (·.1) kept) (congrArg (·.2.1) kept)
  cases ends : ending path (arguments.headD "") session.parser.timeout session.world.nextChild.1 with
  | error stop =>
    have none : ¬∃ run, session.world.nextChild.1 = .runs run ∧ run.Succeeds ∧ faults run := by
      rintro ⟨run, script, good, -⟩
      cases ends.symm.trans (ending_eq_ok_iff.mpr ⟨run, script, good, rfl⟩)
    rw [ends] at ran
    rw [runFrom_bind_of_error ran]
    rcases ending_eq_error ends with ⟨barred, rfl⟩ | ⟨launched, cause, rfl⟩
    · simp [barred, eq_comm]
    · simp only [launched, false_and, none, or_false, iff_false]
      exact nofun
  | ok output =>
    obtain ⟨run, script, good, rfl⟩ := ending_eq_ok_iff.mp ends
    rw [ends] at ran
    rw [runFrom_bind_of_ok ran, follows]
    simp [script, good]

end Child

namespace Preprocessed

open Work HiddenDirective

variable {session : Session} {path : String} {view : ConfigView} {fault : Fault}

/-- What the preprocessing of the file at an absolute path trips over: arguments that are not taken, the
numbers in the output of the child process that is to preprocess the file, or those of placeholders that
this process leaves of a file. -/
inductive Trips (session : Session) (path : String) (view : ConfigView) : Fault → Prop
  | barred (script : session.world.nextChild.1 = .barred) : Trips session path view .badArgument
  | barredNext {first : ChildRun} {text : String} (mode : view.fastPreprocessing = true)
      (script : session.world.nextChild.1 = .runs first) (dumps : first.Succeeds)
      (readable : session.world.read path = .ok text)
      (next : session.world.nextChild.2.nextChild.1 = .barred) : Trips session path view .badArgument
  | full {run : ChildRun} {fault : Fault} (mode : view.fastPreprocessing = false)
      (script : session.world.nextChild.1 = .runs run) (preprocesses : run.Succeeds)
      (flawed : MainFile.Flawed (Path.sameFile session.world.currentDirectory · path)
        (Text.linesOf run.stdout) fault) : Trips session path view fault
  | fast {first second : ChildRun} {text : String} {fault : Fault}
      (mode : view.fastPreprocessing = true) (script : session.world.nextChild.1 = .runs first)
      (dumps : first.Succeeds) (readable : session.world.read path = .ok text)
      (next : session.world.nextChild.2.nextChild.1 = .runs second) (preprocesses : second.Succeeds)
      (flawed : MainFile.Flawed (Path.sameFile session.world.currentDirectory · path)
        (Text.linesOf second.stdout) fault) : Trips session path view fault
  | restoring {first second : ChildRun} {text : String} {file : MainFile} {fault : Fault}
      (mode : view.fastPreprocessing = true) (script : session.world.nextChild.1 = .runs first)
      (dumps : first.Succeeds) (readable : session.world.read path = .ok text)
      (next : session.world.nextChild.2.nextChild.1 = .runs second) (preprocesses : second.Succeeds)
      (read : MainFile.ofOutput session.world.currentDirectory second.stdout path = .ok file)
      (misplaced : Misplaced (hide (Text.linesOf text)).2 (Text.linesOf file.source) fault) :
      Trips session path view fault

/-- Some argument has a NUL character. -/
def HasNul (arguments : List String) : Prop :=
  ∃ argument ∈ arguments, '\x00' ∈ argument.toList

instance (arguments : List String) : Decidable (HasNul arguments) := List.decidableBEx _ _

/-- The arguments of the child process that is launched first for the file at an absolute path. -/
def firstArguments (path : String) (view : ConfigView) : List String :=
  if view.fastPreprocessing then listingArguments path view else fullArguments path view

/-- The scripts are those of a system that takes all arguments but those with a NUL character. -/
structure Vets (session : Session) (path : String) (view : ConfigView) : Prop where
  first : session.world.nextChild.1 = .barred ↔ HasNul (firstArguments path view)
  second : ∀ run, session.world.nextChild.1 = .runs run →
    (session.world.nextChild.2.nextChild.1 = .barred ↔
      HasNul (hiddenArguments view (.ofOutput run.stdout)))

/-- A run gives a NUL character on to a child process: to the first one, or to the second one if that is
launched. -/
inductive GivesNul (session : Session) (path : String) (view : ConfigView) : Prop
  | first (given : HasNul (firstArguments path view)) : GivesNul session path view
  | second {run : ChildRun} {text : String} (mode : view.fastPreprocessing = true)
      (script : session.world.nextChild.1 = .runs run) (dumps : run.Succeeds)
      (readable : session.world.read path = .ok text)
      (given : HasNul (hiddenArguments view (.ofOutput run.stdout))) : GivesNul session path view

/-- Only arguments that are not taken make for this fault. -/
private theorem trips_badArgument_iff (vets : Vets session path view) :
    Trips session path view .badArgument ↔ GivesNul session path view := by
  constructor
  · intro trips
    cases trips with
    | barred script => exact .first (vets.first.mp script)
    | barredNext mode script dumps readable next =>
      exact .second mode script dumps readable ((vets.second _ script).mp next)
    | full _ _ _ flawed => cases flawed
    | fast _ _ _ _ _ _ flawed => cases flawed
    | restoring _ _ _ _ _ _ _ misplaced => cases misplaced
  · intro gives
    cases gives with
    | first given => exact .barred (vets.first.mpr given)
    | second mode script dumps readable given =>
      exact .barredNext mode script dumps readable ((vets.second _ script).mpr given)

/-- Whatever is done with the main file, it may be that it cannot be put together. -/
private theorem faults_mainFile_bind_iff {α : Type} {output : String}
    {next : MainFile → Work Session α} :
    ((mainFile output path >>= next).runFrom session).1 = .error (.fault fault) ↔
      MainFile.Flawed (Path.sameFile session.world.currentDirectory · path)
        (Text.linesOf output) fault ∨
      ∃ file, MainFile.ofOutput session.world.currentDirectory output path = .ok file ∧
        ((next file).runFrom session).1 = .error (.fault fault) := by
  rw [← MainFile.ofLines_eq_error_iff, ← MainFile.ofOutput]
  cases read : MainFile.ofOutput session.world.currentDirectory output path with
  | error cause =>
    have ran : (mainFile output path).runFrom session = (.error (.fault cause), session) := by
      rw [mainFile, runFrom_bind_of_ok (runFrom_get session), read]
      rfl
    rw [runFrom_bind_of_error ran]
    simp
  | ok file =>
    have ran : (mainFile output path).runFrom session = (.ok file, session) := by
      rw [mainFile, runFrom_bind_of_ok (runFrom_get session), read]
      rfl
    rw [runFrom_bind_of_ok ran]
    simp

private theorem faults_runFull_iff (path : String) (view : ConfigView) (fault : Fault) :
    ((runFull path view).runFrom session).1 = .error (.fault fault) ↔
    (session.world.nextChild.1 = .barred ∧ fault = .badArgument) ∨
      ∃ run, session.world.nextChild.1 = .runs run ∧ run.Succeeds ∧
        MainFile.Flawed (Path.sameFile session.world.currentDirectory · path)
          (Text.linesOf run.stdout) fault := by
  rw [runFull]
  apply Child.faults_invoke_bind_iff
  intro run left same _
  have there : left.world.currentDirectory = session.world.currentDirectory :=
    congrArg (·.world.currentDirectory) same
  rw [faults_mainFile_bind_iff, there]
  simp

private theorem faults_runFast_iff (path : String) (view : ConfigView) (fault : Fault) :
    ((runFast path view).runFrom session).1 = .error (.fault fault) ↔
    (session.world.nextChild.1 = .barred ∧ fault = .badArgument) ∨
      ∃ first, session.world.nextChild.1 = .runs first ∧ first.Succeeds ∧
        ∃ text, session.world.read path = .ok text ∧
          ((session.world.nextChild.2.nextChild.1 = .barred ∧ fault = .badArgument) ∨
            ∃ second, session.world.nextChild.2.nextChild.1 = .runs second ∧ second.Succeeds ∧
              (MainFile.Flawed (Path.sameFile session.world.currentDirectory · path)
                  (Text.linesOf second.stdout) fault ∨
                ∃ file,
                  MainFile.ofOutput session.world.currentDirectory second.stdout path = .ok file ∧
                  Misplaced (hide (Text.linesOf text)).2 (Text.linesOf file.source) fault)) := by
  rw [runFast]
  apply Child.faults_invoke_bind_iff
  intro first dumped same children
  obtain ⟨_, logged, ranLog, unsaid⟩ := Session.passes_log .debug .preprocessor
    ("Collected " ++ toString (Definitions.ofOutput first.stdout).size ++ " macros for " ++ path)
    dumped
  have sameLogged : logged.unlaunched = session.unlaunched :=
    (Session.unlaunched_of_unsaid unsaid).trans same
  have readable : logged.world.read path = session.world.read path :=
    congrArg (·.world.read path) sameLogged
  have scripts : logged.world.nextChild.1 = session.world.nextChild.2.nextChild.1 := by
    rw [Session.world_of_unsaid unsaid, World.nextChild_fst, children, World.nextChild_fst]
  simp only
  rw [runFrom_bind_of_ok ranLog, runFrom_bind_of_ok (runFrom_get logged), readable, ← scripts]
  cases session.world.read path with
  | error reason =>
    simp only [reduceCtorEq, false_and, exists_false, iff_false]
    intro stops
    cases stops
  | ok text =>
    simp only [Except.ok.injEq, exists_eq_left']
    apply Child.faults_invoke_bind_iff
    intro second left sameLeft _
    have there : left.world.currentDirectory = session.world.currentDirectory :=
      congrArg (·.world.currentDirectory) (sameLeft.trans sameLogged)
    rw [faults_mainFile_bind_iff, there]
    simp only [stops_bind_iff, stops_ofFault_iff, restore_eq_error_iff, Stop.fault.injEq,
      exists_eq_right', runFrom_pure, reduceCtorEq, and_false, exists_false, or_false]

/-- An end that is foreseen: a preprocessed file, or the failure of a child process or of a file. -/
def Foreseen : Except Stop Preprocessed → Prop
  | .ok _ => True
  | .error (.failure failure) => failure.kind = .preprocessing ∨ failure.kind = .sourceFile
  | .error (.fault _) => False

/-- The work stops for the failure of a child process or of a file, or by a fault. -/
def FailsAsForeseen {α : Type} (work : Work Session α) : Prop :=
  ∀ session failure, (work.runFrom session).1 = .error (.failure failure) →
    failure.kind = .preprocessing ∨ failure.kind = .sourceFile

private theorem failsAsForeseen_bind {α β : Type} {work : Work Session α}
    {next : α → Work Session β} (first : FailsAsForeseen work)
    (second : ∀ value, FailsAsForeseen (next value)) : FailsAsForeseen (work >>= next) := by
  intro session failure stops
  rcases stops_bind_iff.mp stops with stops | ⟨value, left, -, stops⟩
  · exact first session failure stops
  · exact second value left failure stops

private theorem failsAsForeseen_ofFault {α : Type} (result : Except Fault α) :
    FailsAsForeseen (ofFault result) := by
  intro session failure stops
  obtain ⟨fault, -, same⟩ := stops_ofFault_iff.mp stops
  cases same

private theorem failsAsForeseen_invoke (path : String) (arguments : List String)
    (input : Option String) : FailsAsForeseen (Child.invoke path arguments input) := by
  intro session failure stops
  obtain ⟨cause, same⟩ := Child.stops_invoke stops
  cases same
  exact .inl rfl

private theorem failsAsForeseen_mainFile (output path : String) :
    FailsAsForeseen (mainFile output path) := by
  intro session failure stops
  rw [mainFile, runFrom_bind_of_ok (runFrom_get session)] at stops
  exact failsAsForeseen_ofFault _ session failure stops

private theorem failsAsForeseen_runFull (path : String) (view : ConfigView) :
    FailsAsForeseen (runFull path view) := by
  apply failsAsForeseen_bind (failsAsForeseen_invoke _ _ _)
  intro output
  apply failsAsForeseen_bind (failsAsForeseen_mainFile output path)
  intro file session failure stops
  cases stops

private theorem failsAsForeseen_runFast (path : String) (view : ConfigView) :
    FailsAsForeseen (runFast path view) := by
  rw [runFast]
  apply failsAsForeseen_bind (failsAsForeseen_invoke _ _ _)
  intro dump
  apply failsAsForeseen_bind (fun _ _ stops => by cases stops)
  intro _ session failure stops
  rw [runFrom_bind_of_ok (runFrom_get session)] at stops
  cases readable : session.world.read path with
  | error reason =>
    rw [readable] at stops
    cases stops
    exact .inr rfl
  | ok text =>
    rw [readable] at stops
    refine failsAsForeseen_bind (failsAsForeseen_invoke _ _ _) (fun output => ?_) session failure stops
    apply failsAsForeseen_bind (failsAsForeseen_mainFile output path)
    intro file
    apply failsAsForeseen_bind (failsAsForeseen_ofFault _)
    intro _ _ _ stops
    cases stops

/-- A preprocessed file is written, or the side path is to blame. -/
private theorem stops_write {result : Preprocessed} {stop : Stop}
    (stops : ((write path result).runFrom session).1 = .error stop) :
    ∃ reason, stop = .failure (.sourceFile (.unwritable (sidePath path) reason)) := by
  obtain ⟨-, reason, ran⟩ | ⟨target, -, -, ran⟩ := runFrom_write_cases path result session
  · rw [ran] at stops
    cases stops
    exact ⟨reason, rfl⟩
  · rw [ran] at stops
    cases stops

private theorem failsAsForeseen_finish (path : String) (view : ConfigView)
    (result : Preprocessed) : FailsAsForeseen (finish path view result) := by
  rw [finish]
  split
  · apply failsAsForeseen_bind
    · intro session failure stops
      obtain ⟨reason, same⟩ := stops_write stops
      cases same
      exact .inr rfl
    · intro _ _ _ stops
      cases stops
  · intro _ _ stops
    cases stops

theorem failsAsForeseen_run (path : String) (view : ConfigView) :
    FailsAsForeseen (run path view) := by
  intro session
  rw [run_eq, runFrom_bind_of_ok (Session.runFrom_absolutePath path session)]
  refine failsAsForeseen_bind ?_ (failsAsForeseen_finish _ view) session
  split
  · exact failsAsForeseen_runFast _ view
  · exact failsAsForeseen_runFull _ view

private theorem finish_faultless (path : String) (view : ConfigView) (result : Preprocessed)
    (session : Session) (fault : Fault) :
    ((finish path view result).runFrom session).1 ≠ .error (.fault fault) := by
  intro stops
  rw [finish] at stops
  split at stops
  · rcases stops_bind_iff.mp stops with stops | ⟨_, _, -, stops⟩
    · obtain ⟨reason, same⟩ := stops_write stops
      cases same
    · cases stops
  · cases stops

private theorem faults_run_iff (session : Session) (path : String) (view : ConfigView)
    (fault : Fault) : ((run path view).runFrom session).1 = .error (.fault fault) ↔
      Trips session (Path.absolute session.world.currentDirectory path) view fault := by
  rw [run_eq, runFrom_bind_of_ok (Session.runFrom_absolutePath path session)]
  generalize Path.absolute session.world.currentDirectory path = path
  simp only [stops_bind_iff, finish_faultless, and_false, exists_false, or_false]
  constructor
  · intro stops
    split at stops
    · rename_i mode
      obtain ⟨script, rfl⟩ | ⟨first, script, dumps, text, readable, ⟨next, rfl⟩ | ⟨second, next,
        preprocesses, flawed | ⟨file, read, misplaced⟩⟩⟩ := (faults_runFast_iff path view fault).mp stops
      · exact .barred script
      · exact .barredNext mode script dumps readable next
      · exact .fast mode script dumps readable next preprocesses flawed
      · exact .restoring mode script dumps readable next preprocesses read misplaced
    · rename_i mode
      obtain ⟨script, rfl⟩ | ⟨run, script, preprocesses, flawed⟩ :=
        (faults_runFull_iff path view fault).mp stops
      · exact .barred script
      · exact .full (eq_false_of_ne_true mode) script preprocesses flawed
  · intro trips
    cases trips with
    | barred script =>
      split
      · exact (faults_runFast_iff path view .badArgument).mpr (.inl ⟨script, rfl⟩)
      · exact (faults_runFull_iff path view .badArgument).mpr (.inl ⟨script, rfl⟩)
    | barredNext mode script dumps readable next =>
      rw [mode]
      exact (faults_runFast_iff path view .badArgument).mpr
        (.inr ⟨_, script, dumps, _, readable, .inl ⟨next, rfl⟩⟩)
    | full mode script preprocesses flawed =>
      rw [mode]
      exact (faults_runFull_iff path view fault).mpr (.inr ⟨_, script, preprocesses, flawed⟩)
    | fast mode script dumps readable next preprocesses flawed =>
      rw [mode]
      exact (faults_runFast_iff path view fault).mpr
        (.inr ⟨_, script, dumps, _, readable, .inr ⟨_, next, preprocesses, .inl flawed⟩⟩)
    | restoring mode script dumps readable next preprocesses read misplaced =>
      rw [mode]
      exact (faults_runFast_iff path view fault).mpr
        (.inr ⟨_, script, dumps, _, readable, .inr ⟨_, next, preprocesses, .inr ⟨_, read, misplaced⟩⟩⟩)

/-- Preprocessing trips over such numbers and arguments, and ends as foreseen in all other cases, in either
mode and whatever the texts. Where the system takes all arguments but those with a NUL character, these are
the arguments that it trips over. -/
theorem foreseen_iff (session : Session) (path : String) (view : ConfigView) :
    let absolute := Path.absolute session.world.currentDirectory path
    let outcome := ((run path view).runFrom session).1
    (Foreseen outcome ↔ ∀ fault, ¬Trips session absolute view fault) ∧
      (∀ fault, outcome = .error (.fault fault) ↔ Trips session absolute view fault) ∧
      (Vets session absolute view →
        (outcome = .error (.fault .badArgument) ↔ GivesNul session absolute view)) := by
  intro absolute outcome
  have trips := faults_run_iff session path view
  refine ⟨?_, trips, fun vets => (trips .badArgument).trans (trips_badArgument_iff vets)⟩
  have untripped : (∀ fault, ¬Trips session absolute view fault) ↔
      ∀ fault, outcome ≠ .error (.fault fault) :=
    forall_congr' fun fault => not_congr (trips fault).symm
  rw [untripped]
  rcases ends : outcome with (failure | fault) | result
  · simpa [Foreseen] using failsAsForeseen_run path view session failure ends
  · simp [Foreseen]
  · simp [Foreseen]

/-- A session in which the first child process lists a definition with a NUL character, so that the second
one is not launched. -/
def nulSample : Session :=
  { fastSample "int a;\n" "" with
    world := { (fastSample "int a;\n" "").world with
      children := [.runs { stdout := "#define X a\x00b\n" }, .barred] } }

/-- Preprocessing trips over that definition. With one that has no NUL character it ends as foreseen. -/
theorem foreseen_iff_sample :
    let plain := fastSample "int a;\n" "# 1 \"/work/a.cpp\"\nint a;\n"
    let outcome := ((run "a.cpp" fastView).runFrom nulSample).1
    Vets nulSample "/work/a.cpp" fastView ∧ outcome = .error (.fault .badArgument) ∧
      ¬Foreseen outcome ∧ ∀ fault, ¬Trips plain "/work/a.cpp" fastView fault := by
  intro plain outcome
  have absolute : Path.absolute nulSample.world.currentDirectory "a.cpp" = "/work/a.cpp" := by
    decide +kernel
  have vets : Vets nulSample "/work/a.cpp" fastView := by
    refine ⟨by decide +kernel, fun run script => ?_⟩
    obtain rfl : run = { stdout := "#define X a\x00b\n" } := ChildScript.runs.inj script.symm
    decide +kernel
  obtain ⟨foreseen, trips, gives⟩ := foreseen_iff nulSample "a.cpp" fastView
  rw [absolute] at foreseen trips gives
  have stops : outcome = .error (.fault .badArgument) := by
    have readable : nulSample.world.read "/work/a.cpp" = .ok "int a;\n" := by decide +kernel
    exact (gives vets).mpr (.second rfl rfl ⟨rfl, rfl⟩ readable (by decide +kernel))
  have clear := (foreseen_iff plain "a.cpp" fastView).1.mp (by
    have ends : (run "a.cpp" fastView).runFrom plain |>.1.isOk = true := by decide +kernel
    generalize ((run "a.cpp" fastView).runFrom plain).1 = result at ends
    cases result with
    | ok => trivial
    | error => cases ends)
  rw [show Path.absolute plain.world.currentDirectory "a.cpp" = "/work/a.cpp" from absolute] at clear
  exact ⟨vets, stops, fun ended => foreseen.mp ended _ ((trips _).mp stops), clear⟩

/-- A file that has a line like a placeholder already, a child process that says that the first line of a
file is the one before the first, and one that lists a definition with a NUL character. -/
theorem unforeseen_sample :
    let source := "#pragma cxxparse_include 5\n"
    let output := "# 1 \"/work/a.cpp\"\n#pragma cxxparse_include 5\n"
    let full : Session :=
      { defaults := .sample
        world := { children := [.runs { stdout := "# 0 \"/work/a.cpp\"\nint a;\n" }] } }
    let fastOutcome := ((run "a.cpp" fastView).runFrom (fastSample source output)).1
    let fullOutcome :=
      ((run "a.cpp" { fastView with fastPreprocessing := false }).runFrom full).1
    let nulOutcome := ((run "a.cpp" fastView).runFrom nulSample).1
    fastOutcome = .error (.fault .unknownPlaceholder) ∧ ¬Foreseen fastOutcome ∧
      fullOutcome = .error (.fault .noLineBefore) ∧ ¬Foreseen fullOutcome ∧
      nulOutcome = .error (.fault .badArgument) ∧ ¬Foreseen nulOutcome := by
  intro source output full fastOutcome fullOutcome nulOutcome
  have unknown : fastOutcome = .error (.fault .unknownPlaceholder) := by decide +kernel
  have above : fullOutcome = .error (.fault .noLineBefore) := by decide +kernel
  have barred : nulOutcome = .error (.fault .badArgument) := by decide +kernel
  refine ⟨unknown, ?_, above, ?_, barred, ?_⟩
  · rw [unknown]
    exact id
  · rw [above]
    exact id
  · rw [barred]
    exact id

end Preprocessed

end UnitLift
