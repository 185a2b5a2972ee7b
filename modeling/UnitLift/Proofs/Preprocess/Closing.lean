import UnitLift.Proofs.Preprocess.Accounts

namespace UnitLift

open Work

/-- While the child process is waited for, somebody closes the parser. -/
def ChildScript.closes : ChildScript → Bool
  | refused _ | barred => false
  | runs run => run.closed

def Session.isClosed (session : Session) : Bool := session.parser.closed

namespace Child

variable {α β : Type} {closes : Bool}

/-- The operation closes the parser if `closes` says so, and does not open it. -/
def Closes (closes : Bool) (work : Work Session α) : Prop :=
  ∀ session, (work.runFrom session).2.isClosed = (session.isClosed || closes)

namespace Closes

variable {work : Work Session α} {next : α → Work Session β}

theorem andThen (first : Closes closes work)
    (second : ∀ value, Keeps Session.isClosed (next value)) : Closes closes (work >>= next) :=
  fun session => (Keeps.bind_last second session).trans (first session)

theorem after (first : Passes Session.isClosed work) (second : ∀ value, Closes closes (next value)) :
    Closes closes (work >>= next) := by
  intro session
  obtain ⟨value, left, ran, same⟩ := first session
  rw [runFrom_bind_of_ok ran, second value left, same]

end Closes

private theorem passes_logged (message : String) :
    Passes Session.isClosed (Session.log .debug .preprocessor message) := .modify fun _ => rfl

private theorem passes_deed (number : Nat) (deed : Deed) :
    Passes Session.isClosed (Session.modifyWorld (·.modifyLaunch number (Launch.did [deed]))) :=
  .modify fun _ => rfl

private theorem passes_asked (status : Option Int) : Passes Session.isClosed (terminate status) :=
  passes_terminate_of passes_logged (passes_deed · .kill) status

theorem closes_closeParser (status : Option Int) : Closes true (closeParser status) :=
  .after (passes_asked status) fun _ session => (Bool.or_true session.isClosed).symm

private theorem closes_interrupt (run : ChildRun) : Closes run.closed (interrupt run) := by
  have closing : Closes run.closed (if run.closed then closeParser run.status else pure ()) := by
    cases run.closed with
    | true => exact closes_closeParser run.status
    | false => exact fun session => (Bool.or_false session.isClosed).symm
  rw [interrupt_eq]
  refine .after (.ite (passes_asked run.status) (.pure ())) fun _ => closing.andThen fun _ => ?_
  exact (Passes.forM passes_asked run.terminations).keeps

private theorem closes_await (number : Nat) (run : ChildRun) (input : Option String) :
    Closes run.closed (await number run input) := by
  have late : Keeps Session.isClosed (do
      kill number
      wait number
      run.lateTerminations.forM fun status => terminate status
      return false : Work Session Bool) :=
    (passes_deed number .kill).keeps.bind fun _ => (passes_deed number .wait).keeps.bind fun _ =>
      (Passes.forM passes_asked run.lateTerminations).keeps.bind fun _ => .pure false
  refine .after (passes_deed number .wait) fun _ => .after (.modify fun _ => rfl) fun _ => ?_
  exact (closes_interrupt run).andThen fun _ => .ite late (.pure true)

private theorem keeps_collect (path : String) (run : ChildRun) :
    Keeps Session.isClosed (collect path run) := by
  have reported (message : String) (severity : Severity) :
      Keeps Session.isClosed (report path message severity) := fun _ => rfl
  rw [collect]
  split
  · exact (reported _ _).bind fun _ => .throw _
  · exact .ite ((reported _ _).bind fun _ => .pure run.stdout) (.pure run.stdout)

private theorem isClosed_of_await {arguments : List String} {input : Option String}
    {session waited : Session} {run : ChildRun} {inTime : Bool}
    (waits : (await session.world.launches.length run input).runFrom
      (attending arguments input session) = (.ok inTime, waited)) :
    waited.isClosed = (session.isClosed || run.closed) := by
  have closed := closes_await session.world.launches.length run input
    (attending arguments input session)
  rw [waits] at closed
  exact closed

/-- A child process closes the parser if its script says so. -/
theorem isClosed_invoke (path : String) (arguments : List String) (input : Option String)
    (session : Session) :
    ((invoke path arguments input).runFrom session).2.isClosed =
      (session.isClosed || session.world.nextChild.1.closes) := by
  obtain ⟨message, goes⟩ := exists_invocation path arguments input session
  generalize (invoke path arguments input).runFrom session = ended at goes ⊢
  generalize session.world.nextChild.1 = script at goes ⊢
  cases goes with
  | refused reason => exact (Bool.or_false session.isClosed).symm
  | barred => exact (Bool.or_false session.isClosed).symm
  | late _ waits =>
    have closed := isClosed_of_await waits
    exact closed
  | @inTime run waited _ waits =>
    have closed := isClosed_of_await waits
    exact (keeps_collect path run (released waited)).trans closed

end Child

namespace Preprocessed

variable {session : Session} {path : String} {view : ConfigView}

private theorem keeps_read (output path : String) : Keeps Session.isClosed (mainFile output path) :=
  .get_bind fun session => Keeps.ofFault _ session

private theorem isClosed_runFull (session : Session) (path : String) (view : ConfigView) :
    ((runFull path view).runFrom session).2.isClosed =
      (session.isClosed || session.world.nextChild.1.closes) := by
  have rest (output : String) : Keeps Session.isClosed (do
      let file ← mainFile output path
      return { source := file.source, includes := file.includes, fullIncludePaths := true }
        : Work Session Preprocessed) := (keeps_read output path).bind fun _ => .pure _
  exact (Keeps.bind_last rest session).trans (Child.isClosed_invoke _ _ _ session)

private theorem isClosed_listDefinitions (session : Session) (path : String) (view : ConfigView) :
    ((listDefinitions path view).runFrom session).2.isClosed =
      (session.isClosed || session.world.nextChild.1.closes) := by
  have rest (dump : String) : Keeps Session.isClosed (do
      let definitions := Definitions.ofOutput dump
      Session.log .debug .preprocessor
        ("Collected " ++ toString definitions.size ++ " macros for " ++ path)
      return definitions : Work Session Definitions) := Keeps.bind (fun _ => rfl) fun _ => .pure _
  exact (Keeps.bind_last rest session).trans (Child.isClosed_invoke _ _ _ session)

private theorem isClosed_runHidden (session : Session) (path : String) (view : ConfigView)
    (definitions : Definitions) (text : String) :
    ((runHidden path view definitions text).runFrom session).2.isClosed =
      (session.isClosed || session.world.nextChild.1.closes) := by
  refine (Keeps.bind_last (fun output => ?_) session).trans (Child.isClosed_invoke _ _ _ session)
  exact (keeps_read output path).bind fun _ => (Keeps.ofFault _).bind fun _ => .pure _

private theorem isClosed_runFast (mode : view.fastPreprocessing = true) (session : Session) :
    ((runFast path view).runFrom session).2.isClosed =
      (session.isClosed || (scripts path view session.world).any ChildScript.closes) := by
  have listing := isClosed_listDefinitions session path view
  have run := fastRun_runFast path mode session
  generalize (runFast path view).runFrom session = ended at run ⊢
  generalize scripts path view session.world = scripts at run ⊢
  cases run with
  | unlisted listed =>
    rw [listed] at listing
    simpa using listing
  | unread listed _ =>
    rw [listed] at listing
    simpa using listing
  | @hidden definitions text left listed _ _ =>
    rw [listed] at listing
    rw [isClosed_runHidden, listing]
    simp [Bool.or_assoc]

private theorem keeps_finish (path : String) (view : ConfigView) (result : Preprocessed) :
    Keeps Session.isClosed (finish path view result) := by
  have writing : Keeps Session.isClosed (write path result) := by
    intro session
    obtain ⟨-, reason, ran⟩ | ⟨target, -, -, ran⟩ := runFrom_write_cases path result session
    · rw [ran]
    · rw [ran]
      rfl
  exact .ite (writing.bind fun _ => .pure result) (.pure result)

/-- A run leaves the parser closed if it was, or if one of the child processes closes it that the run
launches. -/
theorem isClosed_run (session : Session) (path : String) (view : ConfigView) :
    ((run path view).runFrom session).2.isClosed =
      (session.isClosed ||
        (scripts (Path.absolute session.world.currentDirectory path) view session.world).any
          ChildScript.closes) := by
  rw [run_eq, runFrom_bind_of_ok (Session.runFrom_absolutePath path session)]
  refine (Keeps.bind_last (keeps_finish _ view) session).trans ?_
  cases mode : view.fastPreprocessing with
  | true => exact isClosed_runFast mode session
  | false =>
    have only : scripts (Path.absolute session.world.currentDirectory path) view session.world =
        [session.world.nextChild.1] := by simp [scripts, mode]
    rw [only, List.any_cons, List.any_nil, Bool.or_false]
    exact isClosed_runFull session _ view

end Preprocessed

end UnitLift
