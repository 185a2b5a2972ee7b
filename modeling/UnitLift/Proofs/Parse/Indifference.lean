import UnitLift.Parse.FrontEnd
import UnitLift.Proofs.Indifference
import UnitLift.Proofs.Parse.File

/-! Parsing a file has nothing to do with the defaults and the compilation databases of a session. It
makes no difference to a call which these are, and they are left as they were. -/

namespace UnitLift

open Work

namespace Child

private theorem indifferent_kill (number : Nat) : Indifferent (kill number) := fun _ _ => rfl

private theorem indifferent_wait (number : Nat) : Indifferent (wait number) := fun _ _ => rfl

private theorem indifferent_terminate (status : Option Int) : Indifferent (terminate status) := by
  intro stored
  apply Commutes.get_bind
  intro session
  have running : (session.withStored stored).parser.running = session.parser.running := rfl
  rw [running]
  cases session.parser.running with
  | none => rfl
  | some number =>
    cases status with
    | some status => rfl
    | none => rfl

private theorem indifferent_terminations (statuses : List (Option Int)) :
    Indifferent (statuses.forM fun status => terminate status) := by
  induction statuses with
  | nil => exact .pure ()
  | cons status rest ih => exact (indifferent_terminate status).bind fun _ => ih

private theorem indifferent_interrupt (run : ChildRun) : Indifferent (interrupt run) := by
  have closing : Indifferent (closeParser run.status) :=
    (indifferent_terminate run.status).bind fun _ => Session.indifferent_modifyParser _
  rw [interrupt_eq]
  exact (Indifferent.ite (indifferent_terminate run.status) (.pure ())).bind fun _ =>
    (Indifferent.ite closing (.pure ())).bind fun _ => indifferent_terminations run.terminations

private theorem indifferent_await (number : Nat) (run : ChildRun) (input : Option String) :
    Indifferent (await number run input) := by
  apply (indifferent_wait number).bind
  intro _
  apply (Session.indifferent_modifyWorld _).bind
  intro _
  apply (indifferent_interrupt run).bind
  intro _
  have killed : Indifferent (do
      kill number
      wait number
      run.lateTerminations.forM fun status => terminate status
      return false : Work Session Bool) :=
    (indifferent_kill number).bind fun _ => (indifferent_wait number).bind fun _ =>
      (indifferent_terminations run.lateTerminations).bind fun _ => .pure false
  exact .ite killed (.pure true)

private theorem indifferent_collect (path : String) (run : ChildRun) :
    Indifferent (collect path run) := by
  have reported (message : String) (severity : Severity) :
      Indifferent (report path message severity) := Session.indifferent_report _ _
  have given : Indifferent (do
      if !run.stderr.isEmpty then report path run.stderr .warning
      return run.stdout) :=
    .ite ((reported _ _).bind fun _ => .pure run.stdout) (.pure run.stdout)
  rw [collect]
  split
  · exact (reported _ _).bind fun _ => .throw _
  · exact given

private theorem indifferent_attend (path : String) (number : Nat) (run : ChildRun)
    (input : Option String) : Indifferent (do
      Session.modifyParser ({ · with running := some number })
      let inTime ← await number run input
      if inTime then
        Session.modifyParser ({ · with running := none })
        collect path run
      else
        let seconds := (← get).parser.timeout
        report path ("preprocessor timed out after " ++ seconds ++ " seconds") .error
        Session.modifyParser ({ · with running := none })
        Work.fail (.preprocessing (.timedOut path seconds)) : Work Session String) := by
  apply (Session.indifferent_modifyParser _).bind
  intro _
  apply (indifferent_await number run input).bind
  intro inTime
  have late : Indifferent (do
      let seconds := (← get).parser.timeout
      report path ("preprocessor timed out after " ++ seconds ++ " seconds") .error
      Session.modifyParser ({ · with running := none })
      Work.fail (.preprocessing (.timedOut path seconds)) : Work Session String) := fun _ _ => rfl
  exact .ite ((Session.indifferent_modifyParser _).bind fun _ => indifferent_collect path run) late

theorem indifferent_invoke (path : String) (arguments : List String) (input : Option String) :
    Indifferent (invoke path arguments input) := by
  apply (Session.indifferent_log _ _ _).bind
  intro _ stored
  apply Commutes.get_bind
  intro session
  have world : (session.withStored stored).world = session.world := rfl
  simp only [world]
  rw [runFrom_bind_of_ok (runFrom_set _ _), runFrom_bind_of_ok (runFrom_set _ _)]
  cases session.world.nextChild.1 with
  | refused reason => rfl
  | barred => rfl
  | runs run =>
    let launch : Launch := { arguments, piped := input.isSome, stage := session.parser.stage }
    let launched : Session :=
      { session with world :=
          { session.world.nextChild.2 with
            launches := session.world.nextChild.2.launches ++ [launch] } }
    exact indifferent_attend path session.world.nextChild.2.launches.length run input stored
      launched

end Child

namespace Preprocessed

private theorem indifferent_mainFile (output path : String) :
    Indifferent (mainFile output path) :=
  fun _ => Commutes.get_bind fun session => Commutes.ofFault _ session

private theorem indifferent_runFull (path : String) (view : ConfigView) :
    Indifferent (runFull path view) :=
  (Child.indifferent_invoke _ _ _).bind fun output =>
    (indifferent_mainFile output path).bind fun _ => .pure _

private theorem indifferent_runFast (path : String) (view : ConfigView) :
    Indifferent (runFast path view) := by
  rw [runFast]
  apply (Child.indifferent_invoke _ _ _).bind
  intro dump
  apply (Session.indifferent_log _ _ _).bind
  intro _ stored
  apply Commutes.get_bind
  intro session
  have world : (session.withStored stored).world = session.world := rfl
  rw [world]
  cases session.world.read path with
  | error reason => rfl
  | ok text =>
    refine Indifferent.bind (Child.indifferent_invoke _ _ _) (fun output => ?_) stored session
    apply (indifferent_mainFile output path).bind
    intro file
    exact (Indifferent.ofFault _).bind fun _ => .pure _

private theorem indifferent_write (path : String) (result : Preprocessed) :
    Indifferent (write path result) := by
  intro stored
  apply Commutes.get_bind
  intro session
  have world : (session.withStored stored).world = session.world := rfl
  rw [world]
  cases session.world.write (sidePath path) result.source with
  | error reason => rfl
  | ok world => rfl

theorem indifferent_run (path : String) (view : ConfigView) : Indifferent (run path view) := by
  have finished (path : String) (result : Preprocessed) : Indifferent (finish path view result) :=
    .ite ((indifferent_write path result).bind fun _ => .pure result) (.pure result)
  rw [run_eq]
  apply (Session.indifferent_absolutePath path).bind
  intro path
  exact Indifferent.bind (.ite (indifferent_runFast path view) (indifferent_runFull path view))
    (finished path)

end Preprocessed

namespace Parser

private theorem indifferent_drain (path : String) (errors warnings : Nat)
    (diagnostics : List Diagnostic) : Indifferent (drain path errors warnings diagnostics) := by
  induction diagnostics generalizing errors warnings with
  | nil => exact .pure (errors, warnings)
  | cons diagnostic rest ih =>
    apply (Session.indifferent_report _ _).bind
    intro _
    cases diagnostic.severity with
    | critical => exact .throw _
    | error => exact ih (errors + 1) warnings
    | warning => exact ih errors (warnings + 1)
    | info => exact ih errors warnings
    | debug => exact ih errors warnings

private theorem indifferent_drainDiagnostics (path : String) (diagnostics : List UnitDiagnostic) :
    Indifferent (drainDiagnostics path diagnostics) := by
  apply (indifferent_drain path 0 0 _).bind
  rintro ⟨errors, warnings⟩
  have told (level : Level) (message : String) : Indifferent (do
      Session.log level .parser message
      return errors != 0) := (Session.indifferent_log _ _ _).bind fun _ => .pure _
  exact .ite (told _ _) (.ite (told _ _) (.pure _))

private theorem indifferent_parseUnit (path : String) (preprocessed : Preprocessed)
    (view : ConfigView) : Indifferent (parseUnit path preprocessed view) := by
  intro stored
  apply Commutes.get_bind
  intro session
  have world : (session.withStored stored).world = session.world := rfl
  have parser : (session.withStored stored).parser = session.parser := rfl
  rw [parser]
  cases session.parser.closed with
  | true => rfl
  | false =>
    simp only [world]
    cases session.world.nextUnit.1 with
    | nothing => rfl
    | refused reason => rfl
    | noCursor => rfl
    | unit cursors diagnostics => rfl

private theorem indifferent_lift (root : EntityId) (path : String) (cursors : List Cursor) :
    Indifferent (lift root path cursors) := by
  have said (texts : List String) : Indifferent (texts.forM (Session.log .debug .parser)) :=
    Session.indifferent_logs .debug .parser id texts
  intro stored
  apply Commutes.get_bind
  intro session
  apply (Session.indifferent_modifyWorld _).bind
  intro _ stored
  apply Commutes.get_bind
  intro asked
  exact (said _).bind (fun _ => fun _ _ => rfl) stored asked

private theorem indifferent_liftUnit (path : String) (preprocessed : Preprocessed)
    (cursors : List Cursor) (hadErrors : Bool) :
    Indifferent (liftUnit path preprocessed cursors hadErrors) := by
  have grown (graph : EntityGraph) :
      Indifferent (modify ({ · with graph }) : Work Session PUnit) := fun _ _ => rfl
  have finished (root : EntityId) : Indifferent (do
      modify fun session => { session with index := session.index.registerFile session.graph root }
      Session.log .info .parser
        ("Successfully parsed " ++ toString ((← get).graph.below root).length ++
          " entities from " ++ path)
      return root) := fun _ _ => rfl
  have rest (root : EntityId) (graph : EntityGraph) : Indifferent (do
      modify ({ · with graph })
      lift root path cursors
      modify fun session => { session with index := session.index.registerFile session.graph root }
      Session.log .info .parser
        ("Successfully parsed " ++ toString ((← get).graph.below root).length ++
          " entities from " ++ path)
      return root) :=
    (grown graph).bind fun _ => (indifferent_lift root path cursors).bind fun _ => finished root
  apply (Session.indifferent_enter _).bind
  intro _ stored
  apply Commutes.get_bind
  intro session
  exact rest _ _ stored session

private theorem indifferent_parseFile (path : String) (view : ConfigView) :
    Indifferent (parseFile path view) := by
  rw [parseFile_eq]
  have prepared : Indifferent (prepare path view) :=
    (Session.indifferent_enter _).bind fun _ => (Session.indifferent_log _ _ _).bind fun _ =>
      Preprocessed.indifferent_run path view
  apply prepared.bind
  intro preprocessed
  have asked : Indifferent (askLibrary path view preprocessed) := by
    apply (Session.indifferent_enter _).bind
    intro _
    apply (indifferent_parseUnit path preprocessed view).bind
    rintro ⟨cursors, diagnostics⟩
    exact (indifferent_drainDiagnostics path diagnostics).bind fun _ => .pure _
  apply asked.bind
  rintro ⟨cursors, hadErrors⟩
  exact indifferent_liftUnit path preprocessed cursors hadErrors

private theorem indifferent_accept (path : PathArgument) (config : AnyConfig) :
    Indifferent (accept path config) := by
  have stopped {α : Type} (stop : Stop) (next : Unit → Work Session α) :
      Indifferent ((throw stop : Work Session Unit) >>= next) := fun _ _ => rfl
  apply (Indifferent.ofExcept config.access).bind
  intro view
  apply Indifferent.ite (stopped _ _)
  intro stored
  apply Commutes.get_bind
  intro session
  have last : Indifferent
      (if session.parser.busy then do
          Work.refuse .parserBusy
          return view
        else return view : Work Session ConfigView) :=
    .ite (stopped _ _) (.pure view)
  exact Indifferent.ite (stopped _ _) last stored session

/-- No call on a parser looks at defaults or databases. -/
theorem indifferent_parse (path : PathArgument) (config : AnyConfig) :
    Indifferent (parse path config) := by
  apply (indifferent_accept path config).bind
  intro view
  apply (Session.indifferent_modifyParser _).bind
  intro _
  cases path with
  | other printed => exact .throw _
  | path path =>
    apply (Session.indifferent_absolutePath path).bind
    intro path
    apply (Session.indifferent_modifyParser _).bind
    intro _
    apply (indifferent_parseFile path view).outcome.bind
    intro outcome
    rcases outcome with (failure | fault) | root
    · exact (Session.indifferent_modifyParser _).bind fun _ => .throw _
    · exact (Session.indifferent_modifyParser _).bind fun _ => .throw _
    · exact (Session.indifferent_modifyParser _).bind fun _ => .pure _

end Parser

theorem StandIn.indifferent_parse (standIn : StandIn) (path : PathArgument) (config : AnyConfig) :
    Indifferent (standIn.parse path config) := by
  have stopped {α : Type} (stop : Stop) (next : Unit → Work Session α) :
      Indifferent ((throw stop : Work Session Unit) >>= next) := fun _ _ => rfl
  apply (Session.indifferent_modifyWorld _).bind
  intro _
  apply Indifferent.ite (stopped _ _)
  apply Indifferent.ite (stopped _ _)
  exact fun _ _ => rfl

end UnitLift
