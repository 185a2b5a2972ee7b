import UnitLift.Preprocess.Run
import UnitLift.Proofs.Preprocess.Child
import UnitLift.Proofs.World

namespace UnitLift.Preprocessed

open Work

private theorem keeps_log (level : Level) (channel : Channel) (message : String) :
    Keeps Session.unlaunched (Session.log level channel message) := fun _ => rfl

private theorem keeps_mainFile (output path : String) :
    Keeps Session.unlaunched (mainFile output path) :=
  Keeps.get_bind fun session => Keeps.ofFault _ session

theorem keeps_runFull (path : String) (view : ConfigView) :
    Keeps Session.unlaunched (runFull path view) :=
  (Child.keeps_invoke _ _ _).bind fun output =>
    (keeps_mainFile output path).bind fun _ => .pure _

theorem keeps_runFast (path : String) (view : ConfigView) :
    Keeps Session.unlaunched (runFast path view) := by
  rw [runFast]
  apply (Child.keeps_invoke _ _ _).bind
  intro dump
  apply (keeps_log _ _ _).bind
  intro _
  apply Keeps.get_bind
  intro session
  cases session.world.read path with
  | error reason => rfl
  | ok text =>
    apply Keeps.bind (Child.keeps_invoke _ _ _)
    intro output
    apply (keeps_mainFile output path).bind
    intro file
    exact (Keeps.ofFault _).bind fun _ => .pure _

/-- A preprocessed file is refused, or it becomes the content of the file that the side path leads
to. -/
theorem runFrom_write_cases (path : String) (result : Preprocessed) (session : Session) :
    (session.world.isWritable (sidePath path) = false ∧
      ∃ reason, (write path result).runFrom session =
        (.error (.failure (.sourceFile (.unwritable (sidePath path) reason))), session)) ∨
    ∃ target, session.world.isWritable (sidePath path) = true ∧
      session.world.target? (sidePath path) = some target ∧
      (write path result).runFrom session =
        (Session.log .debug .preprocessor ("Wrote preprocessed file " ++ sidePath path)).runFrom
          { session with world := { session.world with
              files := session.world.files.insert target (.ofText result.source)
              written := session.world.written ++ [(sidePath path, result.source)] } } := by
  rw [write, runFrom_bind_of_ok (runFrom_get session)]
  cases writable : session.world.isWritable (sidePath path) with
  | false =>
    obtain ⟨reason, refused⟩ := World.exists_write_error writable result.source
    exact .inl ⟨rfl, reason, by rw [refused]; rfl⟩
  | true =>
    obtain ⟨target, leads, wrote⟩ := World.exists_write_ok writable result.source
    exact .inr ⟨target, rfl, leads, by rw [wrote]; rfl⟩

private theorem keeps_write (path : String) (result : Preprocessed) :
    Keeps Session.unwritten (write path result) := by
  intro session
  obtain ⟨-, reason, ran⟩ | ⟨target, -, -, ran⟩ := runFrom_write_cases path result session
  · rw [ran]
  · rw [ran]
    rfl

/-- The last step: a preprocessed file is written if that is asked for. -/
def finish (path : String) (view : ConfigView) (result : Preprocessed) :
    Work Session Preprocessed := do
  if view.writePreprocessed then write path result
  return result

theorem run_eq (path : String) (view : ConfigView) :
    run path view = (do
      let path ← Session.absolutePath path
      (if view.fastPreprocessing then runFast path view else runFull path view) >>=
        finish path view) := by
  rw [run]
  congr 1
  funext path
  cases view.fastPreprocessing with
  | false => rfl
  | true => rfl

theorem keeps_run (path : String) (view : ConfigView) :
    Keeps Session.unwritten (run path view) := by
  have finishing (path : String) (result : Preprocessed) :
      Keeps Session.unwritten (finish path view result) :=
    .ite ((keeps_write path result).bind fun _ => .pure result) (.pure result)
  rw [run_eq]
  apply Keeps.bind fun _ => rfl
  intro path
  refine Keeps.bind ?_ (finishing path)
  exact .ite ((keeps_runFast path view).comp Session.unwritten)
    ((keeps_runFull path view).comp Session.unwritten)

private theorem preserves_mainFile (output path : String) :
    Preserves Session.Alone (mainFile output path) :=
  Preserves.get_bind fun _ => .ofFault _

private theorem preserves_runFull (path : String) (view : ConfigView) :
    Preserves Session.Alone (runFull path view) :=
  (Child.preserves_invoke _ _ _).bind fun output =>
    (preserves_mainFile output path).bind fun _ => .pure _

private theorem preserves_runFast (path : String) (view : ConfigView) :
    Preserves Session.Alone (runFast path view) := by
  have logged (message : String) :
      Preserves Session.Alone (Session.log .debug .preprocessor message) := fun _ alone => alone
  rw [runFast]
  apply (Child.preserves_invoke _ _ _).bind
  intro dump
  apply (logged _).bind
  intro _
  apply Preserves.get_bind
  intro session
  cases session.world.read path with
  | error reason => exact fun _ alone => alone
  | ok text =>
    apply (Child.preserves_invoke _ _ _).bind
    intro output
    apply (preserves_mainFile output path).bind
    intro file
    exact (Preserves.ofFault _).bind fun _ => .pure _

private theorem preserves_write (path : String) (result : Preprocessed) :
    Preserves Session.Alone (write path result) := by
  intro session alone
  obtain ⟨-, reason, ran⟩ | ⟨target, -, -, ran⟩ := runFrom_write_cases path result session
  · rw [ran]
    exact alone
  · rw [ran]
    exact alone

/-- Preprocessing leaves no child process running. -/
theorem preserves_run (path : String) (view : ConfigView) :
    Preserves Session.Alone (run path view) := by
  have found : Preserves Session.Alone (Session.absolutePath path) := fun _ alone => alone
  rw [run_eq]
  apply found.bind
  intro path
  have finished (result : Preprocessed) : Preserves Session.Alone (finish path view result) :=
    .ite ((preserves_write path result).bind fun _ => .pure result) (.pure result)
  exact Preserves.bind (.ite (preserves_runFast path view) (preserves_runFull path view)) finished

end UnitLift.Preprocessed
