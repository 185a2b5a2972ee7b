import UnitLift.Proofs.Preprocess.FastMode

/-! Preprocessing that comes to its end in either mode. If the second child process of fast mode
changes nothing, every directive of the file is put back and becomes an include. -/

namespace UnitLift

namespace Preprocessed

open HiddenDirective Work

variable {session : Session} {path text : String} {view : ConfigView} {child first second : ChildRun}
  {rest : List ChildScript}

theorem filtered_all (whole : Text.IsLine path) {lines : List String}
    (each : ∀ line ∈ lines, Text.IsLine line) :
    filtered (fun _ => true) (hiddenInput path lines) = hiddenInput path lines := by
  rw [filtered_hiddenInput _ whole each, masked_all, ← hiddenInput_eq path each]

/-- What either mode produces is the result if it does not have to be written where that is not
possible. -/
private theorem runFrom_run_of_mode {result : Preprocessed} {produced : Session}
    (ran : (if view.fastPreprocessing then
        runFast (Path.absolute session.world.currentDirectory path) view
      else runFull (Path.absolute session.world.currentDirectory path) view).runFrom session =
        (.ok result, produced))
    (kept : produced.unlaunched = session.unlaunched)
    (writable : view.writePreprocessed = true → session.world.isWritable
      (sidePath (Path.absolute session.world.currentDirectory path)) = true) :
    ∃ left, (run path view).runFrom session = (.ok result, left) ∧
      left.world.launches = produced.world.launches := by
  have openable (path : String) : produced.world.isWritable path = session.world.isWritable path :=
    congrArg (·.world.isWritable path) kept
  have finished : ∃ left, (if view.writePreprocessed then (do
        write (Path.absolute session.world.currentDirectory path) result
        return result)
      else return result : Work Session Preprocessed).runFrom produced = (.ok result, left) ∧
      left.world.launches = produced.world.launches := by
    cases writing : view.writePreprocessed with
    | false => exact ⟨produced, rfl, rfl⟩
    | true =>
      obtain ⟨left, ranWrite, launches⟩ := runFrom_write ((openable _).trans (writable writing))
      exact ⟨left, runFrom_bind_of_ok ranWrite _, launches⟩
  obtain ⟨left, ranFinish, launches⟩ := finished
  refine ⟨left, ?_, launches⟩
  rw [run, runFrom_bind_of_ok (Session.runFrom_absolutePath path session)]
  cases mode : view.fastPreprocessing with
  | false =>
    rw [if_neg (by simp [mode])] at ran
    exact (runFrom_bind_of_ok ran _).trans ranFinish
  | true =>
    rw [if_pos mode] at ran
    exact (runFrom_bind_of_ok ran _).trans ranFinish

theorem runFrom_run_of_full {result : Preprocessed} {produced : Session}
    (slow : view.fastPreprocessing = false)
    (ran : (runFull (Path.absolute session.world.currentDirectory path) view).runFrom session =
      (.ok result, produced))
    (kept : produced.unlaunched = session.unlaunched)
    (writable : view.writePreprocessed = true → session.world.isWritable
      (sidePath (Path.absolute session.world.currentDirectory path)) = true) :
    ∃ left, (run path view).runFrom session = (.ok result, left) ∧
      left.world.launches = produced.world.launches :=
  runFrom_run_of_mode (by rw [if_neg (by simp [slow])]; exact ran) kept writable

theorem runFrom_run_of_fast {result : Preprocessed} {produced : Session}
    (fast : view.fastPreprocessing = true)
    (ran : (runFast (Path.absolute session.world.currentDirectory path) view).runFrom session =
      (.ok result, produced))
    (kept : produced.unlaunched = session.unlaunched)
    (writable : view.writePreprocessed = true → session.world.isWritable
      (sidePath (Path.absolute session.world.currentDirectory path)) = true) :
    ∃ left, (run path view).runFrom session = (.ok result, left) ∧
      left.world.launches = produced.world.launches :=
  runFrom_run_of_mode (by rw [if_pos fast]; exact ran) kept writable

theorem runFrom_runFull (view : ConfigView)
    (children : session.world.children = .runs child :: rest) (good : child.Succeeds)
    {file : MainFile}
    (read : MainFile.ofOutput session.world.currentDirectory child.stdout path = .ok file) :
    ∃ left, (runFull path view).runFrom session =
        (.ok { source := file.source, includes := file.includes, fullIncludePaths := true }, left) ∧
      left.unlaunched = session.unlaunched := by
  obtain ⟨left, ranChild, kept⟩ := Child.runFrom_invoke_of_succeeds children good path
    (fullArguments path view) none
  have same : left.unlaunched = session.unlaunched := congrArg (·.1) kept
  have directory : left.world.currentDirectory = session.world.currentDirectory :=
    congrArg (·.world.currentDirectory) same
  have ranMain : (mainFile child.stdout path).runFrom left = (.ok file, left) := by
    rw [mainFile, runFrom_bind_of_ok (runFrom_get left), directory, read]
    rfl
  refine ⟨left, ?_, same⟩
  rw [runFull, runFrom_bind_of_ok ranChild, runFrom_bind_of_ok ranMain, runFrom_pure]

theorem head?_ne_of_isAbsolute {directory : String} (rooted : Path.isAbsolute directory = true)
    (path : String) : (Path.absolute directory path).toList.head? ≠ some '<' := by
  have rootedPath := Path.isAbsolute_absolute rooted path
  rw [Path.isAbsolute, beq_iff_eq] at rootedPath
  simp [rootedPath]

/-- If the second child process gives back what it is given, all directives of the file become
includes. -/
theorem runFrom_run_of_echo (rooted : Path.isAbsolute session.world.currentDirectory = true)
    (whole : Text.IsLine (Path.absolute session.world.currentDirectory path))
    (readable : session.world.read (Path.absolute session.world.currentDirectory path) = .ok text)
    (plain : ∀ line ∈ Text.linesOf text, LineMarker.scan? line.toList = none ∧
      placeholderNumeral? line.toList = none)
    (short : 1 + (Text.linesOf text).length < Text.unreadable)
    (fast : view.fastPreprocessing = true)
    (writable : view.writePreprocessed = true → session.world.isWritable
      (sidePath (Path.absolute session.world.currentDirectory path)) = true)
    (children : session.world.children = .runs first :: .runs second :: rest)
    (dumps : first.Succeeds) (preprocesses : second.Succeeds)
    (echoed : second.stdout = hiddenInput (Path.absolute session.world.currentDirectory path)
      (hide (Text.linesOf text)).1) :
    ∃ result left launches last, (run path view).runFrom session = (.ok result, left) ∧
      left.world.launches.map Launch.seen = launches ++ [last] ∧ last.input = some second.stdout ∧
      result.includes = keptIncludes (fun _ => true) 1 (Text.linesOf text) ∧
      result.source = Text.joinLines ((Text.linesOf text).map restoredLine) := by
  have real := head?_ne_of_isAbsolute rooted path
  have eachHidden : ∀ line ∈ (hide (Text.linesOf text)).1, Text.IsLine line :=
    isLine_of_mem_hide fun _ member => Text.isLine_of_mem_linesOf member
  obtain ⟨file, lines, read, restored, same⟩ :=
    restored_of_linesOf whole real plain short fun _ => true
  rw [filtered_all whole eachHidden, ← echoed] at read
  obtain ⟨produced, launches, last, ran, kept, launched, input⟩ :=
    runFrom_runFast view readable children dumps preprocesses read restored
  obtain ⟨left, ranAll, unmoved⟩ := runFrom_run_of_fast fast ran kept writable
  exact ⟨_, left, launches, last, ranAll, by rw [unmoved, launched], by rw [echoed, input], rfl,
    by rw [same, masked_all]⟩

end Preprocessed

end UnitLift
