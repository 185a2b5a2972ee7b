import UnitLift.Logging
import UnitLift.Proofs.FileSystem
import UnitLift.Proofs.Work
import UnitLift.SettingsLibrary

namespace UnitLift.Logging

variable {logging after : Logging} {path file text : String} {verbose colored : Bool} {logFile : Value}

/-! ## Logging records -/

/-- The paths of a log lead to where they led, and no outlet was taken away. -/
structure Extends (before after : Logging) : Prop where
  directory : after.fileSystem.directory = before.fileSystem.directory
  paths : after.fileSystem.paths = before.fileSystem.paths
  outlets : before.outlets ⊆ after.outlets

theorem Extends.refl (logging : Logging) : logging.Extends logging := ⟨rfl, rfl, List.Subset.refl _⟩

theorem Extends.trans {last : Logging} (first : logging.Extends after) (second : after.Extends last) :
    logging.Extends last :=
  ⟨second.directory.trans first.directory, second.paths.trans first.paths,
    List.Subset.trans first.outlets second.outlets⟩

/-- A record leaves the outlets as they were, and the paths. -/
private theorem frame_send (record : LogRecord) (logging : Logging) (outlets : List Outlet) :
    (outlets.foldl (send record) logging).outlets = logging.outlets ∧
      (outlets.foldl (send record) logging).fileSystem.directory = logging.fileSystem.directory ∧
      (outlets.foldl (send record) logging).fileSystem.paths = logging.fileSystem.paths := by
  induction outlets generalizing logging with
  | nil => exact ⟨rfl, rfl, rfl⟩
  | cons outlet rest ih =>
    obtain ⟨outlets, directory, paths⟩ := ih (send record logging outlet)
    cases outlet with
    | console => exact ⟨outlets, directory, paths⟩
    | file => exact ⟨outlets, directory, paths⟩
    | drain => exact ⟨outlets, directory, paths⟩

theorem extends_log (record : LogRecord) (logging : Logging) :
    logging.Extends (logging.log record) := by
  unfold log
  split
  · exact .refl _
  · split
    · obtain ⟨outlets, directory, paths⟩ := frame_send record logging logging.outlets
      exact ⟨directory, paths, by rw [outlets]; exact List.Subset.refl _⟩
    · split
      · exact ⟨rfl, rfl, List.Subset.refl _⟩
      · exact .refl _

/-- No file that records are sent to is the one that is written under a path. -/
def IsApart (logging : Logging) (path : String) : Prop :=
  ∀ absolute file, .file absolute file ∈ logging.outlets →
    logging.fileSystem.fileAt .write path ≠ .ok file

/-- A record does not go to a file that no outlet writes to. -/
private theorem holds_send (record : LogRecord) {outlets : List Outlet}
    (apart : ∀ absolute changed, .file absolute changed ∈ outlets → changed ≠ file)
    (holds : logging.fileSystem.Holds path file text) :
    (outlets.foldl (send record) logging).fileSystem.Holds path file text := by
  induction outlets generalizing logging with
  | nil => exact holds
  | cons outlet rest ih =>
    refine ih (fun absolute changed member => apart absolute changed (List.mem_cons_of_mem _ member)) ?_
    cases outlet with
    | console => exact holds
    | drain => exact holds
    | file absolute changed => exact holds.append (apart absolute changed List.mem_cons_self) _

theorem holds_log (record : LogRecord)
    (apart : ∀ absolute changed, .file absolute changed ∈ logging.outlets → changed ≠ file)
    (holds : logging.fileSystem.Holds path file text) :
    (logging.log record).fileSystem.Holds path file text := by
  unfold log
  split
  · exact holds
  · split
    · exact holds_send record apart holds
    · split
      · exact holds
      · exact holds

/-! ## Setting up -/

/-- Sets up a log as a section of settings asks for. -/
def setUpFor (wanted : Settings.LoggingSection) : Work Logging Unit :=
  setUp wanted.verbose wanted.colored wanted.file

/-- The absolute paths of the files that records are sent to, in order. -/
def files (logging : Logging) : List String := logging.outlets.filterMap Outlet.path?

def withConsole (logging : Logging) (colored : Bool) : Logging :=
  if logging.outlets.any Outlet.isConsole then logging
  else
    { logging with
      outlets := logging.outlets ++ [.console (colored && logging.terminal)], propagates := false }

/-- A log that records pass from the level on that is asked for. -/
def withLevel (logging : Logging) (verbose : Bool) : Logging :=
  { logging with level := if verbose then some .debug else some (logging.level.getD .info) }

/-- How a log comes by the file that is given for it. -/
inductive Opens (logging : Logging) : Value → Except Fault Logging → Prop
  /-- None is given. -/
  | unasked {logFile : Value} (absent : logFile.isTruthy = false) : Opens logging logFile (.ok logging)
  /-- What is given is no path. -/
  | unfit {logFile : Value} (given : logFile.isTruthy = true) (other : ∀ path, logFile ≠ .text path) :
      Opens logging logFile (.error .notAPath)
  | known {path : String} (given : path ≠ "")
      (old : Path.absolute logging.fileSystem.directory path ∈ logging.files) :
      Opens logging (.text path) (.ok logging)
  | added {path file : String} (given : path ≠ "")
      (new : Path.absolute logging.fileSystem.directory path ∉ logging.files)
      (opened : logging.fileSystem.fileAt .append
        (Path.absolute logging.fileSystem.directory path) = .ok file) :
      Opens logging (.text path) (.ok { logging with
        outlets := logging.outlets ++ [.file (Path.absolute logging.fileSystem.directory path) file]
        fileSystem := logging.fileSystem.append file "" })
  | refused {path : String} {fault : Fault} (given : path ≠ "")
      (new : Path.absolute logging.fileSystem.directory path ∉ logging.files)
      (refused : logging.fileSystem.fileAt .append
        (Path.absolute logging.fileSystem.directory path) = .error fault) :
      Opens logging (.text path) (.error fault)

theorem Opens.of_absent {opening : Except Fault Logging} (opens : logging.Opens logFile opening)
    (absent : logFile.isTruthy = false) : opening = .ok logging := by
  cases opens with
  | unasked => rfl
  | unfit given => cases absent.symm.trans given
  | _ => simp_all [Value.isTruthy, Scalar.isTruthy]

/-- A file that is given is open in the end just if it was or can be opened. -/
theorem Opens.of_text {opening : Except Fault Logging} (opens : logging.Opens (.text path) opening)
    (given : path ≠ "") :
    let absolute := Path.absolute logging.fileSystem.directory path
    (opening.isOk = true ↔ absolute ∈ logging.files ∨
      (logging.fileSystem.fileAt .append absolute).isOk = true) ∧
    ∀ filed, opening = .ok filed →
      filed.files = if absolute ∈ logging.files then logging.files else logging.files ++ [absolute] := by
  cases opens with
  | unasked absent => simp_all [Value.isTruthy, Scalar.isTruthy]
  | unfit _ other => exact absurd rfl (other path)
  | known _ old =>
    refine ⟨⟨fun _ => .inl old, fun _ => rfl⟩, ?_⟩
    rintro _ ⟨⟩
    exact (if_pos old).symm
  | added _ new opened =>
    refine ⟨⟨fun _ => .inr (by rw [opened]; rfl), fun _ => rfl⟩, ?_⟩
    rintro _ ⟨⟩
    rw [if_neg new]
    simp [files, Outlet.path?]
  | refused _ new refused =>
    refine ⟨⟨nofun, ?_⟩, nofun⟩
    rintro (old | opened)
    · exact absurd old new
    · rw [refused] at opened
      cases opened

private theorem runFrom_console (logging : Logging) (colored : Bool) (next : PUnit → Work Logging PUnit) :
    (get >>= fun logging : Logging =>
      if !logging.outlets.any Outlet.isConsole then
        modify (fun logging =>
          { logging with
            outlets := logging.outlets ++ [.console (colored && logging.terminal)]
            propagates := false }) >>= next
      else next ⟨⟩).runFrom logging = (next ⟨⟩).runFrom (logging.withConsole colored) := by
  unfold withConsole
  rw [Work.runFrom_bind_of_ok (Work.runFrom_get _)]
  cases logging.outlets.any Outlet.isConsole with
  | false => rfl
  | true => rfl

private theorem any_path?_iff {path : String} :
    logging.outlets.any (·.path? == some path) = true ↔ path ∈ logging.files := by
  simp [files]

private theorem runFrom_openFile (given : path ≠ "") (logging : Logging) :
    ∃ opening, logging.Opens (.text path) opening ∧ (openFile path).runFrom logging =
      match opening with
      | .ok filed => (.ok ⟨⟩, filed)
      | .error fault => (.error (.fault fault), logging) := by
  rw [openFile, Work.runFrom_bind_of_ok (Work.runFrom_get _)]
  dsimp only
  rw [Work.runFrom_bind_of_ok (Work.runFrom_get _)]
  cases old : logging.outlets.any
      (·.path? == some (Path.absolute logging.fileSystem.directory path)) with
  | true => exact ⟨_, .known given (any_path?_iff.mp old), rfl⟩
  | false =>
    have new : Path.absolute logging.fileSystem.directory path ∉ logging.files := by
      rw [← any_path?_iff, old]
      exact Bool.false_ne_true
    cases opened : logging.fileSystem.fileAt .append
        (Path.absolute logging.fileSystem.directory path) with
    | ok file => exact ⟨_, .added given new opened, rfl⟩
    | error fault => exact ⟨_, .refused given new opened, rfl⟩

/-- What comes of setting up a log, whose console comes before its file. -/
theorem runFrom_setUp (verbose colored : Bool) (logFile : Value) (logging : Logging) :
    ∃ opening, (logging.withConsole colored).Opens logFile opening ∧
      (setUp verbose colored logFile).runFrom logging =
        match opening with
        | .ok filed => (.ok ⟨⟩, filed.withLevel verbose)
        | .error fault => (.error (.fault fault), logging.withConsole colored) := by
  rw [setUp, runFrom_console]
  generalize logging.withConsole colored = opened
  cases given : logFile.isTruthy with
  | false => exact ⟨_, .unasked given, rfl⟩
  | true =>
    simp only [↓reduceIte]
    split
    · rename_i path
      have filled : path ≠ "" := by
        rintro rfl
        cases given
      obtain ⟨opening, opens, ran⟩ := runFrom_openFile filled opened
      refine ⟨opening, opens, ?_⟩
      cases opening with
      | ok filed => rw [Work.runFrom_bind_of_ok ran]; rfl
      | error fault => rw [Work.runFrom_bind_of_error ran]
    · rename_i other
      exact ⟨_, .unfit given fun path same => other path same, rfl⟩

@[simp] theorem fileSystem_withConsole (logging : Logging) (colored : Bool) :
    (logging.withConsole colored).fileSystem = logging.fileSystem := by
  unfold withConsole
  split
  · rfl
  · rfl

@[simp] theorem files_withConsole (logging : Logging) (colored : Bool) :
    (logging.withConsole colored).files = logging.files := by
  unfold withConsole files
  split
  · rfl
  · simp [Outlet.path?]

@[simp] theorem level_withConsole (logging : Logging) (colored : Bool) :
    (logging.withConsole colored).level = logging.level := by
  unfold withConsole
  split
  · rfl
  · rfl

theorem extends_of_setUp (ran : (setUp verbose colored logFile).runFrom logging = (.ok ⟨⟩, after)) :
    logging.Extends after := by
  obtain ⟨opening, opens, run⟩ := runFrom_setUp verbose colored logFile logging
  rw [run] at ran
  have console : logging.Extends (logging.withConsole colored) := by
    refine ⟨by simp, by simp, ?_⟩
    unfold withConsole
    split
    · exact List.Subset.refl _
    · exact List.subset_append_left _ _
  refine console.trans ?_
  cases opens with
  | unasked =>
    obtain rfl := congrArg Prod.snd ran
    exact ⟨rfl, rfl, List.Subset.refl _⟩
  | known =>
    obtain rfl := congrArg Prod.snd ran
    exact ⟨rfl, rfl, List.Subset.refl _⟩
  | added =>
    obtain rfl := congrArg Prod.snd ran
    exact ⟨rfl, rfl, List.subset_append_left _ _⟩
  | unfit => cases ran
  | refused => cases ran

/-- A log that sends its records to a file, if one is given. -/
def SendsTo (logging : Logging) (logFile : Value) : Prop :=
  logFile.isTruthy = true →
    ∃ path, logFile = .text path ∧ Path.absolute logging.fileSystem.directory path ∈ logging.files

theorem SendsTo.mono (sends : logging.SendsTo logFile) (later : logging.Extends after) :
    after.SendsTo logFile := by
  intro given
  obtain ⟨path, same, there⟩ := sends given
  refine ⟨path, same, ?_⟩
  rw [later.directory]
  exact List.filterMap_subset _ later.outlets there

theorem sendsTo_of_setUp (ran : (setUp verbose colored logFile).runFrom logging = (.ok ⟨⟩, after)) :
    after.SendsTo logFile := by
  obtain ⟨opening, opens, run⟩ := runFrom_setUp verbose colored logFile logging
  rw [run] at ran
  cases opens with
  | unasked absent =>
    intro given
    cases absent.symm.trans given
  | known given old =>
    obtain rfl := congrArg Prod.snd ran
    exact fun _ => ⟨_, rfl, old⟩
  | added given new opened =>
    obtain rfl := congrArg Prod.snd ran
    refine fun _ => ⟨_, rfl, ?_⟩
    exact List.mem_filterMap.mpr ⟨_, List.mem_append_right _ List.mem_cons_self, rfl⟩
  | unfit => cases ran
  | refused => cases ran

/-- A log that sends its records to a file can be set up for that once more. -/
theorem exists_setUp (sends : logging.SendsTo logFile) (verbose colored : Bool) :
    ∃ after, (setUp verbose colored logFile).runFrom logging = (.ok ⟨⟩, after) := by
  have sends : (logging.withConsole colored).SendsTo logFile := by
    simpa [SendsTo] using sends
  obtain ⟨opening, opens, run⟩ := runFrom_setUp verbose colored logFile logging
  rw [run]
  generalize logging.withConsole colored = opened at sends opens
  cases opens with
  | unasked => exact ⟨_, rfl⟩
  | known => exact ⟨_, rfl⟩
  | added => exact ⟨_, rfl⟩
  | unfit given other =>
    obtain ⟨path, same, -⟩ := sends given
    exact absurd same (other path)
  | refused given new =>
    obtain ⟨other, same, there⟩ := sends (by simpa [Value.isTruthy, Scalar.isTruthy] using given)
    obtain rfl := Scalar.text.inj (Value.scalar.inj same)
    exact absurd there new

end UnitLift.Logging
