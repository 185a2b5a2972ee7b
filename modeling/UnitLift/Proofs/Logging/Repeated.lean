import UnitLift.Proofs.Logging

/-! A log that is set up again and again, whether or not each attempt can be completed, in a file system
that may change between them: which outlets it has then, and from which level on records pass. -/

namespace UnitLift.Logging

open Settings (LoggingSection)

/-- A call that sets up a log, with the files and paths that there are then. -/
structure Call where
  paths : Paths
  files : Table String String := .empty
  wanted : LoggingSection

namespace Call

def system (directory : String) (call : Call) : FileSystem := ⟨directory, call.paths, call.files⟩

end Call

/-- A log in the file system that there is at a call. -/
def during (logging : Logging) (call : Call) : Logging :=
  { logging with fileSystem := call.system logging.fileSystem.directory }

def Call.perform (call : Call) : Work Logging Unit := do
  modify (·.during call)
  setUpFor call.wanted

/-- A call, and how it ended. -/
structure Attempt where
  call : Call
  outcome : Except Stop Unit

namespace Attempt

def completed (attempt : Attempt) : Bool := attempt.outcome.isOk

/-- The absolute path of the file that was opened, or was open already. -/
def opened? (directory : String) (attempt : Attempt) : Option String :=
  match attempt.outcome, attempt.call.wanted.file with
  | .ok _, .scalar (.text path) => if path = "" then none else some (Path.absolute directory path)
  | _, _ => none

theorem opened?_of_absent {call : Call} (absent : call.wanted.file.isTruthy = false) (directory : String)
    (outcome : Except Stop Unit) : opened? directory ⟨call, outcome⟩ = none := by
  unfold opened?
  split
  · rename_i path given
    rw [given] at absent
    rw [if_pos (by simpa [Value.isTruthy, Scalar.isTruthy] using absent)]
  · rfl

theorem opened?_of_text {call : Call} {path : String} (given : call.wanted.file = .text path)
    (filled : path ≠ "") (directory : String) :
    opened? directory ⟨call, .ok ⟨⟩⟩ = some (Path.absolute directory path) := by
  simp only [opened?, given]
  exact if_neg filled

end Attempt

/-- Sets up a log by one call after another; each is made whether or not those before it could be
completed. -/
def setUpEach : Logging → List Call → List Attempt × Logging
  | logging, [] => ([], logging)
  | logging, call :: rest =>
    let (outcome, after) := call.perform.runFrom logging
    let (later, last) := after.setUpEach rest
    (⟨call, outcome⟩ :: later, last)

/-- The paths of all files that were opened, each at its first attempt that was completed. -/
def openedBy (directory : String) (attempts : List Attempt) : List String :=
  (attempts.filterMap (Attempt.opened? directory)).eraseDups

/-- The level after attempts: a verbose one that was completed asks for all records. -/
def levelAfter (attempts : List Attempt) : Option Level :=
  if attempts.any fun attempt => attempt.completed && attempt.call.wanted.verbose then some .debug
  else if attempts.any Attempt.completed then some .info
  else none

/-- What attempts have made of a log that was not set up before. -/
structure Bears (directory : String) (attempts : List Attempt) (logging : Logging) : Prop where
  place : logging.fileSystem.directory = directory
  consoles : logging.outlets.countP Outlet.isConsole = if attempts.isEmpty then 0 else 1
  files : logging.files = openedBy directory attempts
  level : logging.level = levelAfter attempts

variable {directory : String} {attempts : List Attempt} {logging : Logging}

private theorem openedBy_concat (directory : String) (attempts : List Attempt) (attempt : Attempt) :
    openedBy directory (attempts ++ [attempt]) = match attempt.opened? directory with
      | none => openedBy directory attempts
      | some path => openedBy directory attempts ++
          if path ∈ openedBy directory attempts then [] else [path] := by
  rw [openedBy, List.filterMap_append]
  cases opened : attempt.opened? directory with
  | none => simp [opened, openedBy]
  | some path =>
    have alone : [attempt].filterMap (Attempt.opened? directory) = [path] := by simp [opened]
    rw [alone, Table.eraseDups_concat]
    simp [openedBy]

private theorem levelAfter_concat (attempts : List Attempt) (attempt : Attempt) :
    levelAfter (attempts ++ [attempt]) =
      if attempt.completed then
        if attempt.call.wanted.verbose then some .debug
        else some ((levelAfter attempts).getD .info)
      else levelAfter attempts := by
  simp only [levelAfter, List.any_append, List.any_cons, List.any_nil, Bool.or_false]
  cases attempt.completed with
  | false => simp
  | true =>
    cases attempt.call.wanted.verbose with
    | true => simp
    | false => grind

private theorem countP_withConsole (bears : logging.Bears directory attempts) (colored : Bool) :
    (logging.withConsole colored).outlets.countP Outlet.isConsole = 1 := by
  have consoles := bears.consoles
  unfold withConsole
  split
  · rename_i some
    have positive := List.countP_pos_iff.mpr (List.any_eq_true.mp some)
    split at consoles
    · omega
    · exact consoles
  · rename_i none
    have absent : logging.outlets.countP Outlet.isConsole = 0 :=
      List.countP_eq_zero.mpr fun outlet member passes =>
        none (List.any_eq_true.mpr ⟨outlet, member, passes⟩)
    simp [List.countP_append, absent, Outlet.isConsole]

private theorem Bears.during (bears : logging.Bears directory attempts) (call : Call) :
    (logging.during call).Bears directory attempts :=
  ⟨bears.place, bears.consoles, bears.files, bears.level⟩

private theorem Bears.of_failed (bears : logging.Bears directory attempts) (call : Call) (stop : Stop) :
    (logging.withConsole call.wanted.colored).Bears directory (attempts ++ [⟨call, .error stop⟩]) where
  place := by rw [fileSystem_withConsole, bears.place]
  consoles := by simp [countP_withConsole bears]
  files := by rw [files_withConsole, bears.files, openedBy_concat]; rfl
  level := by rw [level_withConsole, bears.level, levelAfter_concat]; rfl

/-- A call that is completed adds a console, the file that is given unless it is open, and its level. -/
private theorem Bears.of_completed (bears : logging.Bears directory attempts) (call : Call)
    {filed : Logging} (place : filed.fileSystem.directory = logging.fileSystem.directory)
    (level : filed.level = logging.level)
    (consoles : filed.outlets.countP Outlet.isConsole = 1)
    (files : filed.files = openedBy directory (attempts ++ [⟨call, .ok ⟨⟩⟩])) :
    (filed.withLevel call.wanted.verbose).Bears directory (attempts ++ [⟨call, .ok ⟨⟩⟩]) where
  place := place.trans bears.place
  consoles := by simpa [withLevel] using consoles
  files := files
  level := by
    have completed : Attempt.completed ⟨call, .ok ⟨⟩⟩ = true := rfl
    rw [levelAfter_concat, completed, if_pos rfl, ← bears.level, ← level]
    unfold withLevel
    cases call.wanted.verbose with
    | false => rfl
    | true => rfl

/-- One more call ends as the opening of its file does, and has its share in what the log is. -/
private theorem Bears.perform (bears : logging.Bears directory attempts) (call : Call) :
    ∃ (opening : Except Fault Logging) (outcome : Except Stop Unit) (after : Logging),
      ((logging.during call).withConsole call.wanted.colored).Opens call.wanted.file opening ∧
      call.perform.runFrom logging = (outcome, after) ∧
      after.files = (opening.toOption.getD logging).files ∧ outcome.isOk = opening.isOk ∧
      after.Bears directory (attempts ++ [⟨call, outcome⟩]) := by
  have begun := bears.during call
  obtain ⟨opening, opens, ran⟩ := runFrom_setUp call.wanted.verbose call.wanted.colored
    call.wanted.file (logging.during call)
  have performed : call.perform.runFrom logging =
      (setUp call.wanted.verbose call.wanted.colored call.wanted.file).runFrom (logging.during call) := rfl
  have consoles := countP_withConsole begun call.wanted.colored
  have failed (stop : Stop) := begun.of_failed call stop
  have level := level_withConsole (logging.during call) call.wanted.colored
  have files : ((logging.during call).withConsole call.wanted.colored).files = logging.files :=
    files_withConsole ..
  have place : ((logging.during call).withConsole call.wanted.colored).fileSystem.directory =
      (logging.during call).fileSystem.directory := by rw [fileSystem_withConsole]
  rw [performed, ran]
  refine ⟨opening, _, _, opens, rfl, ?_⟩
  generalize (logging.during call).withConsole call.wanted.colored = opened at *
  generalize file : call.wanted.file = logFile at opens
  have here : opened.fileSystem.directory = directory := place.trans begun.place
  have known : opened.files = openedBy directory attempts := files.trans bears.files
  have completed {filed : Logging} (same : filed.fileSystem.directory = opened.fileSystem.directory)
      (sameLevel : filed.level = opened.level) (sameConsoles : filed.outlets.countP Outlet.isConsole = 1)
      (all : filed.files = openedBy directory (attempts ++ [⟨call, .ok ⟨⟩⟩])) :=
    begun.of_completed call (same.trans place) (sameLevel.trans level) sameConsoles all
  cases opens with
  | unasked absent =>
    refine ⟨rfl, rfl, completed rfl rfl consoles ?_⟩
    rw [openedBy_concat, Attempt.opened?_of_absent (file ▸ absent), known]
  | unfit => exact ⟨files, rfl, failed _⟩
  | known given old =>
    rw [here, known] at old
    refine ⟨rfl, rfl, completed rfl rfl consoles ?_⟩
    rw [openedBy_concat, Attempt.opened?_of_text file given, known]
    simp [old]
  | @added path name given new there =>
    have more :
        (opened.outlets ++ [Outlet.file (Path.absolute opened.fileSystem.directory path) name]).filterMap
          Outlet.path? = opened.files ++ [Path.absolute opened.fileSystem.directory path] := by
      simp [Logging.files, List.filterMap_append, Outlet.path?]
    refine ⟨rfl, rfl, completed rfl rfl ?_ (more.trans ?_)⟩
    · simpa [List.countP_append, Outlet.isConsole] using consoles
    · rw [here, known] at new ⊢
      rw [openedBy_concat, Attempt.opened?_of_text file given]
      simp [new]
  | refused => exact ⟨files, rfl, failed _⟩

/-- A call that is not completed adds no file, and leaves the level as it was. -/
private theorem Bears.of_perform_failed (bears : logging.Bears directory attempts) {call : Call}
    (failed : (call.perform.runFrom logging).1.isOk = false) :
    (call.perform.runFrom logging).2.files = logging.files ∧
      (call.perform.runFrom logging).2.level = logging.level := by
  obtain ⟨-, outcome, after, -, ran, -, -, later⟩ := bears.perform call
  rw [ran] at failed ⊢
  cases outcome with
  | ok => cases failed
  | error stop =>
    refine ⟨?_, ?_⟩
    · rw [later.files, bears.files, openedBy_concat]
      rfl
    · rw [later.level, bears.level, levelAfter_concat]
      rfl

/-- A call without a file is completed, and adds none. -/
private theorem Bears.perform_unasked (bears : logging.Bears directory attempts) {call : Call}
    (absent : call.wanted.file.isTruthy = false) :
    (call.perform.runFrom logging).1.isOk = true ∧
      (call.perform.runFrom logging).2.files = logging.files := by
  obtain ⟨opening, outcome, after, opens, ran, files, ends, -⟩ := bears.perform call
  rw [ran]
  obtain rfl := opens.of_absent absent
  exact ⟨ends, files.trans (files_withConsole ..)⟩

/-- A call with a file is completed just if that is open or can be opened, and adds it unless it is open. -/
private theorem Bears.perform_text (bears : logging.Bears directory attempts) {call : Call} {path : String}
    (given : path ≠ "") (same : call.wanted.file = .text path) :
    let absolute := Path.absolute directory path
    ((call.perform.runFrom logging).1.isOk = true ↔
      absolute ∈ logging.files ∨ ((call.system directory).fileAt .append absolute).isOk = true) ∧
    ((call.perform.runFrom logging).1.isOk = true → (call.perform.runFrom logging).2.files =
      if absolute ∈ logging.files then logging.files else logging.files ++ [absolute]) := by
  obtain ⟨opening, outcome, after, opens, ran, files, ends, -⟩ := bears.perform call
  rw [ran]
  have system : ((logging.during call).withConsole call.wanted.colored).fileSystem =
      call.system directory := by
    rw [fileSystem_withConsole, ← bears.place]
    rfl
  have known : ((logging.during call).withConsole call.wanted.colored).files = logging.files :=
    files_withConsole ..
  generalize (logging.during call).withConsole call.wanted.colored = opened at opens system known
  rw [same] at opens
  obtain ⟨opened_iff, all⟩ := opens.of_text given
  have here : opened.fileSystem.directory = directory := by
    rw [system]
    rfl
  rw [here, known, system] at opened_iff
  refine ⟨by rw [ends]; exact opened_iff, fun completed => ?_⟩
  cases opening with
  | error => cases ends.symm.trans completed
  | ok filed =>
    have more := all filed rfl
    rw [here, known] at more
    exact files.trans more

private theorem Bears.setUpEach (bears : logging.Bears directory attempts) (calls : List Call) :
    (logging.setUpEach calls).1.map Attempt.call = calls ∧
      (logging.setUpEach calls).2.Bears directory (attempts ++ (logging.setUpEach calls).1) := by
  induction calls generalizing logging attempts with
  | nil => exact ⟨rfl, by simpa [Logging.setUpEach] using bears⟩
  | cons call rest ih =>
    obtain ⟨-, outcome, after, -, ran, -, -, bears⟩ := bears.perform call
    obtain ⟨each, last⟩ := ih bears
    rw [Logging.setUpEach, ran]
    exact ⟨by simp [each], by simpa using last⟩

/-- Setting up a log may be repeated. After any number of calls of which some may have failed it has one
console, and sends records to the files that could be opened, each by its absolute path and once, in the
order in which they came first. All records pass if a completed call was verbose. A call that comes next
opens no file if none is given. If one is given, it is completed just if that is open already or can be
opened then; one that is not completed adds no file, and leaves the level as it was. -/
theorem outlets_after_setUps (directory : String) (terminal : Bool) (calls : List Call) :
    let start : Logging := { fileSystem := .working directory .empty, terminal }
    let attempts := (start.setUpEach calls).1
    let last := (start.setUpEach calls).2
    attempts.map Attempt.call = calls ∧
      last.outlets.countP Outlet.isConsole = (if calls.isEmpty then 0 else 1) ∧
      last.files.Nodup ∧
      last.files = (attempts.filterMap (Attempt.opened? directory)).eraseDups ∧
      last.level =
        (if attempts.any fun attempt => attempt.completed && attempt.call.wanted.verbose
          then some .debug
          else if attempts.any Attempt.completed then some .info
          else none) ∧
      ∀ call : Call,
        let outcome := (call.perform.runFrom last).1
        let after := (call.perform.runFrom last).2
        (outcome.isOk = false → after.files = last.files ∧ after.level = last.level) ∧
        (call.wanted.file = .null ∨ call.wanted.file = .text "" →
          outcome.isOk = true ∧ after.files = last.files) ∧
        ∀ path, path ≠ "" → call.wanted.file = .text path →
          let absolute := Path.absolute directory path
          (outcome.isOk = true ↔
            absolute ∈ last.files ∨ ((call.system directory).fileAt .append absolute).isOk = true) ∧
          (outcome.isOk = true → after.files =
            if absolute ∈ last.files then last.files else last.files ++ [absolute]) := by
  intro start
  have begun : start.Bears directory [] := ⟨rfl, rfl, rfl, rfl⟩
  have ⟨each, bears⟩ := begun.setUpEach calls
  rw [List.nil_append] at bears
  generalize start.setUpEach calls = run at each bears
  obtain ⟨attempts, last⟩ := run
  dsimp only at each bears ⊢
  have empty : attempts.isEmpty = calls.isEmpty := by rw [← each, List.isEmpty_map]
  refine ⟨each, empty ▸ bears.consoles, ?_, bears.files, bears.level, fun call =>
    ⟨bears.of_perform_failed, fun absent => bears.perform_unasked ?_, fun _ => bears.perform_text⟩⟩
  · rw [bears.files]
    exact Table.nodup_eraseDups _
  · rcases absent with none | empty
    · rw [none]
      rfl
    · rw [empty]
      rfl

/-- Files may be opened in some directories only. -/
def reachable (directories : List String) : Paths where
  lead known path := known path
  fileAt _ _ path :=
    if directories.contains (String.ofList (Path.splitDirectory path.toList).1) then .ok path
    else .error .missing

/-- The directory of a log file is made after the first call. Others name the file in other ways, or when
its directory is gone again. -/
def callsSample : List Call :=
  let made := reachable ["/home/u/proj/logs/"]
  [{ paths := reachable [], wanted := ⟨true, true, .text "logs/a.log"⟩ },
    { paths := made, wanted := ⟨false, false, .text "./logs/a.log"⟩ },
    { paths := made, wanted := ⟨false, true, .null⟩ },
    { paths := made, wanted := ⟨false, true, .text "logs/b.log"⟩ },
    { paths := made, wanted := ⟨true, true, .text "../proj/logs//a.log"⟩ }]

theorem outlets_after_setUps_sample :
    let again : Call := { paths := reachable [], wanted := ⟨false, true, .text "logs/b.log"⟩ }
    let other : Call := { paths := reachable [], wanted := ⟨false, true, .text "logs/c.log"⟩ }
    ∃ attempts last,
      ({ fileSystem := .working "/home/u/proj" .empty } : Logging).setUpEach callsSample =
        (attempts, last) ∧
      attempts.map Attempt.completed = [false, true, true, true, true] ∧
      last.outlets.countP Outlet.isConsole = 1 ∧
      last.files = ["/home/u/proj/logs/a.log", "/home/u/proj/logs/b.log"] ∧
      last.level = some .debug ∧
      (again.perform.runFrom last).1.isOk = true ∧
      (other.perform.runFrom last).1.isOk = false := by
  intro again other
  have opened : openedBy "/home/u/proj"
      (({ fileSystem := .working "/home/u/proj" .empty } : Logging).setUpEach callsSample).1 =
        ["/home/u/proj/logs/a.log", "/home/u/proj/logs/b.log"] := by
    decide +kernel
  have completed :
      (({ fileSystem := .working "/home/u/proj" .empty } : Logging).setUpEach callsSample).1.map
        Attempt.completed = [false, true, true, true, true] := by
    decide +kernel
  have verbose : levelAfter
      (({ fileSystem := .working "/home/u/proj" .empty } : Logging).setUpEach callsSample).1 =
        some .debug := by
    decide +kernel
  have bears := outlets_after_setUps "/home/u/proj" false callsSample
  dsimp only at bears
  generalize ({ fileSystem := .working "/home/u/proj" .empty } : Logging).setUpEach callsSample = run
    at opened completed verbose bears ⊢
  obtain ⟨attempts, last⟩ := run
  obtain ⟨-, consoles, -, files, level, next⟩ := bears
  have all : last.files = ["/home/u/proj/logs/a.log", "/home/u/proj/logs/b.log"] := files.trans opened
  have ends (call : Call) (path : String) (given : path ≠ "") (same : call.wanted.file = .text path) :
      (call.perform.runFrom last).1.isOk = true ↔
        Path.absolute "/home/u/proj" path ∈ last.files ∨
          ((call.system "/home/u/proj").fileAt .append
            (Path.absolute "/home/u/proj" path)).isOk = true :=
    ((next call).2.2 path given same).1
  rw [all] at ends
  refine ⟨attempts, last, rfl, completed, consoles, all, level.trans verbose, ?_, ?_⟩
  · exact (ends again "logs/b.log" (by decide) rfl).mpr (.inl (by decide +kernel))
  · rw [← Bool.not_eq_true, ends other "logs/c.log" (by decide) rfl]
    decide +kernel

end UnitLift.Logging
