import UnitLift.WorkingDirectory

namespace UnitLift

/-- What can be relied on about paths. -/
structure Paths.IsRegular (paths : Paths) : Prop where
  /-- Nothing is at an empty path. -/
  named : ∀ known, paths.lead known "" = false
  /-- There is something where a file is read. -/
  present : ∀ known path file, paths.fileAt .read known path = .ok file → paths.lead known path = true
  /-- A file is read where it was written, as long as it is there, whatever other files come or go. -/
  kept : ∀ known later path file, paths.fileAt .write known path = .ok file → later file = true →
    paths.fileAt .read later path = .ok file

namespace FileSystem

variable {system other : FileSystem} {path text file : String} {purpose : Purpose}

theorem fileAt_eq_ok_iff : system.fileAt purpose path = .ok file ↔
    isPath path = true ∧ system.paths.fileAt purpose system.files.contains path = .ok file := by
  unfold fileAt
  cases isPath path with
  | false => simp
  | true =>
    cases system.paths.fileAt purpose system.files.contains path with
    | error =>
      constructor
      · intro opened
        cases opened
      · intro opened
        cases opened.2
    | ok =>
      constructor
      · intro opened
        cases opened
        exact ⟨rfl, rfl⟩
      · intro opened
        cases opened.2
        rfl

theorem exists_of_read (regular : system.paths.IsRegular) (there : system.read path = .ok text) :
    system.exists? path = true ∧ path.isEmpty = false := by
  have found : ∃ file, system.fileAt .read path = .ok file := by
    unfold read at there
    cases opened : system.fileAt .read path with
    | error fault =>
      rw [opened] at there
      cases there
    | ok file => exact ⟨file, rfl⟩
  obtain ⟨file, opened⟩ := found
  obtain ⟨valid, opened⟩ := fileAt_eq_ok_iff.mp opened
  have leads := regular.present _ _ _ opened
  refine ⟨by rw [exists?, valid, leads]; rfl, ?_⟩
  cases empty : path.isEmpty with
  | false => rfl
  | true =>
    obtain rfl := String.isEmpty_iff.mp empty
    exact (Bool.false_ne_true ((regular.named _).symm.trans leads)).elim

/-- A file that was written under a path has a text. -/
structure Holds (system : FileSystem) (path file text : String) : Prop where
  valid : isPath path = true
  written : ∃ known, system.paths.fileAt .write known path = .ok file
  there : system.files.get? file = some text

theorem Holds.read (holds : system.Holds path file text) (regular : system.paths.IsRegular) :
    system.read path = .ok text := by
  obtain ⟨known, written⟩ := holds.written
  have named : system.files.contains file = true := by simp [Table.contains, holds.there]
  have opened : system.fileAt .read path = .ok file :=
    fileAt_eq_ok_iff.mpr ⟨holds.valid, regular.kept _ _ _ _ written named⟩
  rw [FileSystem.read, opened]
  simp [bind, Except.bind, holds.there, pure, Except.pure]

theorem holds_of_write (ran : system.write path text = .ok other) :
    other.directory = system.directory ∧ other.paths = system.paths ∧
      ∃ file, system.fileAt .write path = .ok file ∧ other.Holds path file text := by
  unfold write at ran
  cases opened : system.fileAt .write path with
  | error fault =>
    rw [opened] at ran
    cases ran
  | ok file =>
    rw [opened] at ran
    obtain rfl := Except.ok.inj ran
    obtain ⟨valid, written⟩ := fileAt_eq_ok_iff.mp opened
    exact ⟨rfl, rfl, file, rfl, valid, ⟨_, written⟩, by simp [Table.get?_insert]⟩

theorem Holds.append (holds : system.Holds path file text) {changed : String} (apart : changed ≠ file)
    (more : String) : (system.append changed more).Holds path file text where
  valid := holds.valid
  written := holds.written
  there := by simp [FileSystem.append, Table.get?_insert, apart, holds.there]

end FileSystem

namespace WorkingDirectory

variable {directory name : String} {known later : String → Bool} {slashed : Bool}

/-- A way to a file is the same whatever files there are. -/
private theorem walk_eq_file {here : Destination} {steps : List (List Char)}
    (led : walk directory known here steps = .file name slashed) :
    walk directory later here steps = .file name slashed := by
  induction steps generalizing here with
  | nil =>
    rw [walk] at led ⊢
    exact led
  | cons step rest ih =>
    cases here with
    | nowhere => simp [walk] at led
    | file =>
      -- Which files there are decides only how a way ends that leads to none.
      simp only [walk] at led ⊢
      grind
    | directory isWorking =>
      simp only [walk] at led ⊢
      grind

private theorem find_eq_file {path : String} (led : find directory known path = .file name slashed) :
    find directory later path = .file name slashed := by
  unfold find at led ⊢
  grind [walk_eq_file]

private theorem destination_of_fileAt {purpose : Purpose} {destination : Destination}
    (opened : fileAt known purpose destination = .ok name) :
    destination = .file name false ∧ (purpose = .read → known name = true) := by
  cases destination with
  | directory => cases opened
  | nowhere => cases opened
  | file found slashed =>
    cases purpose <;> cases slashed <;> cases there : known found <;>
      simp [fileAt, there] at opened <;> simp_all

theorem isRegular_paths (directory : String) : (paths directory).IsRegular where
  named known := rfl
  present known path file opened := by
    obtain ⟨led, there⟩ := destination_of_fileAt opened
    simp [paths, led, there rfl]
  kept known later path file opened there := by
    obtain ⟨led, -⟩ := destination_of_fileAt opened
    simp [paths, find_eq_file led, fileAt, there]

end WorkingDirectory

end UnitLift
