import UnitLift.Proofs.Compile.Calls
import UnitLift.Proofs.Preprocess.Run

/-! What preprocessing writes: the file that the path next to the source leads to, if that is asked for
and only once the source has been preprocessed. A run that stops leaves all files as they were. -/

namespace UnitLift

/-- The files of a world, and what was written to them. -/
def World.disk (world : World) : Table String FileContent × List (String × String) :=
  (world.files, world.written)

/-- What is found under a path. -/
def World.content? (world : World) (path : String) : Option FileContent :=
  (world.target? path).bind world.files.get?

namespace Preprocessed

open Work

variable {session : Session} {path : String} {view : ConfigView}

/-- A run in either mode before anything is written. -/
def produce (path : String) (view : ConfigView) : Work Session Preprocessed :=
  if view.fastPreprocessing then runFast path view else runFull path view

private theorem keeps_produce (path : String) (view : ConfigView) :
    Keeps Session.unlaunched (produce path view) :=
  .ite (keeps_runFast path view) (keeps_runFull path view)

/-- What a run for the file at an absolute path makes of the disk, by how it ends. -/
inductive Writes (path : String) (view : ConfigView) (before : Session) :
    Except Stop Preprocessed → World → Prop
  /-- Preprocessing stops. -/
  | unprocessed {stop : Stop} {after : World}
      (stopped : ((produce path view).runFrom before).1 = .error stop)
      (kept : after.disk = before.world.disk) : Writes path view before (.error stop) after
  /-- Nothing is to be written. -/
  | unasked {result : Preprocessed} {after : World} (asked : view.writePreprocessed = false)
      (produced : ((produce path view).runFrom before).1 = .ok result)
      (kept : after.disk = before.world.disk) : Writes path view before (.ok result) after
  /-- The side file cannot be opened. -/
  | unopened {result : Preprocessed} {reason : String} {after : World}
      (asked : view.writePreprocessed = true)
      (produced : ((produce path view).runFrom before).1 = .ok result)
      (barred : before.world.isWritable (sidePath path) = false)
      (kept : after.disk = before.world.disk) :
      Writes path view before (.error (.failure (.sourceFile (.unwritable (sidePath path) reason))))
        after
  | written {result : Preprocessed} {target : String} {after : World}
      (asked : view.writePreprocessed = true)
      (produced : ((produce path view).runFrom before).1 = .ok result)
      (writable : before.world.isWritable (sidePath path) = true)
      (leads : before.world.target? (sidePath path) = some target)
      (changed : after.disk = (before.world.files.insert target (.ofText result.source),
        before.world.written ++ [(sidePath path, result.source)])) :
      Writes path view before (.ok result) after

private theorem writes_finish {result : Preprocessed} {left : Session}
    (produced : (produce path view).runFrom session = (.ok result, left)) :
    Writes path view session ((finish path view result).runFrom left).1
      ((finish path view result).runFrom left).2.world := by
  have kept := (keeps_produce path view).of_runFrom produced
  have disk : left.world.disk = session.world.disk := congrArg (·.world.disk) kept
  have ended := congrArg (·.1) produced
  rw [finish]
  cases asked : view.writePreprocessed with
  | false => exact .unasked asked ended disk
  | true =>
    have openable : left.world.isWritable (sidePath path) =
        session.world.isWritable (sidePath path) :=
      congrArg (·.world.isWritable (sidePath path)) kept
    have leading : left.world.target? (sidePath path) = session.world.target? (sidePath path) :=
      congrArg (·.world.target? (sidePath path)) kept
    simp only [↓reduceIte]
    obtain ⟨barred, reason, ran⟩ | ⟨target, writable, leads, ran⟩ :=
      runFrom_write_cases path result left
    · rw [runFrom_bind_of_error ran]
      exact .unopened asked ended (openable.symm.trans barred) disk
    · have files : left.world.files = session.world.files := congrArg (·.1) disk
      have earlier : left.world.written = session.world.written := congrArg (·.2) disk
      rw [runFrom_bind_of_ok ran]
      refine .written asked ended (openable.symm.trans writable) (leading.symm.trans leads) ?_
      rw [← files, ← earlier]
      rfl

theorem writes_run (session : Session) (path : String) (view : ConfigView) :
    Writes (Path.absolute session.world.currentDirectory path) view session
      ((run path view).runFrom session).1 ((run path view).runFrom session).2.world := by
  rw [run_eq, runFrom_bind_of_ok (Session.runFrom_absolutePath path session)]
  generalize Path.absolute session.world.currentDirectory path = path
  change Writes path view session
    ((produce path view >>= finish path view).runFrom session).1
    ((produce path view >>= finish path view).runFrom session).2.world
  rcases produced : (produce path view).runFrom session with ⟨stop | result, left⟩
  · have kept := (keeps_produce path view).of_runFrom produced
    rw [runFrom_bind_of_error produced]
    exact .unprocessed (congrArg (·.1) produced) (congrArg (·.world.disk) kept)
  · rw [runFrom_bind_of_ok produced]
    exact writes_finish produced

/-- Only one file has other contents: it is the one at `path`, or nothing is new about it. -/
private theorem unchanged_but_iff {files : Table String FileContent} {target path : String}
    {content : FileContent} :
    (∀ other, other ≠ path → (files.insert target content).get? other = files.get? other) ↔
      target = path ∨ files.get? target = some content := by
  constructor
  · intro kept
    rw [or_iff_not_imp_left]
    intro apart
    rw [← kept target apart, Table.get?_insert, if_pos (beq_self_eq_true target)]
  · intro harmless other apart
    rw [Table.get?_insert]
    split_ifs with same
    · obtain rfl | old := harmless
      · exact absurd (beq_iff_eq.mp same).symm apart
      · rw [← beq_iff_eq.mp same, old]
    · rfl

namespace Writes

variable {before : Session} {ended : Except Stop Preprocessed} {after : World} {result : Preprocessed}

private theorem disk_of_error {stop : Stop} (writes : Writes path view before (.error stop) after) :
    after.disk = before.world.disk := by
  cases writes with
  | unprocessed _ kept | unopened _ _ _ kept => exact kept

private theorem disk_of_unasked (writes : Writes path view before ended after)
    (unasked : view.writePreprocessed = false) : after.disk = before.world.disk := by
  cases writes with
  | unprocessed _ kept | unasked _ _ kept | unopened _ _ _ kept => exact kept
  | written asked => exact absurd (asked.symm.trans unasked) nofun

/-- A result that is to be written is written to the file that the side path leads to. -/
private theorem exists_changed (writes : Writes path view before (.ok result) after)
    (asked : view.writePreprocessed = true) :
    ∃ target, before.world.target? (sidePath path) = some target ∧
      after.files = before.world.files.insert target (.ofText result.source) ∧
      after.written = before.world.written ++ [(sidePath path, result.source)] := by
  cases writes with
  | unasked unasked => exact absurd (unasked.symm.trans asked) nofun
  | written _ _ _ leads changed => exact ⟨_, leads, congrArg (·.1) changed, congrArg (·.2) changed⟩

private theorem asked_of_changed (writes : Writes path view before ended after)
    (changed : after.disk ≠ before.world.disk) : view.writePreprocessed = true ∧
      ∃ result, ((produce path view).runFrom before).1 = .ok result ∧ ended = .ok result := by
  cases writes with
  | unprocessed _ kept | unasked _ _ kept | unopened _ _ _ kept => exact absurd kept changed
  | written asked produced => exact ⟨asked, _, produced, rfl⟩

private theorem eq_ok_iff (writes : Writes path view before ended after) :
    ended = .ok result ↔ ((produce path view).runFrom before).1 = .ok result ∧
      (view.writePreprocessed = true → before.world.isWritable (sidePath path) = true) := by
  cases writes with
  | unprocessed stopped => simp [stopped]
  | unasked asked produced => simp [produced, asked]
  | unopened asked _ barred => simp [asked, barred]
  | written _ produced writable => simp [produced, writable]

/-- Only the file that the side path leads to may have other contents. -/
private theorem files_of_apart (writes : Writes path view before ended after) {other : String}
    (apart : before.world.target? (sidePath path) ≠ some other) :
    after.files.get? other = before.world.files.get? other := by
  cases writes with
  | unprocessed _ kept | unasked _ _ kept | unopened _ _ _ kept =>
    have files : after.files = before.world.files := congrArg (·.1) kept
    rw [files]
  | @written result target _ asked _ _ leads changed =>
    have files : after.files = before.world.files.insert target (.ofText result.source) :=
      congrArg (·.1) changed
    have different : (target == other) = false := by
      rw [beq_eq_false_iff_ne]
      rintro rfl
      exact apart leads
    rw [files, Table.get?_insert, different]
    rfl

/-- No file but the one at the side path has other contents just if that path leads to itself, or there
is nothing new about the file that it leads to. -/
private theorem frame_iff (writes : Writes path view before ended after) :
    (∀ other, other ≠ sidePath path → after.files.get? other = before.world.files.get? other) ↔
      ∀ result target, ended = .ok result → view.writePreprocessed = true →
        before.world.target? (sidePath path) = some target →
          target = sidePath path ∨ before.world.files.get? target = some (.ofText result.source) := by
  cases writes with
  | unprocessed _ kept | unopened _ _ _ kept =>
    have files : after.files = before.world.files := congrArg (·.1) kept
    simp [files]
  | unasked asked _ kept =>
    have files : after.files = before.world.files := congrArg (·.1) kept
    simp [files, asked]
  | @written result target _ asked _ _ leads changed =>
    have files : after.files = before.world.files.insert target (.ofText result.source) :=
      congrArg (·.1) changed
    rw [files, unchanged_but_iff]
    constructor
    · intro harmless other found same _ leads'
      cases same
      obtain rfl := Option.some.inj (leads.symm.trans leads')
      exact harmless
    · exact fun harmless => harmless result target rfl asked leads

end Writes

/-- However a run ends, it changes nothing on the disk but the file that the side path leads to, and that
one only if it is to be written and preprocessing has a result. A run that has a result has written
it if it was to; one that stops has changed nothing. So nothing but the side file itself changes just
if the side path is no link to a file with other contents; there is none without links. -/
theorem only_side_file_changes (session : Session) (path : String) (view : ConfigView) :
    let absolute := Path.absolute session.world.currentDirectory path
    let side := sidePath absolute
    let produced := ((produce absolute view).runFrom session).1
    let ended := (run path view).runFrom session
    let before := session.world
    let after := ended.2.world
    ended.2.unwritten = session.unwritten ∧
      (∀ other, before.target? side ≠ some other →
        after.files.get? other = before.files.get? other) ∧
      (after.disk ≠ before.disk → view.writePreprocessed = true ∧
        ∃ result, produced = .ok result ∧ ended.1 = .ok result) ∧
      (∀ result, ended.1 = .ok result ↔ produced = .ok result ∧
        (view.writePreprocessed = true → before.isWritable side = true)) ∧
      (∀ result, ended.1 = .ok result → view.writePreprocessed = true →
        after.content? side = some (.ofText result.source) ∧
          after.written = before.written ++ [(side, result.source)]) ∧
      (∀ stop, ended.1 = .error stop → after.disk = before.disk) ∧
      ((∀ other, other ≠ side → after.files.get? other = before.files.get? other) ↔
        ∀ result target, ended.1 = .ok result → view.writePreprocessed = true →
          before.target? side = some target →
            target = side ∨ before.files.get? target = some (.ofText result.source)) ∧
      (before.links = [] → before.target? side = some side) := by
  intro absolute side produced ended before after
  have unwritten : ended.2.unwritten = session.unwritten := keeps_run path view session
  have led : after.target? side = before.target? side := congrArg (·.world.target? side) unwritten
  have writes : Writes absolute view session ended.1 after := writes_run session path view
  refine ⟨unwritten, fun _ apart => writes.files_of_apart apart, writes.asked_of_changed,
    fun _ => writes.eq_ok_iff, fun result same asked => ?_, fun stop same => ?_, writes.frame_iff, ?_⟩
  · obtain ⟨target, leads, files, written⟩ := (same ▸ writes).exists_changed asked
    have leads : before.target? side = some target := leads
    refine ⟨?_, written⟩
    rw [World.content?, led, leads, files]
    exact (Table.get?_insert ..).trans (if_pos (beq_self_eq_true target))
  · exact (same ▸ writes).disk_of_error
  · intro none
    rw [World.target?, none, Path.follow?_nil]

/-- A session with a source and another file. The source is to be preprocessed in full mode. -/
def sideSample (links : Path.Links) : Session :=
  { defaults := .sample
    world :=
      { links
        files := ⟨[("/work/a.cpp", .ofText "int a;\n"), ("/work/notes.txt", .ofText "notes\n")]⟩
        children := [.runs { stdout := "# 1 \"/work/a.cpp\"\nint a;\n" }] } }

def writingView : ConfigView :=
  { (CompileConfig.blank BuildDefaults.sample.toolchain).view with writePreprocessed := true }

theorem only_side_file_changes_sample :
    ∃ result left, (run "a.cpp" writingView).runFrom (sideSample []) = (.ok result, left) ∧
      left.world.content? "/work/a.cpp.pp" = some (.ofText "int a;\n") ∧
      ∀ other, other ≠ "/work/a.cpp.pp" →
        left.world.files.get? other = (sideSample []).world.files.get? other := by
  have ends : ((run "a.cpp" writingView).runFrom (sideSample [])).1 =
      .ok { source := "int a;\n", includes := [], fullIncludePaths := true } := by
    decide +kernel
  have side : sidePath (Path.absolute (sideSample []).world.currentDirectory "a.cpp") =
      "/work/a.cpp.pp" := by
    decide +kernel
  obtain ⟨-, -, -, -, wrote, -, alone, linkless⟩ :=
    only_side_file_changes (sideSample []) "a.cpp" writingView
  obtain ⟨left, ran⟩ := exists_runFrom ends
  refine ⟨_, left, ran, ?_, ?_⟩
  · have there := (wrote _ ends rfl).1
    rwa [side, ran] at there
  · have kept := alone.mpr fun _ target _ _ found =>
      .inl (Option.some.inj (found.symm.trans (linkless rfl)))
    rwa [side, ran] at kept

/-- The side path is a link, and the file that it leads to is overwritten. -/
theorem linked_file_overwritten_sample :
    ∃ result left, (run "a.cpp" writingView).runFrom
        (sideSample [("/work/a.cpp.pp", "notes.txt")]) = (.ok result, left) ∧
      (sideSample [("/work/a.cpp.pp", "notes.txt")]).world.files.get? "/work/notes.txt" =
        some (.ofText "notes\n") ∧
      left.world.files.get? "/work/notes.txt" = some (.ofText "int a;\n") := by
  have ends : ((run "a.cpp" writingView).runFrom
      (sideSample [("/work/a.cpp.pp", "notes.txt")])).1 =
      .ok { source := "int a;\n", includes := [], fullIncludePaths := true } := by
    decide +kernel
  obtain ⟨left, ran⟩ := exists_runFrom ends
  have changed : (((run "a.cpp" writingView).runFrom
      (sideSample [("/work/a.cpp.pp", "notes.txt")])).2.world.files.get? "/work/notes.txt") =
      some (.ofText "int a;\n") := by
    decide +kernel
  rw [ran] at changed
  exact ⟨_, left, ran, by decide, changed⟩

end Preprocessed

end UnitLift
