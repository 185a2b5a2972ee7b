import UnitLift.Proofs.Compile.Calls
import UnitLift.Proofs.Preprocess.Hiding
import UnitLift.Proofs.Preprocess.Rendering
import UnitLift.Proofs.Preprocess.Run

/-! Fast mode. The lines that the second child process leaves come back as they were, on the same
positions, and the include directives among them are the includes of the file. -/

namespace UnitLift

namespace Path

private theorem isAbsolute_append {directory : String} (rooted : isAbsolute directory = true)
    (rest : String) : isAbsolute (directory ++ rest) = true := by
  have start : directory.toList.head? = some '/' := by simpa [isAbsolute] using rooted
  simp [isAbsolute, String.toList_append, List.head?_append, start]

private theorem isAbsolute_normalize {path : String} (rooted : isAbsolute path = true) :
    isAbsolute (normalize path) = true := by
  have start : path.toList.head? = some '/' := by simpa [isAbsolute] using rooted
  obtain ⟨rest, chars⟩ : ∃ rest, path.toList = '/' :: rest := by
    cases shape : path.toList with
    | nil => simp [shape] at start
    | cons first rest =>
      have slash : first = '/' := by simpa [shape] using start
      exact ⟨rest, by rw [slash]⟩
  obtain ⟨more, root⟩ : ∃ more, rootSlashes ('/' :: rest) = '/' :: more := by
    unfold rootSlashes
    split
    · exact ⟨_, rfl⟩
    · split
      · exact ⟨_, rfl⟩
      · exact ⟨_, rfl⟩
    · exact ⟨_, rfl⟩
    · rename_i other
      exact absurd rfl (other rest)
  rw [normalize, chars, root]
  simp [isAbsolute]

theorem isAbsolute_absolute {directory : String} (rooted : isAbsolute directory = true)
    (path : String) : isAbsolute (absolute directory path) = true := by
  apply isAbsolute_normalize
  unfold join
  split
  · rename_i absolutePath
    exact absolutePath
  · split
    · exact isAbsolute_append rooted path
    · rw [String.append_assoc]
      exact isAbsolute_append rooted ("/" ++ path)

end Path

namespace Preprocessed

open HiddenDirective Work

/-- What a preprocessor makes of a text of which it blanks lines after the first. The others are
numbered from one on, and it leaves those that are `kept`. -/
def filtered (kept : Nat → Bool) (input : String) : String :=
  match Text.linesOf input with
  | [] => input
  | first :: rest => Text.joinLines (first :: masked kept 1 rest)

theorem hiddenInput_eq (path : String) {lines : List String}
    (each : ∀ line ∈ lines, Text.IsLine line) :
    hiddenInput path lines = Text.joinLines
      (LineMarker.render ⟨1, path, []⟩ :: Text.linesOf (Text.joinLines lines)) := by
  cases lines with
  | nil =>
    rw [Text.linesOf_joinLines_nil, Text.joinLines_cons_cons]
    rfl
  | cons line rest =>
    rw [Text.linesOf_joinLines (List.cons_ne_nil line rest) each, Text.joinLines_cons_cons,
      hiddenInput]

theorem filtered_hiddenInput (kept : Nat → Bool) {path : String} (whole : Text.IsLine path)
    {lines : List String} (each : ∀ line ∈ lines, Text.IsLine line) :
    filtered kept (hiddenInput path lines) = Text.joinLines
      (LineMarker.render ⟨1, path, []⟩ :: masked kept 1 (Text.linesOf (Text.joinLines lines))) := by
  have inside : ∀ line ∈ LineMarker.render ⟨1, path, []⟩ :: Text.linesOf (Text.joinLines lines),
      Text.IsLine line :=
    List.forall_mem_cons.mpr ⟨LineMarker.isLine_render whole (by simp),
      fun _ member => Text.isLine_of_mem_linesOf member⟩
  rw [filtered, hiddenInput_eq path each, Text.linesOf_joinLines (by simp) inside]

variable {session : Session} {path text : String} {first second : ChildRun}
  {rest : List ChildScript}

/-- The lines that a preprocessor finds in a text with its directives hidden. -/
def givenLines (text : String) : List String :=
  Text.linesOf (Text.joinLines (hide (Text.linesOf text)).1)

private theorem filtered_printed (kept : Nat → Bool) (whole : Text.IsLine path) (text : String) :
    MainFile.Printed path ((masked kept 1 (givenLines text)).map .content)
      (filtered kept (hiddenInput path (hide (Text.linesOf text)).1)) := by
  rw [filtered_hiddenInput kept whole
    (isLine_of_mem_hide fun _ member => Text.isLine_of_mem_linesOf member)]
  have printed := MainFile.Printed.lines (List.forall_mem_nil _) .none
    (MainFile.rendering_content path 1 (masked kept 1 (givenLines text)))
  exact printed.of_eq (by rw [List.nil_append, List.nil_append, givenLines])

/-- A file without lines is taken for one with an empty line. -/
private theorem givenLines_of_nil (none : Text.linesOf text = []) : givenLines text = [""] := by
  rw [givenLines, none]
  exact Text.linesOf_joinLines_nil

private theorem givenLines_of_ne_nil (present : Text.linesOf text ≠ []) :
    givenLines text = (hide (Text.linesOf text)).1 := by
  have hidden : (hide (Text.linesOf text)).1 ≠ [] := by
    rw [← List.length_pos_iff, hide, length_hideFrom]
    exact List.length_pos_iff.mpr present
  exact Text.linesOf_joinLines hidden
    (isLine_of_mem_hide fun _ member => Text.isLine_of_mem_linesOf member)

private theorem givenLines_ne_nil (text : String) : givenLines text ≠ [] := by
  by_cases present : Text.linesOf text = []
  · rw [givenLines_of_nil present]
    exact List.cons_ne_nil "" []
  · rw [givenLines_of_ne_nil present, ← List.length_pos_iff, hide, length_hideFrom]
    exact List.length_pos_iff.mpr present

private theorem length_givenLines (short : 1 + (Text.linesOf text).length < Text.unreadable) :
    1 + (givenLines text).length < Text.unreadable := by
  by_cases present : Text.linesOf text = []
  · rw [givenLines_of_nil present]
    exact Text.lt_unreadable (by decide)
  · rw [givenLines_of_ne_nil present, hide, length_hideFrom]
    exact short

private theorem scan?_of_mem_givenLines
    (plain : ∀ line ∈ Text.linesOf text, LineMarker.scan? line.toList = none) :
    ∀ line ∈ givenLines text, LineMarker.scan? line.toList = none := by
  by_cases present : Text.linesOf text = []
  · rw [givenLines_of_nil present]
    exact List.forall_mem_singleton.mpr rfl
  · rw [givenLines_of_ne_nil present]
    exact forall_mem_hideFrom scan?_placeholder plain 0 1

private theorem restore_givenLines (kept : Nat → Bool)
    (plain : ∀ line ∈ Text.linesOf text, placeholderNumeral? line.toList = none)
    (short : 1 + (Text.linesOf text).length < Text.unreadable) :
    ∃ lines, restore (hide (Text.linesOf text)).2 (masked kept 1 (givenLines text)) =
        .ok (lines, keptIncludes kept 1 (Text.linesOf text)) ∧
      Text.joinLines lines =
        Text.joinLines (masked kept 1 ((Text.linesOf text).map restoredLine)) := by
  by_cases present : Text.linesOf text = []
  · have blank : masked kept 1 [""] = [""] := by
      rw [masked_cons, ite_self]
      rfl
    rw [givenLines_of_nil present, present, blank]
    exact ⟨[""], rfl, rfl⟩
  · rw [givenLines_of_ne_nil present]
    exact ⟨_, restore_hideFrom kept plain [] 1 (by simpa using by omega), rfl⟩

/-- All directives that the preprocessor leaves are put back, and none else. -/
theorem restored_of_printed {currentDirectory output : String} (whole : Text.IsLine path)
    (real : path.toList.head? ≠ some '<')
    (plain : ∀ line ∈ Text.linesOf text, LineMarker.scan? line.toList = none ∧
      placeholderNumeral? line.toList = none)
    (short : 1 + (Text.linesOf text).length < Text.unreadable) (kept : Nat → Bool)
    (printed : MainFile.Printed path ((masked kept 1 (givenLines text)).map .content) output) :
    ∃ file lines, MainFile.ofOutput currentDirectory output path = .ok file ∧
      restore (hide (Text.linesOf text)).2 (Text.linesOf file.source) =
        .ok (lines, keptIncludes kept 1 (Text.linesOf text)) ∧
      Text.joinLines lines =
        Text.joinLines (masked kept 1 ((Text.linesOf text).map restoredLine)) := by
  have eachMasked : ∀ line ∈ masked kept 1 (givenLines text), Text.IsLine line :=
    forall_mem_masked (by decide) (fun _ member => Text.isLine_of_mem_linesOf member) 1
  have plainMasked : ∀ line ∈ masked kept 1 (givenLines text),
      LineMarker.scan? line.toList = none :=
    forall_mem_masked (by rfl) (scan?_of_mem_givenLines fun line member => (plain line member).1) 1
  have present : masked kept 1 (givenLines text) ≠ [] := by
    rw [← List.length_pos_iff, length_masked]
    exact List.length_pos_iff.mpr (givenLines_ne_nil text)
  obtain ⟨file, read, source⟩ := MainFile.ofOutput_of_lines whole real
    (fun line member => ⟨eachMasked line member, plainMasked line member⟩)
    (by rw [length_masked]; exact length_givenLines short) printed
  obtain ⟨lines, restored, same⟩ :=
    restore_givenLines kept (fun line member => (plain line member).2) short
  refine ⟨file, lines, read, ?_, same⟩
  rw [source, Text.linesOf_joinLines present eachMasked, restored]

theorem restored_of_linesOf {currentDirectory : String} (whole : Text.IsLine path)
    (real : path.toList.head? ≠ some '<')
    (plain : ∀ line ∈ Text.linesOf text, LineMarker.scan? line.toList = none ∧
      placeholderNumeral? line.toList = none)
    (short : 1 + (Text.linesOf text).length < Text.unreadable) (kept : Nat → Bool) :
    ∃ file lines,
      MainFile.ofOutput currentDirectory
        (filtered kept (hiddenInput path (hide (Text.linesOf text)).1)) path = .ok file ∧
      restore (hide (Text.linesOf text)).2 (Text.linesOf file.source) =
        .ok (lines, keptIncludes kept 1 (Text.linesOf text)) ∧
      Text.joinLines lines =
        Text.joinLines (masked kept 1 ((Text.linesOf text).map restoredLine)) :=
  restored_of_printed whole real plain short kept (filtered_printed kept whole text)

theorem runFrom_runFast (view : ConfigView)
    (readable : session.world.read path = .ok text)
    (children : session.world.children = .runs first :: .runs second :: rest)
    (dumps : first.Succeeds) (preprocesses : second.Succeeds) {file : MainFile}
    {lines : List String} {includes : List Include}
    (read : MainFile.ofOutput session.world.currentDirectory second.stdout path = .ok file)
    (restored : restore (hide (Text.linesOf text)).2 (Text.linesOf file.source) =
      .ok (lines, includes)) :
    ∃ left launches last, (runFast path view).runFrom session =
        (.ok { source := Text.joinLines lines, includes, definitions := .ofOutput first.stdout,
               fullIncludePaths := false }, left) ∧
      left.unlaunched = session.unlaunched ∧
      left.world.launches.map Launch.seen = launches ++ [last] ∧
      last.input = some (hiddenInput path (hide (Text.linesOf text)).1) := by
  obtain ⟨dumped, ranDump, keptDump⟩ := Child.runFrom_invoke_of_succeeds children dumps path
    (listingArguments path view) none
  obtain ⟨_, logged, ranLog, unsaid⟩ := Session.passes_log .debug .preprocessor
    ("Collected " ++ toString (Definitions.ofOutput first.stdout).size ++ " macros for " ++ path)
    dumped
  have same : logged.unlaunched = session.unlaunched :=
    (Session.unlaunched_of_unsaid unsaid).trans (congrArg (·.1) keptDump)
  have next : logged.world.children = .runs second :: rest := by
    rw [Session.world_of_unsaid unsaid]
    exact congrArg (·.2.1) keptDump
  have readableNow : logged.world.read path = .ok text :=
    (congrArg (·.world.read path) same).trans readable
  have directory : logged.world.currentDirectory = session.world.currentDirectory :=
    congrArg (·.world.currentDirectory) same
  let input := hiddenInput path (hide (Text.linesOf text)).1
  obtain ⟨left, ranChild, kept⟩ := Child.runFrom_invoke_of_succeeds next preprocesses path
    (hiddenArguments view (.ofOutput first.stdout)) (some input)
  have sameLeft : left.unlaunched = session.unlaunched := (congrArg (·.1) kept).trans same
  have there : left.world.currentDirectory = session.world.currentDirectory :=
    congrArg (·.world.currentDirectory) sameLeft
  have ranMain : (mainFile second.stdout path).runFrom left = (.ok file, left) := by
    rw [mainFile, runFrom_bind_of_ok (runFrom_get left), there, read]
    rfl
  refine ⟨left, _, _, ?_, sameLeft, congrArg (·.2.2) kept, rfl⟩
  rw [runFast, runFrom_bind_of_ok ranDump]
  simp only
  rw [runFrom_bind_of_ok ranLog, runFrom_bind_of_ok (runFrom_get logged), readableNow]
  simp only
  rw [runFrom_bind_of_ok ranChild, runFrom_bind_of_ok ranMain, restored]
  rfl

theorem runFrom_write {result : Preprocessed}
    (writable : session.world.isWritable (sidePath path) = true) :
    ∃ left, (write path result).runFrom session = (.ok ⟨⟩, left) ∧
      left.world.launches = session.world.launches := by
  obtain ⟨barred, -⟩ | ⟨target, -, -, ran⟩ := runFrom_write_cases path result session
  · rw [writable] at barred
    cases barred
  · exact ⟨_, ran, rfl⟩

/-- Fast mode puts back all that the preprocessor leaves of a file. -/
theorem run_of_filtered {view : ConfigView} (kept : Nat → Bool)
    (rooted : Path.isAbsolute session.world.currentDirectory = true)
    (whole : Text.IsLine (Path.absolute session.world.currentDirectory path))
    (readable : session.world.read (Path.absolute session.world.currentDirectory path) = .ok text)
    (plain : ∀ line ∈ Text.linesOf text, LineMarker.scan? line.toList = none ∧
      placeholderNumeral? line.toList = none)
    (short : 1 + (Text.linesOf text).length < Text.unreadable)
    (fast : view.fastPreprocessing = true)
    (writable : view.writePreprocessed = true → session.world.isWritable
      (sidePath (Path.absolute session.world.currentDirectory path)) = true)
    (children : session.world.children = .runs first :: .runs second :: rest)
    (dumps : first.Succeeds) (preprocesses : second.Succeeds)
    (output : second.stdout = filtered kept
      (hiddenInput (Path.absolute session.world.currentDirectory path)
        (hide (Text.linesOf text)).1)) :
    ∃ result left launches last, (run path view).runFrom session = (.ok result, left) ∧
      left.world.launches.map Launch.seen = launches ++ [last] ∧
      last.input = some (hiddenInput (Path.absolute session.world.currentDirectory path)
        (hide (Text.linesOf text)).1) ∧
      result.source =
        Text.joinLines (masked kept 1 ((Text.linesOf text).map restoredLine)) ∧
      (Text.linesOf text ≠ [] → Text.linesOf result.source =
        masked kept 1 ((Text.linesOf text).map restoredLine)) ∧
      result.includes = keptIncludes kept 1 (Text.linesOf text) ∧
      result.fullIncludePaths = false := by
  have rootedPath := Path.isAbsolute_absolute rooted path
  have real : (Path.absolute session.world.currentDirectory path).toList.head? ≠ some '<' := by
    rw [Path.isAbsolute, beq_iff_eq] at rootedPath
    simp [rootedPath]
  obtain ⟨file, lines, read, restored, same⟩ := restored_of_linesOf whole real plain short kept
  rw [← output] at read
  obtain ⟨fastLeft, launches, last, ranFast, untouchedFast, launched, input⟩ :=
    runFrom_runFast view readable children dumps preprocesses read restored
  have finished : ∃ left, (run path view).runFrom session =
        (.ok ⟨Text.joinLines lines, keptIncludes kept 1 (Text.linesOf text),
          .ofOutput first.stdout, false⟩, left) ∧
      left.world.launches = fastLeft.world.launches := by
    rw [run, runFrom_bind_of_ok (Session.runFrom_absolutePath path session)]
    simp only [fast, ↓reduceIte]
    rw [runFrom_bind_of_ok ranFast]
    cases writing : view.writePreprocessed with
    | false => exact ⟨fastLeft, rfl, rfl⟩
    | true =>
      have openable (path : String) :
          fastLeft.world.isWritable path = session.world.isWritable path :=
        congrArg (·.world.isWritable path) untouchedFast
      obtain ⟨left, ranWrite, untouched⟩ := runFrom_write ((openable _).trans (writable writing))
      exact ⟨left, runFrom_bind_of_ok ranWrite _, untouched⟩
  obtain ⟨left, ran, untouched⟩ := finished
  refine ⟨_, left, launches, last, ran, by rw [untouched, launched], input, same, ?_, rfl, rfl⟩
  intro present
  have presentMasked : masked kept 1 ((Text.linesOf text).map restoredLine) ≠ [] := by
    rw [← List.length_pos_iff, length_masked, List.length_map]
    exact List.length_pos_iff.mpr present
  have each : ∀ line ∈ (Text.linesOf text).map restoredLine, Text.IsLine line := by
    intro line member
    obtain ⟨original, inside, rfl⟩ := List.mem_map.mp member
    exact isLine_restoredLine (Text.isLine_of_mem_linesOf inside)
  simp only [same]
  exact Text.linesOf_joinLines presentMasked (forall_mem_masked (by decide) each 1)

/-- A session with a file, for which the second child process gives `output`. -/
def fastSample (text output : String) : Session :=
  { defaults := .sample
    world :=
      { files := ⟨[("/work/a.cpp", .ofText text)]⟩
        unwritable := ["/work/a.cpp.pp"]
        children := [.runs { stdout := "#define X 1\n" }, .runs { stdout := output }] } }

def fastView : ConfigView :=
  { (CompileConfig.blank BuildDefaults.sample.toolchain).view with fastPreprocessing := true }

def conditionalSample : List String :=
  [" #include <a>", "#if Y", "#include \"b\"", "#endif", "# include <c> ", "x"]

def conditionalOutput : String :=
  "# 1 \"/work/a.cpp\"\n#pragma cxxparse_include 0\n\n\n\n#pragma cxxparse_include 2\nx\n"

theorem run_of_filtered_sample :
    ∃ result left,
      (run "a.cpp" fastView).runFrom
        (fastSample (Text.joinLines conditionalSample) conditionalOutput) = (.ok result, left) ∧
      result.source = "#include <a>\n\n\n\n# include <c>\nx\n" ∧
      result.includes = [⟨"a", 1, none, true⟩, ⟨"c", 5, none, true⟩] := by
  let session := fastSample (Text.joinLines conditionalSample) conditionalOutput
  let path := Path.absolute session.world.currentDirectory "a.cpp"
  let kept (number : Nat) : Bool := number < 2 || 4 < number
  have lines : Text.linesOf (Text.joinLines conditionalSample) = conditionalSample :=
    Text.linesOf_joinLines (by decide) (by decide +kernel)
  have whole : Text.IsLine path := by decide +kernel
  have readable : session.world.read path = .ok (Text.joinLines conditionalSample) := by
    decide +kernel
  have plain : ∀ line ∈ conditionalSample, LineMarker.scan? line.toList = none ∧
      placeholderNumeral? line.toList = none := by
    decide +kernel
  have short : 1 + conditionalSample.length < Text.unreadable := Text.lt_unreadable (by decide)
  have writable : fastView.writePreprocessed = true →
      session.world.isWritable (sidePath path) = true := by
    intro writing
    cases writing
  have output : conditionalOutput =
      filtered kept (hiddenInput path (hide conditionalSample).1) := by
    decide +kernel
  have children : session.world.children =
      .runs { stdout := "#define X 1\n" } :: .runs { stdout := conditionalOutput } :: [] := rfl
  obtain ⟨result, left, _, _, ran, -, -, source, -, includes, -⟩ :=
    run_of_filtered kept (by decide) whole readable (by rwa [lines]) (by rwa [lines]) rfl writable
      children ⟨rfl, rfl⟩ ⟨rfl, rfl⟩ (by rwa [lines])
  rw [lines] at source includes
  exact ⟨result, left, ran, source.trans (by decide +kernel), includes.trans (by decide +kernel)⟩

/-- An empty file has no lines, but comes back with one; and a preprocessed file may have to be
written where that is not possible. -/
theorem run_of_empty_sample :
    let output := "# 1 \"/work/a.cpp\"\n\n"
    let view : ConfigView := { fastView with writePreprocessed := true }
    output = filtered (fun _ => true) (hiddenInput "/work/a.cpp" (hide (Text.linesOf "")).1) ∧
      (∃ result left, (run "a.cpp" fastView).runFrom (fastSample "" output) = (.ok result, left) ∧
        Text.linesOf result.source = [""] ∧ Text.linesOf "" = []) ∧
      ∃ reason, ((run "a.cpp" view).runFrom (fastSample "" output)).1 =
        .error (.failure (.sourceFile (.unwritable "/work/a.cpp.pp" reason))) := by
  intro output view
  refine ⟨by decide +kernel, ?_, ?_⟩
  · have ends : ((run "a.cpp" fastView).runFrom (fastSample "" output)).1 =
        .ok { source := "\n", includes := [], definitions := .ofOutput "#define X 1\n",
              fullIncludePaths := false } := by
      decide +kernel
    obtain ⟨left, ran⟩ := exists_runFrom ends
    exact ⟨_, left, ran, by decide +kernel, by decide⟩
  · exact ⟨"[Errno 13] Permission denied: '/work/a.cpp.pp'", by decide +kernel⟩

end Preprocessed

end UnitLift
