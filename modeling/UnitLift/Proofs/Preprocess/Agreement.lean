import UnitLift.Proofs.Preprocess.Completion
import UnitLift.Proofs.Text.LineFeeds

/-! Includes in full and in fast mode. A compiler leaves what stands in block comments alone, while
fast mode looks at every line by itself. The modes find the same includes just if no line of a
comment reads as an include directive. -/

namespace UnitLift

/-- Whether a block comment is open behind a text, by whether one is open before it. -/
def Text.commentBehind : Bool → List Char → Bool
  | opened, [] => opened
  | false, '/' :: '/' :: _ => false
  | false, '/' :: '*' :: rest => commentBehind true rest
  | true, '*' :: '/' :: rest => commentBehind false rest
  | opened, _ :: rest => commentBehind opened rest

namespace HiddenDirective

/-- What follows the name in an include directive. -/
def behindName (line : List Char) : List Char :=
  ((line.dropWhile fun c => c != '<' && c != '"').drop 1).dropWhile fun c => c != '>' && c != '"'

/-- Whether a block comment is open behind a line. The name in a directive opens none. -/
def commentBehind (opened : Bool) (line : String) : Bool :=
  if !opened && (includedName? line.toList).isSome then
    Text.commentBehind false (behindName line.toList)
  else Text.commentBehind opened line.toList

/-- The lines that start inside of a comment. -/
def commentedLines : Bool → List String → List String
  | _, [] => []
  | opened, line :: rest =>
    (if opened then [line] else []) ++ commentedLines (commentBehind opened line) rest

/-- The numbers of the include directives outside of comments, among lines from `number` on. -/
def directiveNumbers : Bool → Nat → List String → List Nat
  | _, _, [] => []
  | opened, number, line :: rest =>
    (if !opened && (includedName? line.toList).isSome then [number] else []) ++
      directiveNumbers (commentBehind opened line) (number + 1) rest

/-- The numbers of the lines that read as include directives, among lines from `number` on. -/
def mentionNumbers : Nat → List String → List Nat
  | _, [] => []
  | number, line :: rest =>
    (if (includedName? line.toList).isSome then [number] else []) ++ mentionNumbers (number + 1) rest

private theorem le_of_mem_directiveNumbers {opened : Bool} {number place : Nat}
    {lines : List String} (member : place ∈ directiveNumbers opened number lines) :
    number ≤ place := by
  induction lines generalizing opened number with
  | nil => cases member
  | cons line rest ih =>
    rw [directiveNumbers] at member
    rcases List.mem_append.mp member with here | later
    · split at here
      · rw [List.mem_singleton.mp here]
      · cases here
    · exact Nat.le_of_succ_le (ih later)

/-- All lines that read as directives are directives just if none of them stands in a comment. -/
theorem directiveNumbers_eq_iff (opened : Bool) (number : Nat) (lines : List String) :
    directiveNumbers opened number lines = mentionNumbers number lines ↔
      ∀ line ∈ commentedLines opened lines, includedName? line.toList = none := by
  induction lines generalizing opened number with
  | nil => simp [directiveNumbers, mentionNumbers, commentedLines]
  | cons line rest ih =>
    have later := ih (commentBehind opened line) (number + 1)
    rw [directiveNumbers, mentionNumbers, commentedLines]
    cases directive : includedName? line.toList with
    | none => cases opened <;> simpa [directive] using later
    | some named =>
      cases opened with
      | false => simpa using later
      | true =>
        -- the first number of the mentions is that of this line, which is no directive
        constructor
        · intro same
          have first : number ∈ directiveNumbers (commentBehind true line) (number + 1)
              rest := by
            simp only [Bool.not_true, Bool.false_and, Bool.false_eq_true, ↓reduceIte,
              List.nil_append] at same
            rw [same]
            simp
          exact absurd (le_of_mem_directiveNumbers first) (Nat.not_succ_le_self number)
        · intro none
          have absent := none line (by simp)
          rw [directive] at absent
          cases absent

/-- Fast mode numbers all lines that read as directives. -/
theorem lines_keptIncludes (number : Nat) (lines : List String) :
    (keptIncludes (fun _ => true) number lines).map (·.line) =
      (mentionNumbers number lines).map Nat.cast := by
  induction lines generalizing number with
  | nil => rfl
  | cons line rest ih =>
    rw [keptIncludes_cons, mentionNumbers, List.map_append, ih, List.map_append, includeOn?]
    cases includedName? line.toList with
    | none => rfl
    | some named => rfl

end HiddenDirective

open HiddenDirective

/-- What a compiler makes of the lines of a file: each include directive outside of comments leads to
a header, and everything else is text. -/
inductive Expands (isMain : String → Bool) : Bool → List String → List SourceItem → Prop where
  | nil {opened : Bool} : Expands isMain opened [] []
  | directive {line name : String} {system : Bool} {body items : List SourceItem}
      {rest : List String} (included : (includedName? line.toList).isSome = true)
      (proper : (SourceItem.header name system body).IsProper isMain)
      (more : Expands isMain (commentBehind false line) rest items) :
      Expands isMain false (line :: rest) (.header name system body :: items)
  | text {opened : Bool} {line : String} {items : List SourceItem} {rest : List String}
      (kept : opened = true ∨ includedName? line.toList = none)
      (more : Expands isMain (commentBehind opened line) rest items) :
      Expands isMain opened (line :: rest) (.content line :: items)

namespace Expands

variable {isMain : String → Bool} {opened : Bool} {lines : List String} {items : List SourceItem}

theorem length_eq (expands : Expands isMain opened lines items) : items.length = lines.length := by
  induction expands with
  | nil => rfl
  | directive _ _ _ ih => exact congrArg (· + 1) ih
  | text _ _ ih => exact congrArg (· + 1) ih

theorem isProper (expands : Expands isMain opened lines items)
    (plain : ∀ line ∈ lines, Text.IsLine line ∧ LineMarker.scan? line.toList = none) :
    ∀ item ∈ items, item.IsProper isMain := by
  induction expands with
  | nil => simp
  | directive _ proper _ ih =>
    exact List.forall_mem_cons.mpr ⟨proper, ih (List.forall_mem_cons.mp plain).2⟩
  | text _ _ ih =>
    obtain ⟨⟨whole, unmarked⟩, plainRest⟩ := List.forall_mem_cons.mp plain
    exact List.forall_mem_cons.mpr ⟨.content whole unmarked, ih plainRest⟩

/-- The headers stand on the lines of the directives outside of comments. -/
theorem lines_includesFrom (expands : Expands isMain opened lines items) (number : Nat) :
    (SourceItem.includesFrom number items).map (·.line) =
      (directiveNumbers opened number lines).map Nat.cast := by
  induction expands generalizing number with
  | nil => rfl
  | directive included _ _ ih =>
    rw [SourceItem.includesFrom, directiveNumbers, included, List.map_append, ih, List.map_append]
    rfl
  | @text opened line items rest kept _ ih =>
    have apart : (!opened && (includedName? line.toList).isSome) = false := by
      rcases kept with inside | none
      · rw [inside]
        rfl
      · rw [none]
        exact Bool.and_false _
    rw [SourceItem.includesFrom, directiveNumbers, apart, List.map_append, ih]
    rfl

end Expands

/-- A session in which child processes will follow these scripts. -/
def Session.scripted (session : Session) (children : List ChildScript) : Session :=
  { session with world := { session.world with children } }

namespace Preprocessed

open Work

variable {session : Session} {path text : String} {view : ConfigView} {full dump echo : ChildRun}
  {rest : List ChildScript} {items : List SourceItem}

/-- What a preprocessor finds in a text with its directives hidden. -/
def hiddenItems (text : String) : List SourceItem :=
  (Text.linesOf (Text.joinLines (hide (Text.linesOf text)).1)).map .content

/-- The modes number the same includes just if no line of a comment reads as an include directive,
provided that line feeds alone end lines. -/
theorem include_lines_agree_iff (rooted : Path.isAbsolute session.world.currentDirectory = true)
    (whole : Text.IsLine (Path.absolute session.world.currentDirectory path))
    (readable : session.world.read (Path.absolute session.world.currentDirectory path) = .ok text)
    (feeds : Text.OnlyFeeds text)
    (plain : ∀ line ∈ Text.feedLines text, LineMarker.scan? line.toList = none ∧
      placeholderNumeral? line.toList = none)
    (short : 1 + (Text.feedLines text).length < Text.unreadable)
    (writable : view.writePreprocessed = true → session.world.isWritable
      (sidePath (Path.absolute session.world.currentDirectory path)) = true)
    (expands : Expands (Path.sameFile session.world.currentDirectory ·
      (Path.absolute session.world.currentDirectory path)) false (Text.feedLines text) items)
    (expanded : full.Succeeds) (dumps : dump.Succeeds) (preprocesses : echo.Succeeds)
    (printed : MainFile.Printed (Path.absolute session.world.currentDirectory path) items
      full.stdout)
    (echoed : MainFile.Printed (Path.absolute session.world.currentDirectory path)
      (hiddenItems text) echo.stdout) :
    ∃ slow quick slowLeft quickLeft,
      (run path { view with fastPreprocessing := false }).runFrom
        (session.scripted (.runs full :: rest)) = (.ok slow, slowLeft) ∧
      (run path { view with fastPreprocessing := true }).runFrom
        (session.scripted (.runs dump :: .runs echo :: rest)) = (.ok quick, quickLeft) ∧
      slow.includes.map (·.line) =
        (directiveNumbers false 1 (Text.feedLines text)).map Nat.cast ∧
      quick.includes.map (·.line) = (mentionNumbers 1 (Text.feedLines text)).map Nat.cast ∧
      (slow.includes.map (·.line) = quick.includes.map (·.line) ↔
        ∀ line ∈ commentedLines false (Text.feedLines text),
          includedName? line.toList = none) := by
  have same := Text.linesOf_eq_feedLines feeds
  have real := head?_ne_of_isAbsolute rooted path
  have lined : ∀ line ∈ Text.feedLines text,
      Text.IsLine line ∧ LineMarker.scan? line.toList = none :=
    fun line member => ⟨Text.isLine_of_mem_linesOf (same ▸ member), (plain line member).1⟩
  obtain ⟨slowFile, readSlow, -, found⟩ := MainFile.ofOutput_of_printed whole real
    (expands.isProper lined) (by rwa [expands.length_eq]) printed
  obtain ⟨quickFile, lines, readQuick, restored, -⟩ :=
    restored_of_printed whole real (by rwa [same]) (by rwa [same]) (fun _ => true)
      (by rw [masked_all]; exact echoed)
  let slowView : ConfigView := { view with fastPreprocessing := false }
  let quickView : ConfigView := { view with fastPreprocessing := true }
  let slowStart := session.scripted (.runs full :: rest)
  let quickStart := session.scripted (.runs dump :: .runs echo :: rest)
  have slowChildren : slowStart.world.children = .runs full :: rest := rfl
  have quickChildren : quickStart.world.children = .runs dump :: .runs echo :: rest := rfl
  have quickReadable : quickStart.world.read
      (Path.absolute session.world.currentDirectory path) = .ok text := readable
  obtain ⟨producedSlow, ranFull, keptSlow⟩ :=
    runFrom_runFull slowView slowChildren expanded readSlow
  obtain ⟨producedQuick, _, _, ranFast, keptQuick, -, -⟩ :=
    runFrom_runFast quickView quickReadable quickChildren dumps preprocesses readQuick restored
  obtain ⟨slowLeft, slow, -⟩ := runFrom_run_of_full rfl ranFull keptSlow writable
  obtain ⟨quickLeft, quick, -⟩ := runFrom_run_of_fast rfl ranFast keptQuick writable
  refine ⟨_, _, slowLeft, quickLeft, slow, quick, ?_, ?_, ?_⟩
  · simp only [found]
    exact expands.lines_includesFrom 1
  · simp only [same]
    exact lines_keptIncludes 1 _
  · simp only [found, same]
    rw [expands.lines_includesFrom 1, lines_keptIncludes 1, ← directiveNumbers_eq_iff false 1]
    exact List.map_inj_right fun _ _ => Int.ofNat.inj

/-- A file with a comment between its directives. -/
def commentedSample : List String := ["#include <b>", "/* c", "*/", "#include \"d\""]

def commentedItems : List SourceItem :=
  [.header "/b" true [.header "/e" true [.content "int e;"]], .content "/* c", .content "*/",
    .header "/d" false [.content "int d;"]]

def commentedOutput : List String :=
  ["# 1 \"/work/a.cpp\"", "# 1 \"/b\" 1 3", "# 1 \"/e\" 1 3", "int e;", "# 2 \"/b\" 2 3",
    "# 2 \"/work/a.cpp\" 2", "/* c", "*/", "# 1 \"/d\" 1", "int d;", "# 5 \"/work/a.cpp\" 2"]

def commentedEcho : List String :=
  ["# 1 \"<stdin>\"", "# 1 \"/work/a.cpp\"", "#pragma cxxparse_include 0", "/* c", "*/",
    "#pragma cxxparse_include 1"]

theorem commentedItems_expand :
    Expands (Path.sameFile "/work" · "/work/a.cpp") false commentedSample commentedItems := by
  have second : (SourceItem.header "/e" true [.content "int e;"]).IsProper
      (Path.sameFile "/work" · "/work/a.cpp") := by
    refine .header (by decide) (by decide) (by decide) (Text.lt_unreadable (by decide)) ?_
    simpa using .content (by decide) (by decide)
  have first : (SourceItem.header "/b" true [.header "/e" true [.content "int e;"]]).IsProper
      (Path.sameFile "/work" · "/work/a.cpp") := by
    refine .header (by decide) (by decide) (by decide) (Text.lt_unreadable (by decide)) ?_
    simpa using second
  have third : (SourceItem.header "/d" false [.content "int d;"]).IsProper
      (Path.sameFile "/work" · "/work/a.cpp") := by
    refine .header (by decide) (by decide) (by decide) (Text.lt_unreadable (by decide)) ?_
    simpa using .content (by decide) (by decide)
  refine .directive (by decide) first ?_
  refine .text (Or.inr (by decide)) (.text (Or.inl (by decide)) ?_)
  exact .directive (by decide) third .nil

theorem commentedOutput_printed :
    MainFile.Printed "/work/a.cpp" commentedItems (Text.joinLines commentedOutput) := by
  have inside : Rendering "/b" ["3"] 1 [.header "/e" true [.content "int e;"]] _ :=
    .header (Or.inl rfl) (.content _ .nil) .nil
  have body : Rendering "/work/a.cpp" [] 1 commentedItems _ :=
    .header (Or.inr rfl) inside (.content _ (.content _
      (.header (Or.inl rfl) (.content _ .nil) .nil)))
  have printed : MainFile.Printed "/work/a.cpp" commentedItems _ :=
    .lines (List.forall_mem_nil _) .none body
  exact printed.of_eq (by decide +kernel)

theorem commentedEcho_printed :
    MainFile.Printed "/work/a.cpp" (hiddenItems (Text.joinLines commentedSample))
      (Text.joinLines commentedEcho) := by
  have hidden : Text.linesOf (Text.joinLines (hide (Text.linesOf
      (Text.joinLines commentedSample))).1) = commentedEcho.drop 2 := by
    decide +kernel
  have foreign : ∀ line ∈ commentedEcho.take 1, MainFile.IsAside line := by
    simpa [commentedEcho] using ⟨by decide, some ⟨1, "<stdin>", []⟩, by decide +kernel, by decide⟩
  have printed := MainFile.Printed.lines foreign .none
    (MainFile.rendering_content "/work/a.cpp" 1 (commentedEcho.drop 2))
  rw [hiddenItems, hidden]
  exact printed.of_eq (by decide +kernel)

theorem include_lines_agree_sample :
    let start := fastSample (Text.joinLines commentedSample) ""
    ∃ slow quick slowLeft quickLeft,
      (run "a.cpp" { fastView with fastPreprocessing := false }).runFrom
        (start.scripted [.runs { stdout := Text.joinLines commentedOutput }]) =
          (.ok slow, slowLeft) ∧
      (run "a.cpp" fastView).runFrom (start.scripted
        [.runs { stdout := "#define X 1\n" }, .runs { stdout := Text.joinLines commentedEcho }]) =
          (.ok quick, quickLeft) ∧
      slow.includes.map (·.line) = [1, 4] ∧ quick.includes.map (·.line) = [1, 4] := by
  intro start
  have there : Path.absolute start.world.currentDirectory "a.cpp" = "/work/a.cpp" := by
    decide +kernel
  have lines : Text.feedLines (Text.joinLines commentedSample) = commentedSample := by
    decide +kernel
  have plain : ∀ line ∈ commentedSample, LineMarker.scan? line.toList = none ∧
      placeholderNumeral? line.toList = none := by
    decide +kernel
  have short : 1 + commentedSample.length < Text.unreadable := Text.lt_unreadable (by decide)
  have writable : fastView.writePreprocessed = true → start.world.isWritable
      (sidePath (Path.absolute start.world.currentDirectory "a.cpp")) = true := by
    intro writing
    cases writing
  have readable : start.world.read (Path.absolute start.world.currentDirectory "a.cpp") =
      .ok (Text.joinLines commentedSample) := by
    decide +kernel
  have feeds : Text.OnlyFeeds (Text.joinLines commentedSample) := by decide +kernel
  have expanded : ChildRun.Succeeds { stdout := Text.joinLines commentedOutput } := ⟨rfl, rfl⟩
  have dumps : ChildRun.Succeeds { stdout := "#define X 1\n" } := ⟨rfl, rfl⟩
  have preprocesses : ChildRun.Succeeds { stdout := Text.joinLines commentedEcho } := ⟨rfl, rfl⟩
  obtain ⟨slow, quick, slowLeft, quickLeft, ranSlow, ranQuick, numbers, -, agree⟩ :=
    include_lines_agree_iff (by decide) (by decide +kernel) readable feeds (by rwa [lines])
      (by rwa [lines]) writable (by rw [lines, there]; exact commentedItems_expand) expanded dumps
      preprocesses (by rw [there]; exact commentedOutput_printed)
      (by rw [there]; exact commentedEcho_printed)
  rw [lines] at numbers agree
  have found : slow.includes.map (·.line) = [1, 4] := numbers.trans (by decide +kernel)
  have uncommented : ∀ line ∈ commentedLines false commentedSample,
      includedName? line.toList = none := by
    decide +kernel
  exact ⟨slow, quick, slowLeft, quickLeft, ranSlow, ranQuick, found,
    (agree.mpr uncommented).symm.trans found⟩

/-- Fast mode takes a line of a comment for a directive, and it counts what stands behind a form feed
as a line of its own. -/
theorem include_lines_differ_sample :
    let view : ConfigView := { fastView with fastPreprocessing := false }
    let found (view : ConfigView) (start : Session) :=
      ((run "a.cpp" view).runFrom start).1.map fun result => result.includes.map (·.line)
    let text := "/*\n#include <b>\n*/\n#include <a>\n"
    let items := [.content "/*", .content "#include <b>", .content "*/",
      .header "/a" true [.content "int x;"]]
    let output := Text.joinLines ["# 1 \"/work/a.cpp\"", "/*", "#include <b>", "*/",
      "# 1 \"/a\" 1 3", "int x;", "# 5 \"/work/a.cpp\" 2"]
    let echo := Text.joinLines ["# 1 \"/work/a.cpp\"", "/*", "#pragma cxxparse_include 0", "*/",
      "#pragma cxxparse_include 1"]
    let fed := "\x0c\n#include <b>\n"
    let fedOutput := Text.joinLines ["# 1 \"/work/a.cpp\"", "\x0c", "# 1 \"/b\" 1 3",
      "int b;", "# 3 \"/work/a.cpp\" 2"]
    let fedEcho := Text.joinLines ["# 1 \"/work/a.cpp\"", "", "", "#pragma cxxparse_include 0"]
    Expands (Path.sameFile "/work" · "/work/a.cpp") false (Text.feedLines text) items ∧
      MainFile.Printed "/work/a.cpp" items output ∧
      MainFile.Printed "/work/a.cpp" (hiddenItems text) echo ∧
      found view ((fastSample text "").scripted [.runs { stdout := output }]) = .ok [4] ∧
      found fastView (fastSample text echo) = .ok [2, 4] ∧
      found view ((fastSample fed "").scripted [.runs { stdout := fedOutput }]) = .ok [2] ∧
      fedEcho = hiddenInput "/work/a.cpp" (hide (Text.linesOf fed)).1 ∧
      found fastView (fastSample fed fedEcho) = .ok [3] := by
  intro view found text items output echo fed fedOutput fedEcho
  have header : (SourceItem.header "/a" true [.content "int x;"]).IsProper
      (Path.sameFile "/work" · "/work/a.cpp") := by
    refine .header (by decide) (by decide) (by decide) (Text.lt_unreadable (by decide)) ?_
    simpa using .content (by decide) (by decide)
  have lines : Text.feedLines text = ["/*", "#include <b>", "*/", "#include <a>"] := by
    decide +kernel
  have hidden : Text.linesOf (Text.joinLines (hide (Text.linesOf text)).1) =
      ["/*", "#pragma cxxparse_include 0", "*/", "#pragma cxxparse_include 1"] := by
    decide +kernel
  have body : Rendering "/work/a.cpp" [] 1 items _ :=
    .content _ (.content _ (.content _ (.header (Or.inr rfl) (.content _ .nil) .nil)))
  have printed : MainFile.Printed "/work/a.cpp" items _ :=
    .lines (List.forall_mem_nil _) .none body
  have echoed := MainFile.Printed.lines (List.forall_mem_nil _) .none
    (MainFile.rendering_content "/work/a.cpp" 1
      ["/*", "#pragma cxxparse_include 0", "*/", "#pragma cxxparse_include 1"])
  refine ⟨?_, ?_, ?_, ?_, ?_, ?_, ?_, ?_⟩
  · rw [lines]
    refine .text (Or.inr (by decide)) (.text (Or.inl (by decide)) (.text (Or.inl (by decide)) ?_))
    exact .directive (by decide) header .nil
  · exact printed.of_eq (by decide +kernel)
  · rw [hiddenItems, hidden]
    exact echoed.of_eq (by decide +kernel)
  · decide +kernel
  · decide +kernel
  · decide +kernel
  · decide +kernel
  · decide +kernel

end Preprocessed

end UnitLift
