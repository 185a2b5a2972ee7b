import UnitLift.Proofs.Preprocess.Completion
import UnitLift.Proofs.Text.LineFeeds

namespace UnitLift

namespace HiddenDirective

variable {kept : Nat → Bool}

theorem mem_keptIncludes {number : Nat} {lines : List String} {included : Include}
    (member : included ∈ keptIncludes kept number lines) :
    ∃ index line, lines[index]? = some line ∧ kept (number + index) = true ∧
      includeOn? (number + index) line = some included := by
  obtain ⟨⟨line, place⟩, present, found⟩ := List.mem_filterMap.mp member
  obtain ⟨later, there⟩ := List.mk_mem_zipIdx_iff_le_and_getElem?_sub.mp present
  obtain ⟨index, rfl⟩ := Nat.exists_eq_add_of_le later
  rw [Nat.add_sub_cancel_left] at there
  simp only at found
  split at found
  · rename_i keeps
    exact ⟨index, line, there, keeps, found⟩
  · cases found

end HiddenDirective

namespace Preprocessed

open HiddenDirective Work

variable {session : Session} {path text : String} {view : ConfigView} {first second : ChildRun}
  {rest : List ChildScript}

/-- The number of an include counts the line feeds before its directive. -/
private theorem place_of_mem_keptIncludes {included : Include}
    (member : included ∈ keptIncludes (fun _ => true) 1 (Text.feedLines text)) :
    ∃ before line after, text.toList = before ++ line ++ after ∧
      Text.IsLineBetween before line after ∧
      includedName? line = some (included.name, included.system) ∧
      included.line = 1 + before.count '\n' := by
  obtain ⟨index, line, there, -, found⟩ := mem_keptIncludes member
  rw [Text.feedLines, List.getElem?_map, Option.map_eq_some_iff] at there
  obtain ⟨span, spanned, rfl⟩ := there
  obtain ⟨before, after, shape, between, counted⟩ := Text.exists_isLineBetween spanned
  rw [includeOn?, String.toList_ofList, Option.map_eq_some_iff] at found
  obtain ⟨⟨name, system⟩, named, rfl⟩ := found
  refine ⟨before, span, after, shape, between, named, ?_⟩
  rw [counted]
  exact Int.natCast_add 1 index

private theorem feedLines_restored (feeds : Text.OnlyFeeds text) {number : Nat} {line : String}
    (there : (Text.feedLines text)[number]? = some line) :
    (Text.feedLines (Text.joinLines ((Text.linesOf text).map restoredLine)))[number]? =
      some (restoredLine line) := by
  have same := Text.linesOf_eq_feedLines feeds
  have whole : ∀ line ∈ (Text.linesOf text).map restoredLine, Text.IsLine line := by
    intro line member
    obtain ⟨original, inside, rfl⟩ := List.mem_map.mp member
    exact isLine_restoredLine (Text.isLine_of_mem_linesOf inside)
  have present : (Text.linesOf text).map restoredLine ≠ [] := by
    intro none
    rw [List.map_eq_nil_iff.mp none] at same
    rw [← same] at there
    cases there
  rw [← Text.linesOf_eq_feedLines (Text.onlyFeeds_joinLines whole),
    Text.linesOf_joinLines present whole, List.getElem?_map, same, there]
  rfl

/-- Fast mode keeps the line numbers of a file in which line feeds alone end lines. -/
theorem line_numbers_kept (rooted : Path.isAbsolute session.world.currentDirectory = true)
    (whole : Text.IsLine (Path.absolute session.world.currentDirectory path))
    (readable : session.world.read (Path.absolute session.world.currentDirectory path) = .ok text)
    (feeds : Text.OnlyFeeds text)
    (plain : ∀ line ∈ Text.feedLines text, LineMarker.scan? line.toList = none ∧
      placeholderNumeral? line.toList = none)
    (short : 1 + (Text.feedLines text).length < Text.unreadable)
    (fast : view.fastPreprocessing = true)
    (writable : view.writePreprocessed = true → session.world.isWritable
      (sidePath (Path.absolute session.world.currentDirectory path)) = true)
    (children : session.world.children = .runs first :: .runs second :: rest)
    (dumps : first.Succeeds) (preprocesses : second.Succeeds)
    (echoed : second.stdout = hiddenInput (Path.absolute session.world.currentDirectory path)
      (hide (Text.linesOf text)).1) :
    ∃ result left launches last, (run path view).runFrom session = (.ok result, left) ∧
      left.world.launches.map Launch.seen = launches ++ [last] ∧ last.input = some second.stdout ∧
      result.includes = keptIncludes (fun _ => true) 1 (Text.feedLines text) ∧
      (∀ included ∈ result.includes, ∃ before line after, text.toList = before ++ line ++ after ∧
        Text.IsLineBetween before line after ∧
        includedName? line = some (included.name, included.system) ∧
        included.line = 1 + before.count '\n') ∧
      ∀ (index : Nat) (line : String), (Text.feedLines text)[index]? = some line →
        (Text.feedLines result.source)[index]? = some (restoredLine line) := by
  have same := Text.linesOf_eq_feedLines feeds
  obtain ⟨result, left, launches, last, ran, launched, input, includes, source⟩ :=
    runFrom_run_of_echo rooted whole readable (by rwa [same]) (by rwa [same]) fast writable children
      dumps preprocesses echoed
  rw [same] at includes
  refine ⟨result, left, launches, last, ran, launched, input, includes, ?_, ?_⟩
  · intro included member
    rw [includes] at member
    exact place_of_mem_keptIncludes member
  · intro index line there
    rw [source]
    exact feedLines_restored feeds there

def feedSample : List String := ["int a;", "", " #include <b> ", "# include \"c\"", "// d"]

def feedOutput : String :=
  "# 1 \"/work/a.cpp\"\nint a;\n\n#pragma cxxparse_include 0\n#pragma cxxparse_include 1\n// d\n"

theorem line_numbers_kept_sample :
    ∃ result left, (run "a.cpp" fastView).runFrom
        (fastSample (Text.joinLines feedSample) feedOutput) = (.ok result, left) ∧
      result.includes = [⟨"b", 3, none, true⟩, ⟨"c", 4, none, false⟩] ∧
      (Text.feedLines result.source)[2]? = some "#include <b>" ∧
      (Text.feedLines result.source)[4]? = some "// d" := by
  let session := fastSample (Text.joinLines feedSample) feedOutput
  let path := Path.absolute session.world.currentDirectory "a.cpp"
  have lines : Text.feedLines (Text.joinLines feedSample) = feedSample := by decide +kernel
  have whole : Text.IsLine path := by decide +kernel
  have readable : session.world.read path = .ok (Text.joinLines feedSample) := by decide +kernel
  have plain : ∀ line ∈ feedSample, LineMarker.scan? line.toList = none ∧
      placeholderNumeral? line.toList = none := by
    decide +kernel
  have short : 1 + feedSample.length < Text.unreadable := Text.lt_unreadable (by decide)
  have writable : fastView.writePreprocessed = true →
      session.world.isWritable (sidePath path) = true := by
    intro writing
    cases writing
  have children : session.world.children =
      .runs { stdout := "#define X 1\n" } :: .runs { stdout := feedOutput } :: [] := rfl
  obtain ⟨result, left, _, _, ran, -, -, includes, -, kept⟩ :=
    line_numbers_kept (by decide) whole readable (by decide +kernel) (by rwa [lines])
      (by rwa [lines]) rfl writable children ⟨rfl, rfl⟩ ⟨rfl, rfl⟩ (by decide +kernel)
  rw [lines] at includes kept
  refine ⟨result, left, ran, includes.trans (by decide +kernel), ?_, ?_⟩
  · exact (kept 2 " #include <b> " rfl).trans (by decide +kernel)
  · exact (kept 4 "// d" rfl).trans (by decide +kernel)

/-- A form feed ends a line as well: the directive behind it moves on by one line. -/
theorem line_numbers_shifted_sample :
    let text := "int a;\x0c\n#include <b>\nint c;\n"
    let output := "# 1 \"/work/a.cpp\"\nint a;\n\n#pragma cxxparse_include 0\nint c;\n"
    (∀ line ∈ Text.feedLines text, LineMarker.scan? line.toList = none ∧
      placeholderNumeral? line.toList = none) ∧
    output = hiddenInput "/work/a.cpp" (hide (Text.linesOf text)).1 ∧
    ∃ result left, (run "a.cpp" fastView).runFrom (fastSample text output) = (.ok result, left) ∧
      result.includes = [⟨"b", 3, none, true⟩] ∧
      text.toList = "int a;\x0c\n".toList ++ "#include <b>".toList ++ "\nint c;\n".toList ∧
      1 + "int a;\x0c\n".toList.count '\n' = 2 ∧
      (Text.feedLines text)[1]? = some "#include <b>" ∧
      (Text.feedLines result.source)[1]? = some "" := by
  intro text output
  have ends : ((run "a.cpp" fastView).runFrom (fastSample text output)).1 =
      .ok { source := "int a;\n\n#include <b>\nint c;\n", includes := [⟨"b", 3, none, true⟩],
            definitions := .ofOutput "#define X 1\n", fullIncludePaths := false } := by
    decide +kernel
  obtain ⟨left, ran⟩ := exists_runFrom ends
  refine ⟨by decide +kernel, by decide +kernel, _, left, ran, rfl, ?_, ?_, ?_, ?_⟩
  · decide +kernel
  · decide +kernel
  · decide +kernel
  · decide +kernel

end Preprocessed

end UnitLift
