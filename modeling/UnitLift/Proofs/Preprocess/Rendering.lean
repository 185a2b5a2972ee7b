import UnitLift.Preprocess.MainFile
import UnitLift.Proofs.Preprocess.LineMarker

namespace UnitLift

/-- What stands on a line of a file: text, or a header that is included there with its own lines. -/
inductive SourceItem where
  | content (text : String)
  | header (name : String) (system : Bool) (body : List SourceItem)

namespace SourceItem

def line : SourceItem → String
  | content text => text
  | header name _ _ => MainFile.directive name

def include? (number : Nat) : SourceItem → Option Include
  | content _ => none
  | header name system _ =>
    some { name, line := (number : Int), fullPath := some name, system }

def includesFrom (number : Nat) : List SourceItem → List Include
  | [] => []
  | item :: rest => (item.include? number).toList ++ includesFrom (number + 1) rest

/-- Items that can be told apart from markers and from the main file: a line of text is no marker, a
header is neither the main file nor a pseudo file, and its lines have numbers that can be read. -/
inductive IsProper (isMain : String → Bool) : SourceItem → Prop where
  | content {text : String} (whole : Text.IsLine text)
      (plain : LineMarker.scan? text.toList = none) : IsProper isMain (content text)
  | header {name : String} {system : Bool} {body : List SourceItem} (whole : Text.IsLine name)
      (file : name.toList.head? ≠ some '<') (other : isMain name = false)
      (short : 1 + body.length < Text.unreadable)
      (inside : ∀ item ∈ body, IsProper isMain item) : IsProper isMain (header name system body)

end SourceItem

/-- The flags by which a marker shows a system header. -/
def systemFlags (system : Bool) : List String := if system then ["3"] else []

/-- Lines that a preprocessor may write for the items of `file` from line `number` on. All markers
for the file carry the flags in `own`. A run of blank lines with something behind it may be left out
for a marker. -/
inductive Rendering : String → List String → Nat → List SourceItem → List String → Prop where
  | nil {file : String} {own : List String} {number : Nat} : Rendering file own number [] []
  | content {file : String} {own : List String} {number : Nat} {rest : List SourceItem}
      {lines : List String} (text : String) (more : Rendering file own (number + 1) rest lines) :
      Rendering file own number (.content text :: rest) (text :: lines)
  | blanks {file : String} {own : List String} {number : Nat} {rest : List SourceItem}
      {lines : List String} (count : Nat) (followed : rest ≠ [])
      (more : Rendering file own (number + count) rest lines) :
      Rendering file own number (List.replicate count (.content "") ++ rest)
        (LineMarker.render ⟨number + count, file, own⟩ :: lines)
  | header {file : String} {own : List String} {number : Nat} {rest : List SourceItem}
      {lines : List String} {name : String} {system : Bool} {body : List SourceItem}
      {inner inside : List String} (marked : inner = [] ∨ inner = systemFlags system)
      (entered : Rendering name inner 1 body inside)
      (more : Rendering file own (number + 1) rest lines) :
      Rendering file own number (.header name system body :: rest)
        (LineMarker.render ⟨1, name, "1" :: systemFlags system⟩ :: (inside ++
          LineMarker.render ⟨number + 1, file, "2" :: own⟩ :: lines))

/-- Whatever the items are, there are lines for them. -/
theorem Rendering.exists_lines (file : String) (own : List String) (number : Nat) :
    (items : List SourceItem) → ∃ lines, Rendering file own number items lines
  | [] => ⟨[], .nil⟩
  | .content text :: rest =>
    have ⟨_, more⟩ := exists_lines file own (number + 1) rest
    ⟨_, .content text more⟩
  | .header name system body :: rest =>
    have ⟨_, entered⟩ := exists_lines name (systemFlags system) 1 body
    have ⟨_, more⟩ := exists_lines file own (number + 1) rest
    ⟨_, .header (Or.inr rfl) entered more⟩

/-- The sheet holds these lines, of which blank ones at the end may still be missing. -/
def Sheet.Holds (sheet : Sheet) (lines : List String) : Prop :=
  ∃ count, lines = sheet.toList ++ List.replicate count ""

/-- Text goes to the line after those that a sheet holds. -/
theorem Sheet.place_next {sheet : Sheet} {lines : List String} (holds : sheet.Holds lines)
    (text : String) :
    ∃ placed : Sheet, sheet.place (lines.length + 1) text = .ok placed ∧
      placed.toList = lines ++ [text] := by
  obtain ⟨count, same⟩ := holds
  have size : lines.length = sheet.size + count := by simp [same]
  have missing : lines.length + 1 - 1 - sheet.size = count := by omega
  refine ⟨(sheet ++ Array.replicate count "").push text, ?_, ?_⟩
  · simp only [place, missing]
    rw [if_neg (by simp [size])]
  · simp [same]

namespace MainFile

variable {isMain : String → Bool} {state : MainFile}

/-- A marker of the main file or of a pseudo file moves the place only, unless a header is pending
that it may close. -/
theorem follow_idle {marker : LineMarker} {main : Bool} (idle : main = true → state.pending = none)
    (apart : state.inMain = true → main = false → marker.isPseudo = true) :
    state.follow main marker = .ok { state with inMain := main, nextLine := marker.line } := by
  have notEntered : (state.inMain && !main && !marker.isPseudo && marker.entersFile) = false := by
    cases inside : state.inMain <;> cases isMainFile : main <;> simp
    exact fun notPseudo => by simp [apart inside isMainFile] at notPseudo
  rw [follow, if_neg (by simp [notEntered])]
  cases pending : state.pending with
  | none => simp [pending]
  | some header =>
    cases main with
    | true => simp [idle rfl] at pending
    | false => simp [pending]

theorem follow_enter {marker : LineMarker} (inside : state.inMain = true)
    (real : marker.isPseudo = false) (enters : marker.entersFile = true) :
    state.follow false marker =
      .ok { state with
        inMain := false, nextLine := marker.line
        pending := some (marker.file, marker.isSystem) } := by
  rw [follow, if_pos (by simp [inside, real, enters])]

/-- The return from a header places its directive on the line before the one returned to. -/
theorem follow_return {marker : LineMarker} {header : String} {system : Bool} {placed : Sheet}
    (pending : state.pending = some (header, system)) (returns : marker.returnsToFile = true)
    (later : 1 < marker.line)
    (directed : state.sheet.place (marker.line - 1) (directive header) = .ok placed) :
    state.follow true marker =
      .ok { state with
        sheet := placed
        includes := state.includes ++ [⟨header, (marker.line : Int) - 1, some header, system⟩]
        inMain := true, nextLine := marker.line, pending := none } := by
  rw [follow, if_neg (by simp), pending]
  simp only [returns, later, decide_true, Bool.and_self, ↓reduceIte, directed]
  rfl

theorem readLine_render {marker : LineMarker} (short : marker.line < Text.unreadable)
    (proper : ∀ flag ∈ marker.flags, LineMarker.IsFlag flag) :
    readLine isMain state (LineMarker.render marker) =
      state.follow (!marker.isPseudo && isMain marker.file) marker := by
  rw [readLine, LineMarker.read_render short proper]
  rfl

theorem readLine_outside {text : String} (plain : LineMarker.scan? text.toList = none)
    (outside : state.inMain = false) : readLine isMain state text = .ok state := by
  rw [readLine, LineMarker.read, plain]
  simp [bind, Except.bind, outside, pure, Except.pure]

theorem readLine_inside {text : String} {placed : Sheet}
    (plain : LineMarker.scan? text.toList = none) (inside : state.inMain = true)
    (directed : state.sheet.place state.nextLine text = .ok placed) :
    readLine isMain state text =
      .ok { state with sheet := placed, nextLine := state.nextLine + 1 } := by
  rw [readLine, LineMarker.read, plain]
  simp [bind, Except.bind, inside, pure, Except.pure, directed]

theorem foldlM_cons_of_ok {line : String} {next : MainFile}
    (step : readLine isMain state line = .ok next) (lines : List String) :
    (line :: lines).foldlM (readLine isMain) state = lines.foldlM (readLine isMain) next := by
  rw [List.foldlM_cons, step]
  rfl

theorem foldlM_append_of_ok {first : List String} {next : MainFile}
    (ran : first.foldlM (readLine isMain) state = .ok next) (second : List String) :
    (first ++ second).foldlM (readLine isMain) state = second.foldlM (readLine isMain) next := by
  rw [List.foldlM_append, ran]
  rfl

private theorem isFlag_enter (system : Bool) :
    ∀ flag ∈ "1" :: systemFlags system, LineMarker.IsFlag flag := by
  cases system <;> decide

private theorem isFlag_return {own : List String} (proper : ∀ flag ∈ own, LineMarker.IsFlag flag) :
    ∀ flag ∈ "2" :: own, LineMarker.IsFlag flag := by
  intro flag member
  rcases List.mem_cons.mp member with same | member
  · subst same
    decide
  · exact proper flag member

private theorem isFlag_inner {system : Bool} {inner : List String}
    (marked : inner = [] ∨ inner = systemFlags system) :
    ∀ flag ∈ inner, LineMarker.IsFlag flag := by
  rcases marked with same | same
  · simp [same]
  · intro flag member
    exact isFlag_enter system flag (List.mem_cons_of_mem _ (same ▸ member))

/-- A marker of another file outside of the main file moves the place only. -/
private theorem readLine_foreign {marker : LineMarker} (short : marker.line < Text.unreadable)
    (proper : ∀ flag ∈ marker.flags, LineMarker.IsFlag flag) (other : isMain marker.file = false)
    (outside : state.inMain = false) :
    readLine isMain state (LineMarker.render marker) =
      .ok { state with nextLine := marker.line } := by
  rw [readLine_render short proper, other, Bool.and_false,
    follow_idle (by simp) (by simp [outside]), ← outside]

/-- The lines of a header, and of all that it includes, leave everything but the place. -/
theorem foldlM_foreign {file : String} {own : List String} {number : Nat} {items : List SourceItem}
    {lines : List String} (rendering : Rendering file own number items lines)
    (other : isMain file = false) (flags : ∀ flag ∈ own, LineMarker.IsFlag flag)
    (proper : ∀ item ∈ items, item.IsProper isMain)
    (short : number + items.length < Text.unreadable) (outside : state.inMain = false) :
    ∃ next, lines.foldlM (readLine isMain) state = .ok { state with nextLine := next } := by
  induction rendering generalizing state with
  | nil => exact ⟨state.nextLine, rfl⟩
  | content text more ih =>
    cases proper _ (List.mem_cons_self) with
    | content whole plain =>
      rw [foldlM_cons_of_ok (readLine_outside plain outside)]
      exact ih other flags (fun item member => proper item (List.mem_cons_of_mem _ member))
        (by simp only [List.length_cons] at short; omega) outside
  | blanks count followed more ih =>
    simp only [List.length_append, List.length_replicate] at short
    have present := List.length_pos_iff.mpr followed
    rw [foldlM_cons_of_ok (readLine_foreign (by simp only; omega) flags other outside)]
    exact ih other flags (fun item member => proper item (List.mem_append_right _ member))
      (by omega) outside
  | @header file own number rest lines name system body inner inside marked entered more ihInside
      ihMore =>
    simp only [List.length_cons] at short
    cases proper _ (List.mem_cons_self) with
    | header whole real otherName shortBody properBody =>
      obtain ⟨left, ran⟩ : ∃ left, inside.foldlM (readLine isMain) { state with nextLine := 1 } =
          .ok { state with nextLine := left } :=
        ihInside otherName (isFlag_inner marked) properBody shortBody outside
      have back : readLine isMain { state with nextLine := left }
          (LineMarker.render ⟨number + 1, file, "2" :: own⟩) =
            .ok { state with nextLine := number + 1 } :=
        readLine_foreign (by simp only; omega) (isFlag_return flags) other outside
      rw [foldlM_cons_of_ok (readLine_foreign (by simp only; omega) (isFlag_enter system) otherName
        outside), foldlM_append_of_ok ran, foldlM_cons_of_ok back]
      exact ihMore other flags (fun item member => proper item (List.mem_cons_of_mem _ member))
        (by omega) outside

/-- The main file has been put together up to here: these are its lines and its includes. -/
structure At (state : MainFile) (lines : List String) (includes : List Include) : Prop where
  inMain : state.inMain = true
  pending : state.pending = none
  nextLine : state.nextLine = lines.length + 1
  sheet : state.sheet.Holds lines
  includes : state.includes = includes

variable {done : List String} {includes : List Include} {file : String} {own : List String}
  {number : Nat}

private theorem readLine_content (isMain : String → Bool) {text : String}
    (plain : LineMarker.scan? text.toList = none) (start : state.At done includes) :
    ∃ next, readLine isMain state text = .ok next ∧ next.At (done ++ [text]) includes ∧
      next.sheet.toList = done ++ [text] := by
  obtain ⟨placed, directed, held⟩ := Sheet.place_next start.sheet text
  refine ⟨{ state with sheet := placed, nextLine := state.nextLine + 1 }, ?_, ?_, held⟩
  · exact readLine_inside plain start.inMain (by rw [start.nextLine]; exact directed)
  · exact
      { inMain := start.inMain
        pending := start.pending
        nextLine := by simp [start.nextLine]
        sheet := ⟨0, by simp [held]⟩
        includes := start.includes }

private theorem readLine_blanks (main : isMain file = true) (real : file.toList.head? ≠ some '<')
    (flags : ∀ flag ∈ own, LineMarker.IsFlag flag) (start : state.At done includes)
    (place : number = done.length + 1) (count : Nat) (short : number + count < Text.unreadable) :
    ∃ next, readLine isMain state (LineMarker.render ⟨number + count, file, own⟩) = .ok next ∧
      next.At (done ++ List.replicate count "") includes := by
  have named : (!LineMarker.isPseudo ⟨number + count, file, own⟩ && isMain file) = true := by
    simp [LineMarker.isPseudo, real, main]
  obtain ⟨missing, same⟩ := start.sheet
  refine ⟨{ state with inMain := true, nextLine := number + count }, ?_, ?_⟩
  · rw [readLine_render short flags, named]
    exact follow_idle (fun _ => start.pending) (fun _ other => by cases other)
  · exact
      { inMain := rfl
        pending := start.pending
        nextLine := by simp [place]; omega
        sheet := ⟨missing + count, by
          rw [same, List.append_assoc, List.replicate_append_replicate]⟩
        includes := start.includes }

/-- A header, with all lines down to the return from it, is one line of the main file. -/
private theorem foldlM_header {name : String} {system : Bool} {body : List SourceItem}
    {inner inside : List String} (marked : inner = [] ∨ inner = systemFlags system)
    (entered : Rendering name inner 1 body inside)
    (proper : (SourceItem.header name system body).IsProper isMain)
    (main : isMain file = true) (real : file.toList.head? ≠ some '<')
    (flags : ∀ flag ∈ own, LineMarker.IsFlag flag) (start : state.At done includes)
    (place : number = done.length + 1) (short : number + 1 < Text.unreadable)
    (lines : List String) :
    ∃ next,
      (LineMarker.render ⟨1, name, "1" :: systemFlags system⟩ :: (inside ++
        LineMarker.render ⟨number + 1, file, "2" :: own⟩ :: lines)).foldlM (readLine isMain) state =
          lines.foldlM (readLine isMain) next ∧
      next.At (done ++ [directive name]) (includes ++ [⟨name, number, some name, system⟩]) ∧
      next.sheet.toList = done ++ [directive name] := by
  cases proper with
  | header whole realName otherName shortBody properBody =>
    let entry : LineMarker := ⟨1, name, "1" :: systemFlags system⟩
    let back : LineMarker := ⟨number + 1, file, "2" :: own⟩
    obtain ⟨placed, directed, held⟩ := Sheet.place_next start.sheet (directive name)
    have named : (!back.isPseudo && isMain back.file) = true := by
      simp [back, LineMarker.isPseudo, real, main]
    have enter : readLine isMain state (LineMarker.render entry) =
        .ok { state with inMain := false, nextLine := 1, pending := some (name, system) } := by
      rw [readLine_render (by simp only [entry]; omega) (isFlag_enter system), otherName,
        Bool.and_false,
        follow_enter start.inMain (by simp [entry, LineMarker.isPseudo, realName]) rfl]
      cases system <;> rfl
    obtain ⟨left, ran⟩ : ∃ left, inside.foldlM (readLine isMain)
        { state with inMain := false, nextLine := 1, pending := some (name, system) } =
          .ok { state with
            inMain := false, nextLine := left, pending := some (name, system) } :=
      foldlM_foreign entered otherName (isFlag_inner marked) properBody shortBody rfl
    have leave : readLine isMain
        { state with inMain := false, nextLine := left, pending := some (name, system) }
        (LineMarker.render back) =
          .ok { state with
            sheet := placed
            includes := state.includes ++ [⟨name, number, some name, system⟩]
            inMain := true, nextLine := number + 1, pending := none } := by
      rw [readLine_render short (isFlag_return flags), named,
        follow_return rfl rfl (by simp only [back]; omega) (by simpa [back, place] using directed)]
      simp [back]
    refine ⟨{ state with
      sheet := placed
      includes := state.includes ++ [⟨name, number, some name, system⟩]
      inMain := true, nextLine := number + 1, pending := none }, ?_, ?_, held⟩
    · rw [foldlM_cons_of_ok enter, foldlM_append_of_ok ran, foldlM_cons_of_ok leave]
    · exact
        { inMain := rfl
          pending := rfl
          nextLine := by simp [place]
          sheet := ⟨0, by simp [held]⟩
          includes := by simp [start.includes] }

private theorem includesFrom_blanks (number count : Nat) (rest : List SourceItem) :
    SourceItem.includesFrom number (List.replicate count (.content "") ++ rest) =
      SourceItem.includesFrom (number + count) rest := by
  induction count generalizing number with
  | zero => rfl
  | succ count ih =>
    rw [List.replicate_succ, List.cons_append, SourceItem.includesFrom, ih, Nat.add_right_comm]
    rfl

/-- The lines of the main file become its items, each on its own line. -/
theorem foldlM_main {items : List SourceItem} {lines : List String}
    (rendering : Rendering file own number items lines)
    (main : isMain file = true) (real : file.toList.head? ≠ some '<')
    (flags : ∀ flag ∈ own, LineMarker.IsFlag flag)
    (proper : ∀ item ∈ items, item.IsProper isMain)
    (short : number + items.length < Text.unreadable) (start : state.At done includes)
    (place : number = done.length + 1) (full : items = [] → state.sheet.toList = done) :
    ∃ final, lines.foldlM (readLine isMain) state = .ok final ∧
      final.sheet.toList = done ++ items.map SourceItem.line ∧
      final.includes = includes ++ SourceItem.includesFrom number items := by
  induction rendering generalizing state done includes with
  | nil =>
    refine ⟨state, rfl, ?_, ?_⟩
    · rw [full rfl, List.map_nil, List.append_nil]
    · rw [start.includes, SourceItem.includesFrom, List.append_nil]
  | content text more ih =>
    simp only [List.length_cons] at short
    cases proper _ (List.mem_cons_self) with
    | content whole plain =>
      obtain ⟨next, step, there, held⟩ := readLine_content isMain plain start
      obtain ⟨final, ran, sheet, found⟩ := ih main real flags
        (fun item member => proper item (List.mem_cons_of_mem _ member)) (by omega) there
        (by simp [place]) (fun _ => held)
      refine ⟨final, ?_, ?_, found⟩
      · rw [foldlM_cons_of_ok step, ran]
      · simp [sheet, SourceItem.line]
  | blanks count followed more ih =>
    simp only [List.length_append, List.length_replicate] at short
    obtain ⟨next, step, there⟩ := readLine_blanks main real flags start place count (by omega)
    obtain ⟨final, ran, sheet, found⟩ := ih main real flags
      (fun item member => proper item (List.mem_append_right _ member)) (by omega) there
      (by simp [place]; omega) (fun empty => absurd empty followed)
    refine ⟨final, ?_, ?_, ?_⟩
    · rw [foldlM_cons_of_ok step, ran]
    · simp [sheet, SourceItem.line]
    · rw [found, includesFrom_blanks]
  | header marked entered more _ ih =>
    simp only [List.length_cons] at short
    obtain ⟨next, step, there, held⟩ := foldlM_header marked entered (proper _ (List.mem_cons_self))
      main real flags start place (by omega) _
    obtain ⟨final, ran, sheet, found⟩ := ih main real flags
      (fun item member => proper item (List.mem_cons_of_mem _ member)) (by omega) there
      (by simp [place]) (fun _ => held)
    refine ⟨final, ?_, ?_, ?_⟩
    · rw [step, ran]
    · simp [sheet, SourceItem.line]
    · simp [found, SourceItem.includesFrom, SourceItem.include?]

/-- A line that is no marker, or one of a pseudo file. -/
def IsAside (line : String) : Prop :=
  Text.IsLine line ∧
    ∃ found, LineMarker.read line = .ok found ∧ ∀ marker ∈ found, marker.isPseudo = true

/-- Lines that a preprocessor may write before those of `file`: none, or those of a detour to the
definitions that are built in. -/
inductive Detour (file : String) : List String → Prop where
  | none : Detour file []
  | builtIn {lines : List String} (aside : ∀ line ∈ lines, IsAside line) :
      Detour file (LineMarker.render ⟨1, "<built-in>", ["1"]⟩ ::
        (lines ++ [LineMarker.render ⟨1, file, ["2"]⟩]))

theorem foldlM_aside {lines : List String} (aside : ∀ line ∈ lines, IsAside line)
    (outside : state.inMain = false) :
    ∃ next, lines.foldlM (readLine isMain) state = .ok { state with nextLine := next } := by
  induction lines generalizing state with
  | nil => exact ⟨state.nextLine, rfl⟩
  | cons line lines ih =>
    have asideRest : ∀ line ∈ lines, IsAside line :=
      fun line member => aside line (by simp [member])
    obtain ⟨_, found, read, pseudo⟩ := aside line (by simp)
    cases found with
    | none =>
      have step : readLine isMain state line = .ok state := by
        rw [readLine, read]
        simp [bind, Except.bind, outside, pure, Except.pure]
      rw [foldlM_cons_of_ok step]
      exact ih asideRest outside
    | some marker =>
      have step : readLine isMain state line = .ok { state with nextLine := marker.line } := by
        rw [readLine, read]
        simp only [bind, Except.bind, pseudo marker rfl, Bool.not_true, Bool.false_and]
        rw [follow_idle (by simp) (by simp [outside]), ← outside]
      rw [foldlM_cons_of_ok step]
      exact ih asideRest outside

theorem foldlM_detour {file : String} {detour : List String} (aside : Detour file detour)
    (main : isMain file = true) (real : file.toList.head? ≠ some '<')
    (start : state.At [] []) (empty : state.sheet.toList = []) :
    ∃ next, detour.foldlM (readLine isMain) state = .ok next ∧ next.At [] [] ∧
      next.sheet.toList = [] := by
  have first : 1 < Text.unreadable := Text.lt_unreadable (by decide)
  cases aside with
  | none => exact ⟨state, rfl, start, empty⟩
  | @builtIn lines aside =>
    have leave : readLine isMain state (LineMarker.render ⟨1, "<built-in>", ["1"]⟩) =
        .ok { state with inMain := false, nextLine := 1 } := by
      rw [readLine_render first (isFlag_enter false)]
      exact follow_idle (fun main => by cases main) (fun _ _ => rfl)
    obtain ⟨place, ran⟩ : ∃ place, lines.foldlM (readLine isMain)
        { state with inMain := false, nextLine := 1 } =
          .ok { state with inMain := false, nextLine := place } := foldlM_aside aside rfl
    have named : (!LineMarker.isPseudo ⟨1, file, ["2"]⟩ && isMain file) = true := by
      simp [LineMarker.isPseudo, real, main]
    have back : readLine isMain { state with inMain := false, nextLine := place }
        (LineMarker.render ⟨1, file, ["2"]⟩) =
          .ok { state with inMain := true, nextLine := 1 } := by
      rw [readLine_render first (isFlag_return (by simp)), named]
      exact follow_idle (fun _ => start.pending) (fun _ other => by cases other)
    refine ⟨{ state with inMain := true, nextLine := 1 }, ?_, ?_, empty⟩
    · rw [foldlM_cons_of_ok leave, foldlM_append_of_ok ran, foldlM_cons_of_ok back]
      rfl
    · exact
        { inMain := rfl
          pending := start.pending
          nextLine := rfl
          sheet := start.sheet
          includes := start.includes }

theorem isLine_of_rendering {file : String} {own : List String} {number : Nat}
    {items : List SourceItem} {lines : List String}
    (rendering : Rendering file own number items lines) (whole : Text.IsLine file)
    (flags : ∀ flag ∈ own, LineMarker.IsFlag flag)
    (proper : ∀ item ∈ items, item.IsProper isMain) : ∀ line ∈ lines, Text.IsLine line := by
  induction rendering with
  | nil => simp
  | content text more ih =>
    cases proper _ (List.mem_cons_self) with
    | content wholeText plain =>
      exact List.forall_mem_cons.mpr ⟨wholeText,
        ih whole flags fun item member => proper item (List.mem_cons_of_mem _ member)⟩
  | blanks count followed more ih =>
    exact List.forall_mem_cons.mpr ⟨LineMarker.isLine_render whole flags,
      ih whole flags fun item member => proper item (List.mem_append_right _ member)⟩
  | @header file own number rest lines name system body inner inside marked entered more ihInside
      ihMore =>
    cases proper _ (List.mem_cons_self) with
    | header wholeName real other short properBody =>
      refine List.forall_mem_cons.mpr ⟨LineMarker.isLine_render wholeName (isFlag_enter system), ?_⟩
      refine List.forall_mem_append.mpr ⟨ihInside wholeName (isFlag_inner marked) properBody, ?_⟩
      exact List.forall_mem_cons.mpr ⟨LineMarker.isLine_render whole (isFlag_return flags),
        ihMore whole flags fun item member => proper item (List.mem_cons_of_mem _ member)⟩

theorem isLine_of_detour {file : String} {detour : List String}
    (aside : Detour file detour) (whole : Text.IsLine file) :
    ∀ line ∈ detour, Text.IsLine line := by
  cases aside with
  | none => simp
  | builtIn aside =>
    refine List.forall_mem_cons.mpr ⟨LineMarker.isLine_render (by decide) (isFlag_enter false), ?_⟩
    refine List.forall_mem_append.mpr ⟨fun line member => (aside line member).1, ?_⟩
    exact List.forall_mem_cons.mpr ⟨LineMarker.isLine_render whole (isFlag_return (by simp)),
      by simp⟩

/-- What a preprocessor prints of a file, before which it may enter others that are no real ones. -/
inductive Printed (path : String) (items : List SourceItem) : String → Prop where
  | lines {before detour body : List String} (foreign : ∀ line ∈ before, IsAside line)
      (aside : Detour path detour) (rendering : Rendering path [] 1 items body) :
      Printed path items
        (Text.joinLines (before ++ LineMarker.render ⟨1, path, []⟩ :: (detour ++ body)))

theorem Printed.of_eq {path : String} {items : List SourceItem} {given lines : List String}
    (printed : Printed path items (Text.joinLines given)) (same : given = lines) :
    Printed path items (Text.joinLines lines) :=
  same ▸ printed

/-- The main file is taken from what is printed of it. -/
theorem ofOutput_of_printed {currentDirectory path output : String} (whole : Text.IsLine path)
    (real : path.toList.head? ≠ some '<') {items : List SourceItem}
    (proper : ∀ item ∈ items, item.IsProper (Path.sameFile currentDirectory · path))
    (short : 1 + items.length < Text.unreadable) (printed : Printed path items output) :
    ∃ file, ofOutput currentDirectory output path = .ok file ∧
      file.source = Text.joinLines (items.map SourceItem.line) ∧
      file.includes = SourceItem.includesFrom 1 items := by
  let isMain : String → Bool := (Path.sameFile currentDirectory · path)
  have main : isMain path = true := beq_self_eq_true _
  have named : (!LineMarker.isPseudo ⟨1, path, []⟩ && isMain path) = true := by
    simp [LineMarker.isPseudo, real, main]
  cases printed with
  | @lines before detour body foreign aside rendering =>
    obtain ⟨place, passed⟩ : ∃ place,
        before.foldlM (readLine isMain) {} = .ok { nextLine := place } := foldlM_aside foreign rfl
    have begin : readLine isMain { nextLine := place } (LineMarker.render ⟨1, path, []⟩) =
        .ok { inMain := true } := by
      rw [readLine_render (by simp only; omega) (by simp), named]
      exact follow_idle (fun _ => rfl) (fun _ other => by cases other)
    have start : At { inMain := true } [] [] := ⟨rfl, rfl, rfl, ⟨0, rfl⟩, rfl⟩
    obtain ⟨ready, detoured, still, empty⟩ := foldlM_detour aside main real start rfl
    obtain ⟨final, ran, sheet, includes⟩ :=
      foldlM_main rendering main real (by simp) proper short still rfl (fun _ => empty)
    have inside : ∀ line ∈ LineMarker.render ⟨1, path, []⟩ :: (detour ++ body), Text.IsLine line :=
      List.forall_mem_cons.mpr ⟨LineMarker.isLine_render whole (by simp),
        List.forall_mem_append.mpr ⟨isLine_of_detour aside whole,
          isLine_of_rendering rendering whole (by simp) proper⟩⟩
    have each := List.forall_mem_append.mpr ⟨fun line member => (foreign line member).1, inside⟩
    refine ⟨final, ?_, ?_, ?_⟩
    · rw [ofOutput, Text.linesOf_joinLines (by simp) each, ofLines, foldlM_append_of_ok passed,
        foldlM_cons_of_ok begin, foldlM_append_of_ok detoured, ran]
    · rw [source, sheet, List.nil_append]
    · rw [includes, List.nil_append]

theorem rendering_content (file : String) (number : Nat) (lines : List String) :
    Rendering file [] number (lines.map .content) lines := by
  induction lines generalizing number with
  | nil => exact .nil
  | cons line rest ih => exact .content line (ih (number + 1))

theorem ofOutput_of_lines {currentDirectory path output : String} (whole : Text.IsLine path)
    (real : path.toList.head? ≠ some '<') {lines : List String}
    (plain : ∀ line ∈ lines, Text.IsLine line ∧ LineMarker.scan? line.toList = none)
    (short : 1 + lines.length < Text.unreadable)
    (printed : Printed path (lines.map .content) output) :
    ∃ file, ofOutput currentDirectory output path = .ok file ∧
      file.source = Text.joinLines lines := by
  have proper : ∀ item ∈ lines.map SourceItem.content,
      item.IsProper (Path.sameFile currentDirectory · path) := by
    intro item member
    obtain ⟨line, inside, rfl⟩ := List.mem_map.mp member
    exact .content (plain line inside).1 (plain line inside).2
  have asLines : (lines.map SourceItem.content).map SourceItem.line = lines := by
    simp [SourceItem.line, Function.comp_def]
  obtain ⟨file, read, source, -⟩ := ofOutput_of_printed whole real proper
    (by rwa [List.length_map]) printed
  exact ⟨file, read, by rw [source, asLines]⟩

/-- The main file is taken from the output of a preprocessor as it was: every line of text on its
own line, and a directive with an include on the line of every header. -/
theorem ofOutput_rendering {currentDirectory path : String} (whole : Text.IsLine path)
    (real : path.toList.head? ≠ some '<') {items : List SourceItem}
    (proper : ∀ item ∈ items, item.IsProper (Path.sameFile currentDirectory · path))
    (short : 1 + items.length < Text.unreadable) {detour body : List String}
    (aside : Detour path detour) (rendering : Rendering path [] 1 items body) :
    ∃ file,
      ofOutput currentDirectory
        (Text.joinLines (LineMarker.render ⟨1, path, []⟩ :: (detour ++ body))) path = .ok file ∧
      file.source = Text.joinLines (items.map SourceItem.line) ∧
      file.includes = SourceItem.includesFrom 1 items := by
  let isMain : String → Bool := (Path.sameFile currentDirectory · path)
  have main : isMain path = true := beq_self_eq_true _
  have named : (!LineMarker.isPseudo ⟨1, path, []⟩ && isMain path) = true := by
    simp [LineMarker.isPseudo, real, main]
  have begin : readLine isMain {} (LineMarker.render ⟨1, path, []⟩) = .ok { inMain := true } := by
    rw [readLine_render (by simp only; omega) (by simp), named]
    exact follow_idle (fun _ => rfl) (fun _ other => by cases other)
  have start : At { inMain := true } [] [] := ⟨rfl, rfl, rfl, ⟨0, rfl⟩, rfl⟩
  obtain ⟨ready, detoured, still, empty⟩ := foldlM_detour aside main real start rfl
  obtain ⟨final, ran, sheet, includes⟩ :=
    foldlM_main rendering main real (by simp) proper short still rfl (fun _ => empty)
  have lines : ∀ line ∈ LineMarker.render ⟨1, path, []⟩ :: (detour ++ body), Text.IsLine line :=
    List.forall_mem_cons.mpr ⟨LineMarker.isLine_render whole (by simp),
      List.forall_mem_append.mpr ⟨isLine_of_detour aside whole,
        isLine_of_rendering rendering whole (by simp) proper⟩⟩
  refine ⟨final, ?_, ?_, ?_⟩
  · rw [ofOutput, Text.linesOf_joinLines (by simp) lines, ofLines, foldlM_cons_of_ok begin,
      foldlM_append_of_ok detoured, ran]
  · rw [source, sheet, List.nil_append]
  · rw [includes, List.nil_append]

end MainFile

/-- A file with a nested header, a name with quotes, and blank lines. -/
def SourceItem.sample : List SourceItem :=
  [.content "// first",
    .header "/src/a \"b\".hpp" true
      [.content "int a;", .header "/src/c.hpp" false [.content "int c;"]],
    .content "", .content "", .content "int main();"]

theorem SourceItem.sample_isProper :
    ∀ item ∈ sample, item.IsProper (Path.sameFile "/src" · "a.cpp") := by
  have inner : IsProper (Path.sameFile "/src" · "a.cpp")
      (.header "/src/c.hpp" false [.content "int c;"]) := by
    refine .header (by decide) (by decide) (by decide) (Text.lt_unreadable (by decide)) ?_
    simpa using .content (by decide) (by decide)
  have outer : IsProper (Path.sameFile "/src" · "a.cpp")
      (.header "/src/a \"b\".hpp" true
        [.content "int a;", .header "/src/c.hpp" false [.content "int c;"]]) := by
    refine .header (by decide) (by decide) (by decide) (Text.lt_unreadable (by decide)) ?_
    simpa using ⟨.content (by decide) (by decide), inner⟩
  simp only [sample, List.forall_mem_cons]
  exact ⟨.content (by decide) (by decide), outer, .content (by decide) (by decide),
    .content (by decide) (by decide), .content (by decide) (by decide), by simp⟩

theorem MainFile.ofOutput_rendering_sample :
    ∃ file,
      ofOutput "/src" (Text.joinLines
        ["# 1 \"a.cpp\"", "# 1 \"<built-in>\" 1", "#define x 1", "# 1 \"a.cpp\" 2", "// first",
          "# 1 \"/src/a \\\"b\\\".hpp\" 1 3", "int a;", "# 1 \"/src/c.hpp\" 1", "int c;",
          "# 3 \"/src/a \\\"b\\\".hpp\" 2 3", "# 3 \"a.cpp\" 2", "# 5 \"a.cpp\"", "int main();"])
        "a.cpp" = .ok file ∧
      file.source = "// first\n#include \"/src/a \"b\".hpp\"\n\n\nint main();\n" ∧
      file.includes =
        [⟨"/src/a \"b\".hpp", 2, some "/src/a \"b\".hpp", true⟩] := by
  have short : 1 + SourceItem.sample.length < Text.unreadable := Text.lt_unreadable (by decide)
  have body : Rendering "a.cpp" [] 1 SourceItem.sample _ :=
    .content _ (.header (Or.inr rfl)
      (.content _ (.header (Or.inl rfl) (.content _ .nil) .nil))
      (.blanks 2 (by simp) (.content _ .nil)))
  have aside : ∀ line ∈ ["#define x 1"], IsAside line := by
    simpa using ⟨by decide, none, rfl, by simp⟩
  obtain ⟨file, read, source, includes⟩ := ofOutput_rendering (by decide) (by decide)
    SourceItem.sample_isProper short (.builtIn aside) body
  exact ⟨file,
    (congrArg (fun lines => ofOutput "/src" (Text.joinLines lines) "a.cpp") (by decide)).trans read,
    source.trans (by decide), includes.trans (by decide)⟩

end UnitLift
