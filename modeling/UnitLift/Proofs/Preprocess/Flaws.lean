import UnitLift.Preprocess.MainFile
import UnitLift.Preprocess.Placeholder

/-! Which texts preprocessing trips over: a number with more digits than can be read, a line that
goes before the first one, and a placeholder that stands for no directive. For each reader, the
texts are named that it fails on, with the fault that they cause. -/

namespace UnitLift

private theorem map_eq_error_iff {α β ε : Type} {result : Except ε α} {change : α → β} {cause : ε} :
    result.map change = .error cause ↔ result = .error cause := by
  cases result with
  | error other => simp [Except.map]
  | ok value => simp [Except.map]

private theorem foldlM_eq_error_iff {α β ε : Type} {step : β → α → Except ε β} {start : β}
    {items : List α} {cause : ε} :
    items.foldlM step start = .error cause ↔
      ∃ before item after state, items = before ++ item :: after ∧
        before.foldlM step start = .ok state ∧ step state item = .error cause := by
  induction items generalizing start with
  | nil => simp [pure, Except.pure]
  | cons first rest ih =>
    rw [List.foldlM_cons]
    cases stepped : step start first with
    | error other =>
      constructor
      · intro stops
        exact ⟨[], first, rest, start, rfl, rfl, stepped.trans stops⟩
      · rintro ⟨before, item, after, state, split, ran, stops⟩
        cases before with
        | nil =>
          cases split
          cases ran
          exact stepped.symm.trans stops
        | cons head before =>
          cases split
          rw [List.foldlM_cons, stepped] at ran
          cases ran
    | ok next =>
      refine ih.trans ⟨?_, ?_⟩
      · rintro ⟨before, item, after, state, rfl, ran, stops⟩
        refine ⟨first :: before, item, after, state, rfl, ?_, stops⟩
        rw [List.foldlM_cons, stepped]
        exact ran
      · rintro ⟨before, item, after, state, split, ran, stops⟩
        cases before with
        | nil =>
          cases split
          cases ran
          cases stepped.symm.trans stops
        | cons head before =>
          cases split
          rw [List.foldlM_cons, stepped] at ran
          exact ⟨before, item, after, state, rfl, ran, stops⟩

namespace LineMarker

variable {line : String} {fault : Fault}

/-- The line is a marker with more digits than can be read. -/
def Overlong (line : String) : Prop :=
  ∃ spelling, scan? line.toList = some spelling ∧ Text.readDigits? spelling.numeral = none

theorem read_eq_error_iff : read line = .error fault ↔ Overlong line ∧ fault = .numeralTooLong := by
  rw [read, Overlong]
  cases scan? line.toList with
  | none => simp
  | some spelling =>
    cases digits : Text.readDigits? spelling.numeral with
    | none => simp [digits, eq_comm]
    | some number => simp [digits]

theorem read_eq_none_iff : read line = .ok none ↔ scan? line.toList = none := by
  rw [read]
  cases scan? line.toList with
  | none => simp
  | some spelling =>
    cases digits : Text.readDigits? spelling.numeral with
    | none => simp [digits]
    | some number => simp [digits]

end LineMarker

/-- There is a place for each text but the one that goes before the first line of all. -/
theorem Sheet.place_eq_error_iff {sheet : Sheet} {number : Nat} {text : String} {fault : Fault} :
    sheet.place number text = .error fault ↔
      number = 0 ∧ sheet = #[] ∧ fault = .noLineBefore := by
  rw [place]
  cases number with
  | zero =>
    simp only [Nat.zero_le, ↓reduceIte, beq_self_eq_true]
    by_cases blank : sheet = #[]
    · subst blank
      simp [eq_comm]
    · have last : sheet.size - 1 < sheet.size := by
        have size := Array.size_pos_iff.mpr blank
        omega
      simp [blank, last]
  | succ number =>
    simp only [Nat.add_sub_cancel, Nat.add_eq_zero_iff, Nat.succ_ne_self, and_false, false_and,
      iff_false]
    split
    · rename_i inside
      simp [Array.getElem?_eq_getElem inside]
    · simp

namespace MainFile

variable {isMain : String → Bool} {file : MainFile} {line : String} {lines : List String}
  {fault : Fault}

/-- A directive is only placed on a line from the first one on. -/
theorem follow_ne_error (file : MainFile) (main : Bool) (marker : LineMarker) (fault : Fault) :
    file.follow main marker ≠ .error fault := by
  rw [follow]
  split
  · simp
  · cases file.pending with
    | none => simp
    | some entered =>
      simp only
      split
      · rename_i returns
        have later : 1 < marker.line := by simp_all
        intro stops
        cases placed : file.sheet.place (marker.line - 1) (directive entered.1) with
        | error cause =>
          have first := (Sheet.place_eq_error_iff.mp placed).1
          omega
        | ok sheet =>
          rw [placed] at stops
          cases stops
      · simp

private theorem readLine_of_plain (plain : LineMarker.scan? line.toList = none) :
    file.readLine isMain line =
      if file.inMain then
        (file.sheet.place file.nextLine line).map fun sheet =>
          { file with sheet, nextLine := file.nextLine + 1 }
      else .ok file := by
  rw [readLine, LineMarker.read_eq_none_iff.mpr plain]
  cases file.inMain with
  | false => rfl
  | true =>
    cases file.sheet.place file.nextLine line with
    | error cause => rfl
    | ok sheet => rfl

theorem readLine_eq_error_iff : file.readLine isMain line = .error fault ↔
    (LineMarker.Overlong line ∧ fault = .numeralTooLong) ∨
      (LineMarker.scan? line.toList = none ∧ file.inMain = true ∧ file.nextLine = 0 ∧
        file.sheet = #[] ∧ fault = .noLineBefore) := by
  cases found : LineMarker.read line with
  | error cause =>
    obtain ⟨overlong, rfl⟩ := LineMarker.read_eq_error_iff.mp found
    have marked : LineMarker.scan? line.toList ≠ none := by
      obtain ⟨spelling, scanned, -⟩ := overlong
      simp [scanned]
    have stops : file.readLine isMain line = .error .numeralTooLong := by
      rw [readLine, found]
      rfl
    rw [stops, Except.error.injEq, eq_comm]
    simp [overlong, marked]
  | ok marker? =>
    have short : ¬LineMarker.Overlong line := by
      intro overlong
      cases found.symm.trans (LineMarker.read_eq_error_iff.mpr ⟨overlong, rfl⟩)
    cases marker? with
    | some marker =>
      have marked : LineMarker.scan? line.toList ≠ none := by
        intro plain
        cases found.symm.trans (LineMarker.read_eq_none_iff.mpr plain)
      have follows : file.readLine isMain line =
          file.follow (!marker.isPseudo && isMain marker.file) marker := by
        rw [readLine, found]
        rfl
      simp [follows, follow_ne_error, short, marked]
    | none =>
      have plain := LineMarker.read_eq_none_iff.mp found
      rw [readLine_of_plain plain]
      cases inMain : file.inMain with
      | false => simp [short]
      | true =>
        simp [map_eq_error_iff, Sheet.place_eq_error_iff, short, plain]

/-- Lines of output that the main file cannot be put together from. -/
inductive Flawed (isMain : String → Bool) (lines : List String) : Fault → Prop
  | overlong {before after : List String} {line : String} {file : MainFile}
      (split : lines = before ++ line :: after) (read : ofLines isMain before = .ok file)
      (overlong : LineMarker.Overlong line) : Flawed isMain lines .numeralTooLong
  /-- A line of the main file is said to be the one before the first, and there is none yet. -/
  | above {before after : List String} {line : String} {file : MainFile}
      (split : lines = before ++ line :: after) (read : ofLines isMain before = .ok file)
      (plain : LineMarker.scan? line.toList = none) (inMain : file.inMain = true)
      (above : file.nextLine = 0) (blank : file.sheet = #[]) : Flawed isMain lines .noLineBefore

theorem ofLines_eq_error_iff : ofLines isMain lines = .error fault ↔ Flawed isMain lines fault := by
  rw [ofLines, foldlM_eq_error_iff]
  constructor
  · rintro ⟨before, line, after, file, split, read, stops⟩
    rcases readLine_eq_error_iff.mp stops with ⟨overlong, rfl⟩ | ⟨plain, inMain, above, blank, rfl⟩
    · exact .overlong split read overlong
    · exact .above split read plain inMain above blank
  · intro flawed
    cases flawed with
    | overlong split read overlong =>
      exact ⟨_, _, _, _, split, read, readLine_eq_error_iff.mpr (.inl ⟨overlong, rfl⟩)⟩
    | above split read plain inMain above blank =>
      exact ⟨_, _, _, _, split, read,
        readLine_eq_error_iff.mpr (.inr ⟨plain, inMain, above, blank, rfl⟩)⟩

end MainFile

namespace HiddenDirective

variable {hidden : List HiddenDirective} {lines : List String} {line : String} {fault : Fault}

theorem reveal_eq_error_iff : reveal hidden line = .error fault ↔
    ∃ numeral, placeholderNumeral? line.toList = some numeral ∧
      ((Text.readDigits? numeral = none ∧ fault = .numeralTooLong) ∨
        ∃ number, Text.readDigits? numeral = some number ∧ hidden.length ≤ number ∧
          fault = .unknownPlaceholder) := by
  rw [reveal]
  cases placeholderNumeral? line.toList with
  | none => simp
  | some numeral =>
    cases digits : Text.readDigits? numeral with
    | none => simp [digits, eq_comm]
    | some number =>
      cases known : hidden[number]? with
      | none => simp [digits, List.getElem?_eq_none_iff.mp known, eq_comm]
      | some directive =>
        have inside : ¬hidden.length ≤ number :=
          Nat.not_le.mpr (List.getElem?_eq_some_iff.mp known).1
        simp [digits, known, inside]

private theorem restore_cons_of_error (revealed : reveal hidden line = .error fault)
    (rest : List String) : restore hidden (line :: rest) = .error fault := by
  rw [restore, revealed]
  rfl

/-- Whatever a line stands for, the lines after it are what may still go wrong. -/
private theorem restore_cons_of_ok {found : Option HiddenDirective}
    (revealed : reveal hidden line = .ok found) (rest : List String) :
    restore hidden (line :: rest) = (restore hidden rest).map fun (lines, includes) =>
      ((found.map HiddenDirective.text).getD line :: lines,
        (found.map HiddenDirective.directive).toList ++ includes) := by
  rw [restore, revealed]
  cases found with
  | none =>
    cases restore hidden rest with
    | error cause => rfl
    | ok restored => rfl
  | some directive =>
    cases restore hidden rest with
    | error cause => rfl
    | ok restored => rfl

private theorem restore_eq_error_iff_reveal : restore hidden lines = .error fault ↔
    ∃ before line after restored, lines = before ++ line :: after ∧
      restore hidden before = .ok restored ∧ reveal hidden line = .error fault := by
  induction lines with
  | nil => simp [restore]
  | cons first rest ih =>
    cases revealed : reveal hidden first with
    | error cause =>
      rw [restore_cons_of_error revealed]
      constructor
      · intro stops
        cases stops
        exact ⟨[], first, rest, _, rfl, rfl, revealed⟩
      · rintro ⟨before, line, after, restored, split, read, stops⟩
        cases before with
        | nil =>
          cases split
          cases revealed.symm.trans stops
          rfl
        | cons head before =>
          cases split
          cases (restore_cons_of_error revealed before).symm.trans read
    | ok found =>
      rw [restore_cons_of_ok revealed, map_eq_error_iff, ih]
      constructor
      · rintro ⟨before, line, after, restored, rfl, read, stops⟩
        have ran := restore_cons_of_ok revealed before
        rw [read] at ran
        exact ⟨first :: before, line, after, _, rfl, ran, stops⟩
      · rintro ⟨before, line, after, restored, split, read, stops⟩
        cases before with
        | nil =>
          cases split
          cases revealed.symm.trans stops
        | cons head before =>
          cases split
          rw [restore_cons_of_ok revealed] at read
          cases earlier : restore hidden before with
          | error cause => simp [earlier, Except.map] at read
          | ok restored => exact ⟨before, line, after, restored, rfl, earlier, stops⟩

/-- Lines with a placeholder that stands for none of the hidden directives. -/
inductive Misplaced (hidden : List HiddenDirective) (lines : List String) : Fault → Prop
  | overlong {before after : List String} {line : String} {numeral : List Char}
      {restored : List String × List Include} (split : lines = before ++ line :: after)
      (read : restore hidden before = .ok restored)
      (placeholder : placeholderNumeral? line.toList = some numeral)
      (overlong : Text.readDigits? numeral = none) : Misplaced hidden lines .numeralTooLong
  | unknown {before after : List String} {line : String} {numeral : List Char} {number : Nat}
      {restored : List String × List Include} (split : lines = before ++ line :: after)
      (read : restore hidden before = .ok restored)
      (placeholder : placeholderNumeral? line.toList = some numeral)
      (digits : Text.readDigits? numeral = some number) (unknown : hidden.length ≤ number) :
      Misplaced hidden lines .unknownPlaceholder

theorem restore_eq_error_iff : restore hidden lines = .error fault ↔ Misplaced hidden lines fault := by
  rw [restore_eq_error_iff_reveal]
  constructor
  · rintro ⟨before, line, after, restored, split, read, stops⟩
    obtain ⟨numeral, placeholder, ⟨overlong, rfl⟩ | ⟨number, digits, unknown, rfl⟩⟩ :=
      reveal_eq_error_iff.mp stops
    · exact .overlong split read placeholder overlong
    · exact .unknown split read placeholder digits unknown
  · intro misplaced
    cases misplaced with
    | overlong split read placeholder overlong =>
      exact ⟨_, _, _, _, split, read,
        reveal_eq_error_iff.mpr ⟨_, placeholder, .inl ⟨overlong, rfl⟩⟩⟩
    | unknown split read placeholder digits unknown =>
      exact ⟨_, _, _, _, split, read,
        reveal_eq_error_iff.mpr ⟨_, placeholder, .inr ⟨_, digits, unknown, rfl⟩⟩⟩

end HiddenDirective

end UnitLift
