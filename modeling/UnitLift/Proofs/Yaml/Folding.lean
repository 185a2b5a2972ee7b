import Mathlib.Tactic.Tauto
import UnitLift.Yaml.Plain
import UnitLift.Yaml.QuotedText
import UnitLift.Yaml.WrittenScalar

namespace UnitLift.Yaml

/-- A character that is written as it is and ends no line. -/
def IsOrdinary (c : Char) : Prop := 32 ≤ c.toNat ∧ c.toNat ≤ 126

instance : DecidablePred IsOrdinary := fun c =>
  inferInstanceAs (Decidable (32 ≤ c.toNat ∧ c.toNat ≤ 126))

namespace IsOrdinary

variable {c : Char}

theorem of_isOrdinary (ordinary : TextTraits.isOrdinary c = true) (inLine : c ≠ '\n') :
    IsOrdinary c := by
  have range : ' ' ≤ c ∧ c ≤ '~' := by simpa [TextTraits.isOrdinary, inLine] using ordinary
  exact range

/-- What holds of each of the ordinary characters holds of all. -/
theorem all (property : Char → Prop)
    (each : ∀ code < 127, 32 ≤ code → property (Char.ofNat code)) (ordinary : IsOrdinary c) :
    property c := by
  have given := each c.toNat (by have := ordinary.2; omega) ordinary.1
  rwa [Char.ofNat_toNat] at given

theorem isBreak_eq (ordinary : IsOrdinary c) : isBreak c = false := by
  refine all (fun c => isBreak c = false) ?_ ordinary
  decide

theorem isBlank_eq (ordinary : IsOrdinary c) : isBlank c = (c == ' ') := by
  refine all (fun c => isBlank c = (c == ' ')) ?_ ordinary
  decide

theorem takeBreak?_cons (ordinary : IsOrdinary c) (rest : List Char) :
    takeBreak? (c :: rest) = none := by
  have notBreak := ordinary.isBreak_eq
  simp only [isBreak, Bool.or_eq_false_iff, beq_eq_false_iff_ne] at notBreak
  simp [takeBreak?, notBreak]

end IsOrdinary

theorem startsMarker_of_ne {c : Char} (noDash : c ≠ '-') (noPoint : c ≠ '.')
    (rest : List Char) : startsMarker (c :: rest) = false := by
  match rest with
  | [] => rfl
  | [_] => rfl
  | _ :: _ :: _ => simp [startsMarker, noDash, noPoint]

theorem startsMarker_space (rest : List Char) : startsMarker (' ' :: rest) = false :=
  startsMarker_of_ne (by decide) (by decide) rest

/-- A space that follows spaces is one more of them. -/
theorem replicate_append_space (count : Nat) (rest : List Char) :
    List.replicate count ' ' ++ ' ' :: rest = List.replicate (count + 1) ' ' ++ rest := by
  rw [List.replicate_succ', List.append_assoc]
  rfl

/-- No sign stands inside a text if its first character is none and there is none behind it. -/
theorem hasInnerSign_cons_eq_false {before c : Char} {rest : List Char} :
    TextTraits.hasInnerSign before (c :: rest) = false ↔
      (c = ':' → startsBlank rest = false) ∧ (c = '#' → startsBlank [before] = false) ∧
        TextTraits.hasInnerSign c rest = false := by
  rw [TextTraits.hasInnerSign]
  simp only [Bool.or_eq_false_iff, Bool.and_eq_false_imp, beq_iff_eq, and_assoc]

/-- A character of a document as it is written. -/
def IsWritten (c : Char) : Prop := IsOrdinary c ∨ c = '\n'

/-- A text is at its end or goes on with a token. -/
def Starts (text : List Char) : Prop := ∀ c ∈ text.head?, IsOrdinary c ∧ c ≠ ' ' ∧ c ≠ '#'

namespace Starts

variable {text : List Char}

theorem takeBreak?_eq (starts : Starts text) : takeBreak? text = none := by
  cases text with
  | nil => rfl
  | cons c rest => exact (starts c rfl).1.takeBreak?_cons rest

theorem dropWhile_spaces (starts : Starts text) (count : Nat) :
    (List.replicate count ' ' ++ text).dropWhile (· == ' ') = text := by
  rw [List.dropWhile_append_of_pos (by simp)]
  cases text with
  | nil => rfl
  | cons c rest => simp [(starts c rfl).2.1]

theorem head?_ne (starts : Starts text) : text.head? ≠ some '#' := by
  intro hash
  exact (starts '#' hash).2.2 rfl

end Starts

/-- A text as `encode` gives it, with line breaks in the place of some single spaces between words;
`afterWord` says whether a word has come just before. -/
inductive Folded (encode : Char → List Char) (indent : Nat) : Bool → List Char → List Char → Prop
  | nil {afterWord : Bool} : Folded encode indent afterWord [] []
  | kept {afterWord : Bool} {c : Char} {text written : List Char}
      (rest : Folded encode indent (c != ' ') text written) :
      Folded encode indent afterWord (c :: text) (encode c ++ written)
  | broken {c : Char} {text written : List Char} (visible : c ≠ ' ')
      (rest : Folded encode indent false (c :: text) written) :
      Folded encode indent true (' ' :: c :: text)
        ('\n' :: (List.replicate indent ' ' ++ written))

variable {encode : Char → List Char} {indent least : Nat} {afterWord : Bool}
  {text written tail : List Char}

theorem folded_fold (breaking : LineBreaking) (encode : Char → List Char) (column : Nat)
    (whole : '\n' ∉ text) :
    Folded encode breaking.indent afterWord text (breaking.fold encode false column text) := by
  generalize unbroken : false = inRun
  fun_induction LineBreaking.fold breaking encode inRun column text generalizing afterWord with
  | case1 => exact .nil
  | case2 => simp at whole
  | case3 inRun column a b rest =>
    rename_i mayBreak ih
    simp only [Bool.and_eq_true, bne_iff_ne] at mayBreak
    obtain ⟨⟨⟨-, word⟩, visible⟩, -⟩ := mayBreak
    have inside : '\n' ∉ b :: rest := fun member =>
      whole (List.mem_cons_of_mem _ (List.mem_cons_of_mem _ member))
    have follows := Folded.broken visible (ih inside rfl)
    rw [← bne_iff_ne] at word
    simpa using Folded.kept (c := a) (word ▸ follows)
  | case4 inRun column a b rest =>
    rename_i ih
    exact .kept (ih (fun member => whole (List.mem_cons_of_mem _ member)) rfl)
  | case5 inRun column a rest _ _ ih =>
    exact .kept (ih (fun member => whole (List.mem_cons_of_mem _ member)) rfl)

theorem Folded.isWritten (folded : Folded encode indent afterWord text written)
    (ordinary : ∀ c ∈ text, ∀ d ∈ encode c, IsOrdinary d) : ∀ c ∈ written, IsWritten c := by
  induction folded with
  | nil => simp
  | @kept _ c text written _ ih =>
    intro d member
    rcases List.mem_append.mp member with here | after
    · exact .inl (ordinary c (by simp) d here)
    · exact ih (fun c member => ordinary c (List.mem_cons_of_mem _ member)) d after
  | @broken c text written _ _ ih =>
    intro d member
    rcases List.mem_cons.mp member with rfl | member
    · exact .inr rfl
    · rcases List.mem_append.mp member with space | after
      · rw [List.eq_of_mem_replicate space]
        exact .inl (by decide)
      · exact ih (fun c member => ordinary c (List.mem_cons_of_mem _ member)) d after

/-- Where lines may not be broken, each character is written by itself. -/
theorem fold_of_not_allowed {breaking : LineBreaking} (unbroken : breaking.allowed = false)
    (encode : Char → List Char) (column : Nat) (whole : '\n' ∉ text) :
    breaking.fold encode false column text = text.flatMap encode := by
  generalize outside : false = inRun
  fun_induction LineBreaking.fold breaking encode inRun column text with
  | case1 => rfl
  | case2 => simp at whole
  | case3 =>
    rename_i mayBreak _
    simp [unbroken] at mayBreak
  | case4 inRun column a b rest =>
    rename_i ih
    rw [ih (fun member => whole (List.mem_cons_of_mem _ member)) rfl]
    rfl
  | case5 inRun column a rest =>
    rename_i ih
    rw [ih (fun member => whole (List.mem_cons_of_mem _ member)) rfl]
    rfl

/-- The first character of a text stands first if it is no space. -/
theorem Folded.exists_append {c : Char} (visible : c ≠ ' ')
    (folded : Folded encode indent afterWord (c :: text) written) :
    ∃ rest, written = encode c ++ rest := by
  cases folded with
  | kept rest => exact ⟨_, rfl⟩
  | broken => exact absurd rfl visible

theorem Folded.startsBlank_eq (folded : Folded (fun c => [c]) indent afterWord text written)
    (unblank : startsBlank text = false) (tail : List Char) :
    startsBlank (written ++ tail) = false := by
  cases text with
  | nil => cases unblank
  | cons c text =>
    have visible : c ≠ ' ' := by
      rintro rfl
      cases unblank
    obtain ⟨rest, rfl⟩ := folded.exists_append visible
    exact unblank

/-- A character that is written stands for itself unless it is a line break. -/
theorem Folded.of_cons {c : Char} (folded : Folded (fun c => [c]) indent afterWord text (c :: written))
    (unbroken : c ≠ '\n') :
    ∃ rest, text = c :: rest ∧ Folded (fun c => [c]) indent (c != ' ') rest written := by
  generalize start : c :: written = whole at folded
  cases folded with
  | nil => cases start
  | kept rest =>
    cases start
    exact ⟨_, rfl, rest⟩
  | broken =>
    cases start
    exact absurd rfl unbroken

private theorem exists_of_startsMarker (marker : startsMarker text = true) :
    ∃ c rest, text = c :: c :: c :: rest ∧ (c = '-' ∨ c = '.') := by
  unfold startsMarker at marker
  split at marker
  · simp only [Bool.and_eq_true, Bool.or_eq_true, beq_iff_eq] at marker
    obtain ⟨⟨⟨sign, rfl⟩, rfl⟩, -⟩ := marker
    exact ⟨_, _, rfl, sign⟩
  · cases marker

/-- What is written plain does not look like a marker of a document. -/
theorem Folded.startsMarker_eq (folded : Folded (fun c => [c]) indent afterWord text written)
    (noStart : TextTraits.startsWithSign text = false)
    (apart : ∀ c ∈ tail.head?, c ≠ '-' ∧ c ≠ '.') : startsMarker (written ++ tail) = false := by
  rw [Bool.eq_false_iff]
  intro marker
  obtain ⟨c, rest, same, sign⟩ := exists_of_startsMarker marker
  have unbroken : c ≠ '\n' := by
    rintro rfl
    simp at sign
  have outside {rest : List Char} : tail ≠ c :: rest := by
    rintro rfl
    have := apart c rfl
    tauto
  rcases written with _ | ⟨d, written⟩
  · exact outside same
  rcases written with _ | ⟨e, written⟩
  · exact outside (List.cons.inj same).2
  rcases written with _ | ⟨f, written⟩
  · exact outside (List.cons.inj (List.cons.inj same).2).2
  simp only [List.cons_append, List.cons.injEq] at same
  obtain ⟨rfl, rfl, rfl, -⟩ := same
  obtain ⟨_, rfl, afterFirst⟩ := folded.of_cons unbroken
  obtain ⟨_, rfl, afterSecond⟩ := afterFirst.of_cons unbroken
  obtain ⟨_, rfl, -⟩ := afterSecond.of_cons unbroken
  rcases sign with rfl | rfl
  · cases noStart
  · cases noStart

namespace Plain

/-- What follows a plain scalar and ends it. -/
structure Stops (least : Nat) (tail : List Char) : Prop where
  noWord : takeWord false tail = ([], tail)
  ends : (takeGap tail).ends false least = true

/-- A plain scalar that has been read up to what ends it. -/
def closed (text tail : List Char) : Result :=
  ⟨text, (takeGap tail).column.isSome, (takeGap tail).rest⟩

variable {c : Char} {rest : List Char}

private theorem takeWord_cons (ordinary : IsOrdinary c) (visible : c ≠ ' ')
    (unended : c = ':' → startsBlank rest = false) :
    takeWord false (c :: rest) = (c :: (takeWord false rest).1, (takeWord false rest).2) := by
  have goesOn : (c == ':' && colonEnds false rest) = false := by
    by_cases colon : c = ':'
    · simp [colonEnds, unended colon]
    · simp [colon]
  simp [takeWord, ordinary.isBlank_eq, ordinary.isBreak_eq, visible, goesOn]

private theorem readFrom_cons (ordinary : IsOrdinary c) (visible : c ≠ ' ')
    (unended : c = ':' → startsBlank rest = false) (fuel : Nat) :
    readFrom false least (fuel + 1) (c :: rest) =
      { readFrom false least (fuel + 1) rest with
        text := c :: (readFrom false least (fuel + 1) rest).text } := by
  simp only [readFrom, takeWord_cons ordinary visible unended]
  split
  · rfl
  · split
    · rfl
    · rfl

private theorem readFrom_gap {text more : List Char} {column : Option Nat}
    (noWord : takeWord false text = ([], text)) (gap : takeGap text = ⟨more, column, rest⟩)
    (goesOn : Gap.ends false least ⟨more, column, rest⟩ = false) {fuel : Nat}
    (found : (readFrom false least fuel rest).text ≠ []) :
    readFrom false least (fuel + 1) text =
      { readFrom false least fuel rest with text := more ++ (readFrom false least fuel rest).text } := by
  simp [readFrom, noWord, gap, goesOn, found]

private theorem takeWhile_spaces (visible : c ≠ ' ') (count : Nat) :
    (List.replicate count ' ' ++ c :: rest).takeWhile (· == ' ') = List.replicate count ' ' := by
  rw [List.takeWhile_append_of_pos (by simp)]
  simp [visible]

private theorem dropWhile_spaces (visible : c ≠ ' ') (count : Nat) :
    (List.replicate count ' ' ++ c :: rest).dropWhile (· == ' ') = c :: rest := by
  rw [List.dropWhile_append_of_pos (by simp)]
  simp [visible]

private theorem takeGap_spaces (ordinary : IsOrdinary c) (visible : c ≠ ' ') (count : Nat) :
    takeGap (List.replicate count ' ' ++ c :: rest) =
      ⟨List.replicate count ' ', none, c :: rest⟩ := by
  simp only [takeGap, takeWhile_spaces visible, dropWhile_spaces visible,
    ordinary.takeBreak?_cons]

private theorem skipLines_spaces (starts : Starts rest) (count column : Nat) :
    skipLines column (List.replicate count ' ' ++ rest) = ([], column + count, rest) := by
  induction count generalizing column with
  | zero =>
    cases rest with
    | nil => rfl
    | cons c rest =>
      obtain ⟨ordinary, visible, -⟩ := starts c rfl
      have notReturn : c ≠ '\r' := by
        rintro rfl
        cases ordinary.isBreak_eq
      simp [skipLines, notReturn, ordinary.isBreak_eq]
  | succ count ih =>
    rw [List.replicate_succ, List.cons_append, skipLines, ih]
    congr 2
    omega

/-- The end of a line and the spaces behind it count as a space. -/
theorem takeGap_break (starts : Starts rest) (unmarked : indent = 0 → startsMarker rest = false) :
    takeGap ('\n' :: (List.replicate indent ' ' ++ rest)) = ⟨[' '], some indent, rest⟩ := by
  have noMarker : startsMarker (List.replicate indent ' ' ++ rest) = false := by
    cases indent with
    | zero => exact unmarked rfl
    | succ count => exact startsMarker_space _
  have breaks : takeBreak? ('\n' :: (List.replicate indent ' ' ++ rest)) =
      some ('\n', List.replicate indent ' ' ++ rest) := by
    simp [takeBreak?]
  have unmarked : (indent == 0 && startsMarker rest) = false := by
    cases indent with
    | zero => simp [unmarked]
    | succ count => rfl
  simp [takeGap, breaks, noMarker, skipLines_spaces starts, unmarked]

/-- Spaces before a character that is none are read as they are. -/
private theorem readFrom_spaced (ordinary : IsOrdinary c) (visible : c ≠ ' ') {spaces fuel : Nat}
    (noHash : 0 < spaces → c ≠ '#') {text tail : List Char} (bound : Nat)
    (read : ∀ fuel, bound < fuel → readFrom false least fuel (c :: rest) = closed (c :: text) tail)
    (enough : spaces + bound < fuel) :
    readFrom false least fuel (List.replicate spaces ' ' ++ c :: rest) =
      closed (List.replicate spaces ' ' ++ c :: text) tail := by
  rcases Nat.eq_zero_or_pos spaces with rfl | some
  · exact read fuel (by omega)
  · obtain ⟨more, rfl⟩ : ∃ more, fuel = more + 1 := ⟨fuel - 1, by omega⟩
    have next := read more (by omega)
    obtain ⟨count, rfl⟩ : ∃ count, spaces = count + 1 := ⟨spaces - 1, by omega⟩
    have noWord : takeWord false (List.replicate (count + 1) ' ' ++ c :: rest) =
        ([], List.replicate (count + 1) ' ' ++ c :: rest) := rfl
    have goesOn : Gap.ends false least ⟨List.replicate (count + 1) ' ', none, c :: rest⟩ = false := by
      simp [Gap.ends, noHash some]
    rw [readFrom_gap noWord (takeGap_spaces ordinary visible _) goesOn (by simp [next, closed]), next]
    rfl

/-- A line break and the spaces behind it are read as a space. -/
private theorem readFrom_break (ordinary : IsOrdinary c) (visible : c ≠ ' ') (noHash : c ≠ '#')
    (indented : 0 < indent) (deep : least ≤ indent) {fuel : Nat} {text tail : List Char}
    (read : readFrom false least fuel (c :: rest) = closed (c :: text) tail) :
    readFrom false least (fuel + 1) ('\n' :: (List.replicate indent ' ' ++ c :: rest)) =
      closed (' ' :: c :: text) tail := by
  have goesOn : Gap.ends false least ⟨[' '], some indent, c :: rest⟩ = false := by
    simp [Gap.ends, noHash, deep]
  have starts : Starts (c :: rest) := by
    rintro _ ⟨⟩
    exact ⟨ordinary, visible, noHash⟩
  rw [readFrom_gap rfl (takeGap_break starts (by omega)) goesOn (by simp [read, closed]), read]
  rfl

/-- A text that is written plain is read back up to what ends it. There may be spaces before it that
have not been read yet. -/
theorem readFrom_folded (folded : Folded (fun c => [c]) indent afterWord text written)
    (stops : Stops least tail) (indented : 0 < indent) (deep : least ≤ indent) {before : Char}
    {spaces fuel : Nat} (ordinary : ∀ c ∈ text, IsOrdinary c)
    (noSigns : TextTraits.hasInnerSign before text = false)
    (closedEnd : text.getLast?.getD before ≠ ' ') (enough : spaces + written.length < fuel)
    (start : 0 < spaces → afterWord = false ∧ before = ' ') :
    readFrom false least fuel (List.replicate spaces ' ' ++ (written ++ tail)) =
      closed (List.replicate spaces ' ' ++ text) tail := by
  induction folded generalizing before spaces fuel with
  | nil =>
    have unspaced : spaces = 0 := by
      rcases Nat.eq_zero_or_pos spaces with none | some
      · exact none
      · exact absurd (start some).2 closedEnd
    obtain ⟨more, rfl⟩ : ∃ more, fuel = more + 1 := ⟨fuel - 1, by omega⟩
    subst unspaced
    simp [readFrom, stops.noWord, stops.ends, closed]
  | @kept _ c text written rest ih =>
    have here := ordinary c (by simp)
    have after : ∀ d ∈ text, IsOrdinary d := fun d member =>
      ordinary d (List.mem_cons_of_mem c member)
    obtain ⟨colon, hash, noSigns⟩ := hasInnerSign_cons_eq_false.mp noSigns
    have closedEnd : text.getLast?.getD c ≠ ' ' := by
      rwa [List.getLast?_cons] at closedEnd
    simp only [List.cons_append, List.nil_append, List.length_cons] at enough ⊢
    by_cases space : c = ' '
    · subst space
      rw [replicate_append_space, replicate_append_space]
      exact ih after noSigns closedEnd (by omega) fun _ => ⟨rfl, rfl⟩
    · have unended (same : c = ':') : startsBlank (written ++ tail) = false :=
        rest.startsBlank_eq (colon same) tail
      have word (fuel : Nat) (enough : written.length < fuel) :
          readFrom false least fuel (c :: (written ++ tail)) = closed (c :: text) tail := by
        obtain ⟨more, rfl⟩ : ∃ more, fuel = more + 1 := ⟨fuel - 1, by omega⟩
        have next := ih after noSigns closedEnd (by omega : 0 + _ < more + 1) (by simp)
        rw [readFrom_cons here space unended, List.replicate_zero, List.nil_append] at *
        rw [next]
        rfl
      have noHash (some : 0 < spaces) : c ≠ '#' := by
        intro same
        rw [(start some).2] at hash
        cases hash same
      exact readFrom_spaced here space noHash _ word (by omega)
  | @broken c text written visible rest ih =>
    have unspaced : spaces = 0 := by
      rcases Nat.eq_zero_or_pos spaces with none | some
      · exact none
      · cases (start some).1
    obtain ⟨more, rfl⟩ : ∃ more, fuel = more + 1 := ⟨fuel - 1, by omega⟩
    obtain ⟨following, rfl⟩ := rest.exists_append visible
    subst unspaced
    obtain ⟨-, -, noSigns⟩ := hasInnerSign_cons_eq_false.mp noSigns
    have noHash : c ≠ '#' := by
      intro same
      cases (hasInnerSign_cons_eq_false.mp noSigns).2.1 same
    have here := ordinary c (by simp)
    have after : ∀ d ∈ c :: text, IsOrdinary d := fun d member =>
      ordinary d (List.mem_cons_of_mem _ member)
    simp only [List.length_cons, List.length_append, List.length_replicate] at enough
    have next := @ih _ 0 more after noSigns (by rwa [List.getLast?_cons] at closedEnd)
      (by simp; omega) (by simp)
    simp only [List.replicate_zero, List.nil_append, List.cons_append, List.append_assoc] at next ⊢
    exact readFrom_break here visible noHash indented deep next

end Plain

namespace QuotedText

variable {double : Bool} {c : Char} {rest : List Char}

/-- A part of a text that has been read, before the rest of it. -/
theorem readFrom_part {fuel : Nat} (part : List Char) {text after : List Char}
    (read : readFrom double fuel rest = .ok (text, after)) :
    (do
      let (text, rest) ← readFrom double fuel rest
      return (part ++ text, rest) : Except Flaw (List Char × List Char)) =
      .ok (part ++ text, after) := by
  rw [read]
  rfl

private theorem readFrom_spaces (ordinary : IsOrdinary c) (visible : c ≠ ' ') {fuel count : Nat}
    {text after : List Char} (read : readFrom double fuel (c :: rest) = .ok (text, after)) :
    readFrom double (fuel + 1) (List.replicate (count + 1) ' ' ++ c :: rest) =
      .ok (List.replicate (count + 1) ' ' ++ text, after) := by
  have unblank : isBlank c = false := by simp [ordinary.isBlank_eq, visible]
  have blanks : (List.replicate (count + 1) ' ' ++ c :: rest).takeWhile isBlank =
      List.replicate (count + 1) ' ' := by
    rw [List.takeWhile_append_of_pos (by simp [isBlank])]
    simp [unblank]
  have left : (List.replicate (count + 1) ' ' ++ c :: rest).dropWhile isBlank = c :: rest := by
    rw [List.dropWhile_append_of_pos (by simp [isBlank])]
    simp [unblank]
  have gap : takeGap (List.replicate (count + 1) ' ' ++ c :: rest) =
      .ok (List.replicate (count + 1) ' ', c :: rest) := by
    simp only [takeGap, blanks, left, ordinary.takeBreak?_cons]
  have noQuote : (double && ' ' == Text.doubleQuote) = false ∧
      (!double && ' ' == Text.singleQuote) = false := by
    cases double <;> decide
  rw [List.replicate_succ, List.cons_append] at gap ⊢
  simp only [readFrom, noQuote, Bool.false_eq_true, ↓reduceIte, isBlank, BEq.rfl, Bool.true_or, gap]
  exact readFrom_part _ read

/-- Spaces before a character that is none are read as they are. -/
theorem readFrom_spaced (ordinary : IsOrdinary c) (visible : c ≠ ' ') {text after : List Char}
    (least : Nat) {fuel spaces : Nat}
    (read : ∀ fuel, least < fuel → readFrom double fuel (c :: rest) = .ok (text, after))
    (enough : spaces + least < fuel) :
    readFrom double fuel (List.replicate spaces ' ' ++ c :: rest) =
      .ok (List.replicate spaces ' ' ++ text, after) := by
  cases spaces with
  | zero => exact read fuel (by omega)
  | succ count =>
    obtain ⟨more, rfl⟩ : ∃ more, fuel = more + 1 := ⟨fuel - 1, by omega⟩
    exact readFrom_spaces ordinary visible (read more (by omega))

private theorem skipLines_space (atStart : Bool) (rest : List Char) :
    skipLines atStart (' ' :: rest) = skipLines false rest := by
  rw [skipLines.eq_def]
  simp [startsMarker_space, isBlank]

private theorem skipLines_false (ordinary : IsOrdinary c) (visible : c ≠ ' ') (count : Nat) :
    skipLines false (List.replicate count ' ' ++ c :: rest) = .ok ([], c :: rest) := by
  induction count with
  | zero =>
    have notReturn : c ≠ '\r' := by
      rintro rfl
      cases ordinary.isBreak_eq
    simp [skipLines, ordinary.isBlank_eq, ordinary.isBreak_eq, visible, notReturn]
  | succ count ih => rw [List.replicate_succ, List.cons_append, skipLines_space, ih]

theorem skipLines_spaces (ordinary : IsOrdinary c) (visible : c ≠ ' ') (indented : 0 < indent) :
    skipLines true (List.replicate indent ' ' ++ c :: rest) = .ok ([], c :: rest) := by
  obtain ⟨count, rfl⟩ : ∃ count, indent = count + 1 := ⟨indent - 1, by omega⟩
  rw [List.replicate_succ, List.cons_append, skipLines_space, skipLines_false ordinary visible]

/-- A line break and the spaces behind it are read as a space. -/
theorem readFrom_break (ordinary : IsOrdinary c) (visible : c ≠ ' ') (indented : 0 < indent)
    {fuel : Nat} {text after : List Char} (read : readFrom double fuel (c :: rest) = .ok (text, after)) :
    readFrom double (fuel + 1) ('\n' :: (List.replicate indent ' ' ++ c :: rest)) =
      .ok (' ' :: text, after) := by
  have gap : takeGap ('\n' :: (List.replicate indent ' ' ++ c :: rest)) = .ok ([' '], c :: rest) := by
    have breaks : takeBreak? ('\n' :: (List.replicate indent ' ' ++ c :: rest)) =
        some ('\n', List.replicate indent ' ' ++ c :: rest) := by
      simp [takeBreak?]
    have start : isBlank '\n' = false := rfl
    simp only [takeGap, List.dropWhile_cons, start, Bool.false_eq_true, ↓reduceIte, breaks,
      skipLines_spaces ordinary visible indented]
    rfl
  have noQuote : (double && '\n' == Text.doubleQuote) = false ∧
      (!double && '\n' == Text.singleQuote) = false := by
    cases double <;> decide
  have breaks : (isBlank '\n' || isBreak '\n') = true := rfl
  simp only [readFrom, noQuote, Bool.false_eq_true, ↓reduceIte, breaks, gap]
  exact readFrom_part _ read

/-- A character as it is written in single quotes. -/
def doubled (c : Char) : List Char := if c == Text.singleQuote then [c, c] else [c]

theorem eq_of_mem_doubled {c d : Char} (member : d ∈ doubled c) : d = c := by
  unfold doubled at member
  split at member
  · simpa using member
  · simpa using member

private theorem doubled_eq_cons (c : Char) : ∃ rest, doubled c = c :: rest := by
  unfold doubled
  split
  · exact ⟨_, rfl⟩
  · exact ⟨_, rfl⟩

/-- A character in single quotes that is no space is read by itself. -/
private theorem readFrom_doubled (ordinary : IsOrdinary c) (visible : c ≠ ' ') {fuel : Nat}
    {text after : List Char} (read : readFrom false fuel rest = .ok (text, after)) :
    readFrom false (fuel + 1) (doubled c ++ rest) = .ok (c :: text, after) := by
  have read := readFrom_part [c] read
  by_cases quote : c = Text.singleQuote
  · subst quote
    exact read
  · have once : doubled c = [c] := by simp [doubled, quote]
    rw [once]
    simpa [readFrom, quote, ordinary.isBlank_eq, ordinary.isBreak_eq, visible] using read

/-- A text that is written in single quotes is read back up to the quote that ends it. There may be
spaces before it that have not been read yet. -/
theorem readFrom_folded (folded : Folded doubled indent afterWord text written)
    (closes : tail.head? ≠ some Text.singleQuote) (indented : 0 < indent) (spaces : Nat) {fuel : Nat}
    (ordinary : ∀ c ∈ text, IsOrdinary c) (enough : spaces + written.length + 1 < fuel)
    (start : 0 < spaces → afterWord = false) :
    readFrom false fuel (List.replicate spaces ' ' ++ (written ++ Text.singleQuote :: tail)) =
      .ok (List.replicate spaces ' ' ++ text, tail) := by
  induction folded generalizing spaces fuel with
  | nil =>
    refine readFrom_spaced (by decide) (by decide) 0 (fun fuel enough => ?_) (by omega)
    obtain ⟨more, rfl⟩ : ∃ more, fuel = more + 1 := ⟨fuel - 1, by omega⟩
    cases tail with
    | nil => rfl
    | cons c tail =>
      have closes : c ≠ Text.singleQuote := fun same => closes (congrArg some same)
      simp [readFrom, closes]
  | @kept _ c text written rest ih =>
    have here := ordinary c (by simp)
    have after : ∀ d ∈ text, IsOrdinary d := fun d member =>
      ordinary d (List.mem_cons_of_mem c member)
    rw [List.length_append] at enough
    by_cases space : c = ' '
    · subst space
      have single : doubled ' ' = [' '] := rfl
      rw [single, List.length_singleton] at enough
      rw [single, List.singleton_append, List.cons_append, replicate_append_space,
        replicate_append_space]
      exact ih _ after (by omega) fun _ => rfl
    · obtain ⟨following, starts⟩ := doubled_eq_cons c
      have word (fuel : Nat) (enough : (doubled c).length + written.length + 1 < fuel) :
          readFrom false fuel (c :: (following ++ (written ++ Text.singleQuote :: tail))) =
            .ok (c :: text, tail) := by
        obtain ⟨more, rfl⟩ : ∃ more, fuel = more + 1 := ⟨fuel - 1, by omega⟩
        rw [starts, List.length_cons] at enough
        have read := readFrom_doubled here space (@ih 0 more after (by omega) (by simp))
        rwa [starts, List.replicate_zero, List.nil_append] at read
      have read := readFrom_spaced here space _ word (by omega)
      simpa [starts] using read
  | @broken c text written visible rest ih =>
    have unspaced : spaces = 0 := by
      rcases Nat.eq_zero_or_pos spaces with none | some
      · exact none
      · cases start some
    obtain ⟨more, rfl⟩ : ∃ more, fuel = more + 1 := ⟨fuel - 1, by omega⟩
    subst unspaced
    have here := ordinary c (by simp)
    have after : ∀ d ∈ c :: text, IsOrdinary d := fun d member =>
      ordinary d (List.mem_cons_of_mem _ member)
    simp only [List.length_cons, List.length_append, List.length_replicate] at enough
    have next := @ih 0 more after (by omega) (by simp)
    obtain ⟨following, starts⟩ : ∃ following, written = c :: following := by
      obtain ⟨following, rfl⟩ := rest.exists_append visible
      obtain ⟨part, starts⟩ := doubled_eq_cons c
      exact ⟨part ++ following, by rw [starts, List.cons_append]⟩
    rw [starts] at next
    rw [List.replicate_zero, List.nil_append, List.cons_append, List.append_assoc, starts]
    exact readFrom_break here visible indented next

end QuotedText

end UnitLift.Yaml
