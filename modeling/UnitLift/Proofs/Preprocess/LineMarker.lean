import UnitLift.Preprocess.LineMarker
import UnitLift.Proofs.Text.Blank
import UnitLift.Proofs.Text.Lines
import UnitLift.Proofs.Text.Numeral

namespace UnitLift.LineMarker

/-- A name with a backslash before each occurrence of a sign. -/
def marked (sign : Char) : List Char → List Char
  | [] => []
  | c :: rest => if c = sign then '\\' :: c :: marked sign rest else c :: marked sign rest

/-- To escape a name, backslashes are doubled first, and quotes are marked after that. -/
theorem escape_eq_marked (name : List Char) : escape name = marked '"' (marked '\\' name) := by
  induction name with
  | nil => rfl
  | cons c rest ih =>
    by_cases backslash : c = '\\'
    · subst backslash
      simp [escape, marked, ih]
    · by_cases quote : c = '"'
      · subst quote
        simp [escape, marked, ih]
      · simp [escape, marked, ih, quote, backslash]

private theorem halveBackslashes_escape (name : List Char) :
    halveBackslashes (escape name) = marked '"' name := by
  induction name with
  | nil => rfl
  | cons c rest ih =>
    by_cases quote : c = '"'
    · subst quote
      simp [escape, halveBackslashes, marked, ih]
    · by_cases backslash : c = '\\'
      · subst backslash
        simp [escape, halveBackslashes, marked, ih]
      · simp [escape, halveBackslashes, marked, ih, quote, backslash]

private theorem bareQuotes_marked (name : List Char) : bareQuotes (marked '"' name) = name := by
  induction name with
  | nil => rfl
  | cons c rest ih =>
    by_cases quote : c = '"'
    · subst quote
      simp [bareQuotes, marked, ih]
    · -- a backslash of the name stands before a quote only if that has one of its own
      have apart : ∀ more, marked '"' rest ≠ '"' :: more := by
        intro more
        cases rest with
        | nil => simp [marked]
        | cons d rest => by_cases same : d = '"' <;> simp [marked, same]
      have plain : bareQuotes (c :: marked '"' rest) = c :: bareQuotes (marked '"' rest) := by
        rw [bareQuotes]
        intro more _ shape
        exact apart more shape
      rw [marked, if_neg quote, plain, ih]

theorem unescape_escape (name : List Char) : unescape (escape name) = name := by
  rw [unescape, halveBackslashes_escape, bareQuotes_marked]

/-- The name ends at the first quote that was not escaped. -/
theorem nameAndRest?_escape (name rest : List Char) :
    nameAndRest? (escape name ++ '"' :: rest) = some (escape name, rest) := by
  induction name with
  | nil => rfl
  | cons c name ih =>
    by_cases escaped : (c == '\\' || c == '"') = true
    · rw [escape, if_pos escaped, List.cons_append, List.cons_append, nameAndRest?, ih]
      rfl
    · have plain : c ≠ '\\' ∧ c ≠ '"' := by simpa using escaped
      rw [escape, if_neg escaped, List.cons_append, nameAndRest?.eq_def]
      simp [plain, ih]

/-- A flag that a preprocessor writes. -/
def IsFlag (flag : String) : Prop := flag ≠ "" ∧ ∀ c ∈ flag.toList, c.isDigit = true

instance (flag : String) : Decidable (IsFlag flag) :=
  @instDecidableAnd (flag ≠ "") (∀ c ∈ flag.toList, c.isDigit = true) inferInstance
    (List.decidableBAll (·.isDigit = true) flag.toList)

theorem isBlank_of_isDigit {c : Char} (digit : c.isDigit = true) :
    Text.isBlank c = false := by
  have range : 48 ≤ c.toNat ∧ c.toNat ≤ 57 := by
    simpa [Char.isDigit, UInt32.le_iff_toNat_le] using digit
  simp [Text.isBlank]
  omega

private theorem flags?_spaced {flags : List String} (proper : ∀ flag ∈ flags, IsFlag flag) :
    flags? (Text.spaced (flags.map String.toList)) = some (flags.map String.toList) := by
  have whole : ∀ word ∈ flags.map String.toList, Text.IsWord word := by
    intro word member
    obtain ⟨flag, inside, same⟩ := List.mem_map.mp member
    subst same
    obtain ⟨present, digits⟩ := proper flag inside
    exact ⟨by simpa using present, fun c inside => isBlank_of_isDigit (digits c inside)⟩
  have numerals : (flags.map String.toList).all (·.all Text.isDecimalDigit) = true := by
    rw [List.all_eq_true]
    intro word member
    obtain ⟨flag, inside, same⟩ := List.mem_map.mp member
    subst same
    rw [List.all_eq_true]
    intro c digit
    rw [Text.isDecimalDigit, Text.digitValue?_of_isDigit ((proper flag inside).2 c digit)]
    rfl
  simp only [flags?, Text.words_spaced whole, numerals]
  cases flags with
  | nil => rfl
  | cons flag flags => rfl

private theorem toList_render (marker : LineMarker) :
    (render marker).toList = '#' :: ' ' :: (Nat.toDigits 10 marker.line ++ ' ' :: '"' ::
      (escape marker.file.toList ++ '"' :: Text.spaced (marker.flags.map String.toList))) := by
  have flags : (String.join (marker.flags.map (" " ++ ·))).toList =
      Text.spaced (marker.flags.map String.toList) := by
    rw [String.toList_join, List.flatMap_map, Text.spaced, List.flatMap_map]
    simp
  simp [render, flags]

theorem scan?_render {marker : LineMarker} (proper : ∀ flag ∈ marker.flags, IsFlag flag) :
    scan? (render marker).toList =
      some ⟨Nat.toDigits 10 marker.line, escape marker.file.toList,
        marker.flags.map String.toList⟩ := by
  have decimal : ∀ c ∈ Nat.toDigits 10 marker.line, Text.isDecimalDigit c = true :=
    fun c member => Text.isDecimalDigit_of_mem_toDigits member
  obtain ⟨first, rest, digits⟩ : ∃ first rest, Nat.toDigits 10 marker.line = first :: rest :=
    List.exists_cons_of_ne_nil Nat.toDigits_ne_nil
  have firstDigit : first.isDigit = true := by
    apply Nat.isDigit_of_mem_toDigits (b := 10) (n := marker.line) (by decide) (by decide)
    simp [digits]
  have visible : Text.isBlank first = false := isBlank_of_isDigit firstDigit
  have start (more : List Char) :
      Text.trimStart (' ' :: (Nat.toDigits 10 marker.line ++ more)) =
        Nat.toDigits 10 marker.line ++ more := by
    rw [digits]
    exact Text.trimStart_cons visible _
  have number (more : List Char) :
      afterLineWord? (Nat.toDigits 10 marker.line ++ more) =
        some (Nat.toDigits 10 marker.line ++ more) := by
    have letter : first ≠ 'l' := by
      intro same
      subst same
      cases firstDigit
    rw [digits, List.cons_append, afterLineWord?.eq_def]
    simp [letter]
  have stop : Text.isDecimalDigit ' ' = false := by decide
  have blanks (more : List Char) : afterBlanks? (' ' :: '"' :: more) = some ('"' :: more) := rfl
  rw [toList_render, scan?.eq_def]
  simp only [start, number, Option.bind_eq_bind, Option.bind_some,
    List.takeWhile_append_of_pos decimal, List.dropWhile_append_of_pos decimal,
    List.takeWhile_cons, List.dropWhile_cons, stop, Bool.false_eq_true, ↓reduceIte,
    List.append_nil, List.isEmpty_iff, Nat.toDigits_ne_nil, blanks, nameAndRest?_escape,
    flags?_spaced proper]
  rfl

theorem read_render {marker : LineMarker} (short : marker.line < Text.unreadable)
    (proper : ∀ flag ∈ marker.flags, IsFlag flag) :
    read (render marker) = .ok (some marker) := by
  rw [read, scan?_render proper]
  simp only [Text.readDigits?_toDigits short, unescape_escape, String.ofList_toList, List.map_map]
  have flags : marker.flags.map (String.ofList ∘ String.toList) = marker.flags := by
    simp [Function.comp_def]
  rw [flags]

private theorem mem_escape {name : List Char} {c : Char} (member : c ∈ escape name) :
    c = '\\' ∨ c ∈ name := by
  induction name with
  | nil => cases member
  | cons d rest ih =>
    rw [escape] at member
    split at member
    · rcases List.mem_cons.mp member with same | member
      · exact Or.inl same
      · rcases List.mem_cons.mp member with same | member
        · exact Or.inr (by simp [same])
        · exact (ih member).imp_right (List.mem_cons_of_mem _)
    · rcases List.mem_cons.mp member with same | member
      · exact Or.inr (by simp [same])
      · exact (ih member).imp_right (List.mem_cons_of_mem _)

theorem isLineBoundary_of_isDigit {c : Char} (digit : c.isDigit = true) :
    Text.isLineBoundary c = false := by
  have range : 48 ≤ c.toNat ∧ c.toNat ≤ 57 := by
    simpa [Char.isDigit, UInt32.le_iff_toNat_le] using digit
  simp [Text.isLineBoundary]
  omega

theorem isLine_render {marker : LineMarker} (name : Text.IsLine marker.file)
    (proper : ∀ flag ∈ marker.flags, IsFlag flag) : Text.IsLine (render marker) := by
  have punctuation : ∀ c ∈ ['#', ' ', '"', '\\'], Text.isLineBoundary c = false := by
    simp [Text.isLineBoundary]
  intro c member
  simp only [toList_render, List.mem_cons, List.mem_append, Text.spaced, List.mem_flatMap,
    List.mem_map] at member
  rcases member with same | same | digit | same | same | inName | same |
    ⟨_, ⟨flag, inside, rfl⟩, inFlag⟩
  · exact punctuation c (by simp [same])
  · exact punctuation c (by simp [same])
  · exact isLineBoundary_of_isDigit (Nat.isDigit_of_mem_toDigits (by decide) (by decide) digit)
  · exact punctuation c (by simp [same])
  · exact punctuation c (by simp [same])
  · rcases mem_escape inName with same | inName
    · exact punctuation c (by simp [same])
    · exact name c inName
  · exact punctuation c (by simp [same])
  · rcases inFlag with same | inFlag
    · exact punctuation c (by simp [same])
    · exact isLineBoundary_of_isDigit ((proper flag inside).2 c inFlag)

/-! ## Any name, any number and any flags -/

theorem isFlag_toString (number : Nat) : IsFlag (toString number) := by
  have digits : (toString number).toList = Nat.toDigits 10 number := Nat.toList_repr
  refine ⟨?_, ?_⟩
  · intro empty
    rw [empty] at digits
    exact Nat.toDigits_ne_nil digits.symm
  · intro c member
    rw [digits] at member
    exact Nat.isDigit_of_mem_toDigits (by decide) (by decide) member

private theorem forall_isFlag (flags : List Nat) : ∀ flag ∈ flags.map toString, IsFlag flag := by
  intro flag member
  obtain ⟨number, -, rfl⟩ := List.mem_map.mp member
  exact isFlag_toString number

/-- The numerals that are read of a marker stand for the numbers that were written, however long they
are, and its name is what it was before it was escaped. -/
private theorem exists_scan?_render (line : Nat) (file : String) (flags : List Nat) :
    ∃ spelling, scan? (render ⟨line, file, flags.map toString⟩).toList = some spelling ∧
      Text.digitsValue spelling.numeral = line ∧
      spelling.flags.map Text.digitsValue = flags ∧
      String.ofList (unescape spelling.name) = file := by
  refine ⟨_, scan?_render (forall_isFlag flags), Text.digitsValue_toDigits line, ?_, ?_⟩
  · simp [List.map_map, Function.comp_def, Text.digitsValue_toDigits]
  · rw [unescape_escape, String.ofList_toList]

private theorem linesOf_render {file : String} (whole : Text.IsLine file) (line : Nat)
    (flags : List Nat) :
    Text.linesOf (render ⟨line, file, flags.map toString⟩ ++ "\n") =
      [render ⟨line, file, flags.map toString⟩] := by
  have joined (text : String) : Text.joinLines [text] = text ++ "\n" := by
    rw [Text.joinLines, String.intercalate_singleton]
  rw [← joined]
  refine Text.linesOf_joinLines (List.cons_ne_nil _ _) fun text member => ?_
  obtain rfl := List.mem_singleton.mp member
  exact isLine_render whole (forall_isFlag flags)

private theorem read_render_eq (line : Nat) (file : String) (flags : List Nat) :
    read (render ⟨line, file, flags.map toString⟩) =
      if line < Text.unreadable then .ok (some ⟨line, file, flags.map toString⟩)
      else .error .numeralTooLong := by
  split
  · rename_i short
    exact read_render short (forall_isFlag flags)
  · rename_i long
    rw [read, scan?_render (forall_isFlag flags)]
    simp only [Text.readDigits?_toDigits_eq, if_neg long]

/-- A name that takes one line comes back from a marker as it was, whatever backslashes and quotes are
in it, and so do the number and the flags. The number is all that may be too long to be read. -/
theorem name_round_trip {file : String} (whole : Text.IsLine file) (line : Nat) (flags : List Nat) :
    let marker : LineMarker := ⟨line, file, flags.map toString⟩
    escape file.toList = marked '"' (marked '\\' file.toList) ∧
      Text.linesOf (marker.render ++ "\n") = [marker.render] ∧
      (∃ spelling, scan? marker.render.toList = some spelling ∧
        Text.digitsValue spelling.numeral = line ∧
        spelling.flags.map Text.digitsValue = flags ∧
        String.ofList (unescape spelling.name) = file) ∧
      read marker.render =
        if line < Text.unreadable then .ok (some marker) else .error .numeralTooLong := by
  intro marker
  exact ⟨escape_eq_marked file.toList, linesOf_render whole line flags,
    exists_scan?_render line file flags, read_render_eq line file flags⟩

/-- A name that ends in a backslash, with backslashes before a quote. -/
theorem name_round_trip_backslashes :
    Text.IsLine "a\\\\\"b\\" ∧
      let marker : LineMarker := ⟨7, "a\\\\\"b\\", [1, 3].map toString⟩
      escape marker.file.toList = marked '"' (marked '\\' marker.file.toList) ∧
        Text.linesOf (marker.render ++ "\n") = [marker.render] ∧
        (∃ spelling, scan? marker.render.toList = some spelling ∧
          Text.digitsValue spelling.numeral = 7 ∧
          spelling.flags.map Text.digitsValue = [1, 3] ∧
          String.ofList (unescape spelling.name) = "a\\\\\"b\\") ∧
        read marker.render =
          if 7 < Text.unreadable then .ok (some marker) else .error .numeralTooLong :=
  have whole : Text.IsLine "a\\\\\"b\\" := by decide
  ⟨whole, name_round_trip whole 7 [1, 3]⟩

end UnitLift.LineMarker
