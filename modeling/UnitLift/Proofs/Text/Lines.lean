import UnitLift.Text.Lines

namespace UnitLift.Text

/-- A line as such: nothing in it ends a line. -/
def IsLine (line : String) : Prop := ∀ c ∈ line.toList, isLineBoundary c = false

instance (line : String) : Decidable (IsLine line) :=
  List.decidableBAll (isLineBoundary · = false) line.toList

theorem lineSpans_line {line : List Char} (whole : ∀ c ∈ line, isLineBoundary c = false)
    (rest : List Char) :
    lineSpans (line ++ '\n' :: rest) = line :: lineSpans rest := by
  induction line with
  | nil => rfl
  | cons c line ih =>
    have inside := whole c (by simp)
    have notReturn : c ≠ '\r' := by
      intro same
      subst same
      cases inside
    have next := ih fun c member => whole c (by simp [member])
    rw [List.cons_append, lineSpans.eq_def]
    simp [inside, next, notReturn]

/-- A text without carriage returns has only line feeds for its line ends. -/
theorem withLineFeeds_eq_self {text : List Char} (absent : '\r' ∉ text) : withLineFeeds text = text := by
  induction text with
  | nil => rfl
  | cons c rest ih =>
    obtain ⟨other, absent⟩ := List.ne_and_not_mem_of_not_mem_cons absent
    have here : c ≠ '\r' := other.symm
    rw [withLineFeeds.eq_def]
    simp [here, ih absent]

theorem joinLines_cons_cons (first second : String) (rest : List String) :
    joinLines (first :: second :: rest) = first ++ "\n" ++ joinLines (second :: rest) := by
  rw [joinLines, String.intercalate_cons_cons, String.append_assoc, joinLines]

private theorem linesOf_line {line : String} (whole : IsLine line) (rest : String) :
    linesOf (line ++ "\n" ++ rest) = line :: linesOf rest := by
  have spans := lineSpans_line whole rest.toList
  simp only [linesOf, String.toList_append, List.append_assoc]
  change (lineSpans (line.toList ++ '\n' :: rest.toList)).map String.ofList = _
  rw [spans, List.map_cons, String.ofList_toList]

/-- Lines are read back from the text that they are joined to. -/
theorem linesOf_joinLines {lines : List String} (present : lines ≠ [])
    (whole : ∀ line ∈ lines, IsLine line) : linesOf (joinLines lines) = lines := by
  induction lines with
  | nil => exact absurd rfl present
  | cons first rest ih =>
    have wholeFirst := whole first (by simp)
    cases rest with
    | nil =>
      have last := linesOf_line wholeFirst ""
      rw [String.append_empty] at last
      rw [joinLines, String.intercalate_singleton, last]
      rfl
    | cons second rest =>
      rw [joinLines_cons_cons, linesOf_line wholeFirst,
        ih (by simp) fun line member => whole line (by simp [member])]

theorem linesOf_joinLines_nil : linesOf (joinLines []) = [""] := by decide

private theorem whole_of_mem_lineSpans (text : List Char) :
    ∀ line ∈ lineSpans text, ∀ c ∈ line, isLineBoundary c = false := by
  fun_induction lineSpans text with
  | case1 => simp
  | case2 rest ih => simpa using ih
  | case3 c rest _ boundary ih => simpa using ih
  | case4 c rest _ inside empty ih => simpa using inside
  | case5 c rest _ inside line lines found ih =>
    rw [found] at ih
    simpa [inside] using ih

theorem isLine_of_mem_linesOf {text line : String} (member : line ∈ linesOf text) :
    IsLine line := by
  obtain ⟨span, inside, rfl⟩ := List.mem_map.mp member
  intro c present
  rw [String.toList_ofList] at present
  exact whole_of_mem_lineSpans _ span inside c present

end UnitLift.Text
