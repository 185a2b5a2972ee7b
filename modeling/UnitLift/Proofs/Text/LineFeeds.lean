import UnitLift.Proofs.Text.Lines

namespace UnitLift.Text

/-- The lines of a text, without the line feeds that end them. -/
def feedSpans : List Char → List (List Char)
  | [] => []
  | c :: rest =>
    if c = '\n' then [] :: feedSpans rest
    else
      match feedSpans rest with
      | [] => [[c]]
      | line :: lines => (c :: line) :: lines

/-- The lines of `text` as a compiler counts them. -/
def feedLines (text : String) : List String := (feedSpans text.toList).map String.ofList

/-- No line boundary but the line feed occurs in a text. -/
def OnlyFeeds (text : String) : Prop := ∀ c ∈ text.toList, isLineBoundary c = true → c = '\n'

instance (text : String) : Decidable (OnlyFeeds text) :=
  List.decidableBAll (fun c => isLineBoundary c = true → c = '\n') text.toList

private theorem feedSpans_eq_nil {text : List Char} (none : feedSpans text = []) : text = [] := by
  cases text with
  | nil => rfl
  | cons c rest =>
    rw [feedSpans] at none
    split at none
    · cases none
    · split at none
      · cases none
      · cases none

theorem lineSpans_eq_feedSpans {text : List Char}
    (feeds : ∀ c ∈ text, isLineBoundary c = true → c = '\n') : lineSpans text = feedSpans text := by
  induction text with
  | nil => rfl
  | cons c rest ih =>
    have same := ih fun c member => feeds c (List.mem_cons_of_mem _ member)
    rw [feedSpans, ← same]
    by_cases feed : c = '\n'
    · rw [feed, if_pos rfl]
      rfl
    · have inside : isLineBoundary c = false := by
        rw [← Bool.not_eq_true]
        exact fun boundary => feed (feeds c List.mem_cons_self boundary)
      have notReturn : c ≠ '\r' := by
        intro carriage
        subst carriage
        cases inside
      rw [if_neg feed, lineSpans.eq_def]
      cases spans : lineSpans rest with
      | nil => simp [inside, notReturn, spans]
      | cons line lines => simp [inside, notReturn, spans]

theorem linesOf_eq_feedLines {text : String} (feeds : OnlyFeeds text) :
    linesOf text = feedLines text := by
  rw [linesOf, feedLines, lineSpans_eq_feedSpans feeds]

theorem onlyFeeds_joinLines {lines : List String} (whole : ∀ line ∈ lines, IsLine line) :
    OnlyFeeds (joinLines lines) := by
  have single {line : String} (inside : IsLine line) : OnlyFeeds (line ++ "\n") := by
    intro c member boundary
    rw [String.toList_append, List.mem_append] at member
    rcases member with inLine | feed
    · exact absurd (inside c inLine) (by simp [boundary])
    · simpa using feed
  induction lines with
  | nil => decide
  | cons first rest ih =>
    have wholeFirst := whole first List.mem_cons_self
    cases rest with
    | nil =>
      rw [joinLines, String.intercalate_singleton]
      exact single wholeFirst
    | cons second rest =>
      have wholeRest := ih fun line member => whole line (List.mem_cons_of_mem _ member)
      intro c member boundary
      rw [joinLines_cons_cons, String.toList_append, List.mem_append] at member
      rcases member with inFirst | inRest
      · exact single wholeFirst c inFirst boundary
      · exact wholeRest c inRest boundary

/-- What stands around a line of a text: a line feed or nothing, on either side. -/
structure IsLineBetween (before line after : List Char) : Prop where
  starts : ∀ c ∈ before.getLast?, c = '\n'
  whole : '\n' ∉ line
  ends : ∀ c ∈ after.head?, c = '\n'

private theorem IsLineBetween.before_eq_nil {before line after : List Char}
    (between : IsLineBetween before line after) (first : before.count '\n' = 0) : before = [] := by
  cases last : before.getLast? with
  | none => exact List.getLast?_eq_none_iff.mp last
  | some c =>
    have feed : c = '\n' := between.starts c last
    have member : '\n' ∈ before := feed ▸ List.mem_of_getLast? last
    exact absurd member (List.count_eq_zero.mp first)

/-- More may stand before a line, if what stands right before it is a line feed. -/
private theorem IsLineBetween.cons {before line after : List Char}
    (between : IsLineBetween before line after) {c : Char} (next : before = [] → c = '\n') :
    IsLineBetween (c :: before) line after where
  starts := by
    cases before with
    | nil => simpa using next rfl
    | cons d before => simpa using between.starts
  whole := between.whole
  ends := between.ends

/-- As many line feeds stand before a line as there are lines before it. -/
theorem exists_isLineBetween {text line : List Char} {number : Nat}
    (found : (feedSpans text)[number]? = some line) :
    ∃ before after, text = before ++ line ++ after ∧ IsLineBetween before line after ∧
      before.count '\n' = number := by
  induction text generalizing number line with
  | nil => simp [feedSpans] at found
  | cons c rest ih =>
    rw [feedSpans] at found
    by_cases feed : c = '\n'
    · rw [if_pos feed] at found
      subst feed
      cases number with
      | zero =>
        cases found
        exact ⟨[], '\n' :: rest, rfl, ⟨by simp, by simp, by simp⟩, rfl⟩
      | succ number =>
        obtain ⟨before, after, shape, between, counted⟩ := ih found
        refine ⟨'\n' :: before, after, by simp [shape], between.cons fun _ => rfl, ?_⟩
        rw [List.count_cons_self, counted]
    · rw [if_neg feed] at found
      have apart : (c == '\n') = false := by simpa using feed
      cases spans : feedSpans rest with
      | nil =>
        rw [spans] at found
        have last : rest = [] := feedSpans_eq_nil spans
        have only : number = 0 ∧ [c] = line := by
          cases number with
          | zero => exact ⟨rfl, Option.some.inj found⟩
          | succ number => cases found
        obtain ⟨rfl, rfl⟩ := only
        exact ⟨[], [], by simp [last], ⟨by simp, by simpa using Ne.symm feed, by simp⟩, rfl⟩
      | cons first more =>
        rw [spans] at found
        cases number with
        | zero =>
          -- the character belongs to the first line of the rest, before which nothing stands
          cases found
          obtain ⟨before, after, shape, between, counted⟩ :
              ∃ before after, rest = before ++ first ++ after ∧
                IsLineBetween before first after ∧ before.count '\n' = 0 := ih (by rw [spans]; rfl)
          have none : before = [] := between.before_eq_nil counted
          refine ⟨[], after, by simp [shape, none], ⟨by simp, ?_, between.ends⟩, rfl⟩
          simpa [Ne.symm feed] using between.whole
        | succ number =>
          obtain ⟨before, after, shape, between, counted⟩ :
              ∃ before after, rest = before ++ line ++ after ∧
                IsLineBetween before line after ∧ before.count '\n' = number + 1 :=
            ih (by rw [spans]; exact found)
          have present : before ≠ [] := by
            rintro rfl
            cases counted
          refine ⟨c :: before, after, by simp [shape], between.cons (absurd · present), ?_⟩
          rw [List.count_cons, counted, apart]
          rfl

end UnitLift.Text
