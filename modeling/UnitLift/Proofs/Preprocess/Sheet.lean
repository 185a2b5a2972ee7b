import UnitLift.Preprocess.MainFile

namespace UnitLift.Sheet

/-! ## Merging -/

/-- What a line holds after texts: those from the first that is not empty, with spaces between. -/
def merged (texts : List String) : String :=
  String.intercalate " " (texts.dropWhile String.isEmpty)

private theorem merged_eq_empty_iff {texts : List String} :
    merged texts = "" ↔ texts.dropWhile String.isEmpty = [] := by
  rw [merged]
  cases visible : texts.dropWhile String.isEmpty with
  | nil => simp
  | cons first rest =>
    have shown : first ≠ "" := by
      have head := List.head?_dropWhile_not String.isEmpty texts
      simpa [visible] using head
    cases rest with
    | nil => simpa using shown
    | cons second rest => simp [String.intercalate_cons_cons]

theorem merge_merged (texts : List String) (text : String) :
    merge (merged texts) text = merged (texts ++ [text]) := by
  have more : merged (texts ++ [text]) = String.intercalate " "
      (if (texts.dropWhile String.isEmpty).isEmpty then [text].dropWhile String.isEmpty
        else texts.dropWhile String.isEmpty ++ [text]) := by
    rw [merged, List.dropWhile_append]
  rw [merge, more]
  by_cases blank : texts.dropWhile String.isEmpty = []
  · rw [merged_eq_empty_iff.mpr blank, blank]
    cases empty : text.isEmpty with
    | true => simp [String.isEmpty_iff.mp empty]
    | false => simp [empty]
  · have shown : (merged texts).isEmpty = false := by
      simpa using fun empty => blank (merged_eq_empty_iff.mp empty)
    rw [if_neg (by simp [shown]), if_neg (by simpa using blank),
      String.intercalate_append_of_ne_nil blank (List.cons_ne_nil _ _), String.intercalate_singleton,
      merged]

/-! ## Placing one text -/

/-- The text of a line counted from zero, which is empty if the sheet does not reach there. -/
def textAt (sheet : Sheet) (index : Nat) : String := sheet[index]?.getD ""

private theorem textAt_of_size_le {sheet : Sheet} {index : Nat} (beyond : sheet.size ≤ index) :
    sheet.textAt index = "" := by
  simp [textAt, Array.getElem?_eq_none beyond]

private theorem textAt_append_replicate (sheet : Sheet) (count index : Nat) :
    textAt (sheet ++ Array.replicate count "") index = sheet.textAt index := by
  rw [textAt, textAt, Array.getElem?_append]
  split
  · rfl
  · rename_i beyond
    rw [Array.getElem?_eq_none (Nat.le_of_not_lt beyond), Array.getElem?_replicate]
    split <;> rfl

/-- Text goes to its line alone, to which the sheet reaches afterwards. -/
theorem exists_place (sheet : Sheet) {number : Nat} (counted : 1 ≤ number) (text : String) :
    ∃ placed : Sheet, sheet.place number text = .ok placed ∧
      placed.size = max sheet.size number ∧
      ∀ index, placed.textAt index =
        if index + 1 = number then merge (sheet.textAt index) text else sheet.textAt index := by
  obtain ⟨last, rfl⟩ : ∃ last, number = last + 1 := ⟨number - 1, by omega⟩
  have same := textAt_append_replicate sheet (last - sheet.size)
  have size : (sheet ++ Array.replicate (last - sheet.size) "").size = max sheet.size last := by
    simp
    omega
  simp only [place, Nat.add_sub_cancel]
  generalize sheet ++ Array.replicate (last - sheet.size) "" = padded at same size
  split
  · -- the sheet has the line already
    rename_i inside
    have there : padded[last]? = some (sheet.textAt last) := by
      rw [← same, textAt, Array.getElem?_eq_getElem inside]
      rfl
    refine ⟨padded.setIfInBounds last (merge (sheet.textAt last) text), ?_, ?_, fun index => ?_⟩
    · simp [there]
    · rw [Array.size_setIfInBounds]
      omega
    · rw [textAt, Array.getElem?_setIfInBounds]
      by_cases here : last = index
      · subst here
        rw [if_pos rfl, if_pos (Nat.lt_of_succ_le inside), if_pos rfl]
        rfl
      · rw [if_neg here, if_neg (by omega), ← same, textAt]
  · -- the line is the one after all that there are, those filled in among them
    rename_i short
    refine ⟨padded.push text, rfl, ?_, fun index => ?_⟩
    · rw [Array.size_push]
      omega
    · rw [textAt, Array.getElem?_push]
      by_cases here : index = padded.size
      · have beyond : sheet.size ≤ index := by omega
        rw [if_pos here, if_pos (by omega), textAt_of_size_le beyond]
        rfl
      · rw [if_neg here, if_neg (by omega), ← same, textAt]

/-! ## Placing texts one after another -/

/-- Texts placed in order, each with the number of its line. -/
def placeAll (sheet : Sheet) (placements : List (Nat × String)) : Except Fault Sheet :=
  placements.foldlM (fun sheet placement => sheet.place placement.1 placement.2) sheet

/-- The number of the last line that texts are placed on, or zero if there are none. -/
def lastNumber (placements : List (Nat × String)) : Nat :=
  (placements.map Prod.fst).max?.getD 0

/-- The texts that are placed on a line, in order. -/
def textsOn (placements : List (Nat × String)) (number : Nat) : List String :=
  (placements.filter (·.1 == number)).map Prod.snd

/-- A sheet reaches to the last line that texts were placed on, and each line holds its own texts. -/
structure Shows (sheet : Sheet) (placements : List (Nat × String)) : Prop where
  size : sheet.size = lastNumber placements
  text : ∀ index, sheet.textAt index = merged (textsOn placements (index + 1))

private theorem lastNumber_append (placements : List (Nat × String)) (number : Nat) (text : String) :
    lastNumber (placements ++ [(number, text)]) = max (lastNumber placements) number := by
  cases placements with
  | nil => simp [lastNumber]
  | cons first rest =>
    simp only [lastNumber, List.cons_append, List.map_cons, List.map_append, List.max?_cons',
      List.foldl_append]
    rfl

private theorem textsOn_append (placements : List (Nat × String)) (number : Nat) (text : String)
    (line : Nat) :
    textsOn (placements ++ [(number, text)]) line =
      textsOn placements line ++ if line = number then [text] else [] := by
  by_cases same : line = number
  · simp [textsOn, same]
  · simp [textsOn, same, Ne.symm same]

theorem Shows.exists_place {sheet : Sheet} {placements : List (Nat × String)}
    (shows : sheet.Shows placements) {number : Nat} (counted : 1 ≤ number) (text : String) :
    ∃ placed : Sheet, sheet.place number text = .ok placed ∧
      placed.Shows (placements ++ [(number, text)]) := by
  obtain ⟨placed, done, size, texts⟩ := Sheet.exists_place sheet counted text
  refine ⟨placed, done, ?_, fun index => ?_⟩
  · rw [size, shows.size, lastNumber_append]
  · rw [texts, shows.text, textsOn_append]
    split
    · exact merge_merged _ text
    · rw [List.append_nil]

/-- Any sequence of texts can be placed, and the sheet shows all of them. -/
theorem Shows.exists_placeAll {sheet : Sheet} {done : List (Nat × String)} (shows : sheet.Shows done)
    {placements : List (Nat × String)} (counted : ∀ placement ∈ placements, 1 ≤ placement.1) :
    ∃ last, sheet.placeAll placements = .ok last ∧ last.Shows (done ++ placements) := by
  induction placements generalizing sheet done with
  | nil => exact ⟨sheet, rfl, by rwa [List.append_nil]⟩
  | cons placement rest ih =>
    obtain ⟨placed, first, shows⟩ := shows.exists_place (counted placement List.mem_cons_self) placement.2
    obtain ⟨last, others, shows⟩ := ih shows fun placement member =>
      counted placement (List.mem_cons_of_mem _ member)
    refine ⟨last, ?_, by simpa using shows⟩
    rw [placeAll, List.foldlM_cons, first]
    exact others

/-- Texts can be placed in any order and any number of times on a line, and none is lost: from an empty
sheet on, each line holds the texts that were placed there, in order. -/
theorem lines_of_placements {placements : List (Nat × String)}
    (counted : ∀ placement ∈ placements, 1 ≤ placement.1) :
    ∃ sheet, placeAll #[] placements = .ok sheet ∧
      sheet.size = (placements.map Prod.fst).max?.getD 0 ∧
      ∀ number, 1 ≤ number → number ≤ sheet.size → sheet[number - 1]? = some (String.intercalate " "
        (((placements.filter (·.1 == number)).map Prod.snd).dropWhile String.isEmpty)) := by
  have blank : Shows #[] [] := ⟨rfl, fun index => by simp [textAt, textsOn, merged]⟩
  obtain ⟨sheet, placed, shows⟩ := blank.exists_placeAll counted
  refine ⟨sheet, placed, shows.size, fun number first last => ?_⟩
  have inside : number - 1 < sheet.size := by omega
  have text := shows.text (number - 1)
  rw [Nat.sub_add_cancel first, List.nil_append, textAt, Array.getElem?_eq_getElem inside] at text
  rw [Array.getElem?_eq_getElem inside]
  exact congrArg some text

/-- From the third line back to the first, and to the third again. -/
theorem lines_of_placements_backwards :
    let placements := [(3, ""), (1, "a"), (3, "b"), (1, ""), (3, "")]
    (∀ placement ∈ placements, 1 ≤ placement.1) ∧
      ∃ sheet, placeAll #[] placements = .ok sheet ∧
        sheet.size = (placements.map Prod.fst).max?.getD 0 ∧
        ∀ number, 1 ≤ number → number ≤ sheet.size → sheet[number - 1]? = some (String.intercalate " "
          (((placements.filter (·.1 == number)).map Prod.snd).dropWhile String.isEmpty)) := by
  intro placements
  have counted : ∀ placement ∈ placements, 1 ≤ placement.1 := by simp [placements]
  exact ⟨counted, lines_of_placements counted⟩

end UnitLift.Sheet
