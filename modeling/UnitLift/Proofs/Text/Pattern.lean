import UnitLift.Text.Pattern

namespace UnitLift.Text.Pattern

variable {α : Type} {text front back : List α}

@[simp] theorem accepts_empty : (empty : Pattern α).accepts text = text.isEmpty := by
  cases text with
  | nil => rfl
  | cons c rest => exact accepts_nothing rest

theorem accepts_orElse (left right : Pattern α) :
    (left.orElse right).accepts text = (left.accepts text || right.accepts text) := by
  unfold orElse
  split
  · simp
  · simp
  · exact accepts_either left right text

/-- A text is of one pattern after the other exactly if it can be split accordingly. -/
theorem accepts_sequence {first second : Pattern α} :
    (sequence first second).accepts text = true ↔
      ∃ front back, text = front ++ back ∧ first.accepts front = true ∧ second.accepts back = true := by
  induction text generalizing first with
  | nil =>
    constructor
    · intro both
      exact ⟨[], [], rfl, Bool.and_eq_true_iff.mp both⟩
    · rintro ⟨front, back, split, here, after⟩
      obtain ⟨rfl, rfl⟩ := List.append_eq_nil_iff.mp split.symm
      exact Bool.and_eq_true_iff.mpr ⟨here, after⟩
  | cons c rest ih =>
    have follows (first : Pattern α) : (first.followedBy second).accepts rest = true ↔
        ∃ front back, rest = front ++ back ∧ first.accepts front = true ∧
          second.accepts back = true := by
      unfold followedBy
      split
      · simp
      · constructor
        · exact fun after => ⟨[], rest, rfl, rfl, after⟩
        · rintro ⟨front, back, rfl, here, after⟩
          obtain rfl : front = [] := by simpa using here
          exact after
      · exact ih
    have within : ((first.after c).followedBy second).accepts rest = true ↔
        ∃ front back, rest = front ++ back ∧ first.accepts (c :: front) = true ∧
          second.accepts back = true := follows _
    have splits : (∃ front back, c :: rest = front ++ back ∧ first.accepts front = true ∧
        second.accepts back = true) ↔
        (∃ front back, rest = front ++ back ∧ first.accepts (c :: front) = true ∧
          second.accepts back = true) ∨
        first.acceptsEmpty = true ∧ second.accepts (c :: rest) = true := by
      constructor
      · rintro ⟨front, back, split, here, after⟩
        cases front with
        | nil => exact .inr ⟨here, split ▸ after⟩
        | cons d front =>
          obtain ⟨rfl, rfl⟩ := List.cons.inj split
          exact .inl ⟨front, back, rfl, here, after⟩
      · rintro (⟨front, back, rfl, here, after⟩ | ⟨here, after⟩)
        · exact ⟨c :: front, back, rfl, here, after⟩
        · exact ⟨[], c :: rest, rfl, here, after⟩
    rw [splits, ← within, accepts, after]
    cases starts : first.acceptsEmpty with
    | false => simp
    | true => simp [accepts_orElse, accepts]

theorem accepts_append {first second : Pattern α} (here : first.accepts front = true)
    (after : second.accepts back = true) : (first ++ second).accepts (front ++ back) = true :=
  accepts_sequence.mpr ⟨front, back, rfl, here, after⟩

theorem accepts_optional {part : Pattern α} :
    (optional part).accepts text = true ↔ text = [] ∨ part.accepts text = true := by
  simp [optional, accepts_either]

/-- Symbols that pass a test one by one are of the pattern of any number of them. -/
theorem accepts_many_one {test : α → Bool} (passes : ∀ c ∈ text, test c = true) :
    (many (one test)).accepts text = true := by
  induction text with
  | nil => rfl
  | cons c rest ih =>
    obtain ⟨here, after⟩ := List.forall_mem_cons.mp passes
    simpa [accepts, Pattern.after, here, followedBy] using ih after

theorem accepts_some_one {test : α → Bool} (present : text ≠ [])
    (passes : ∀ c ∈ text, test c = true) : (Pattern.some (one test)).accepts text = true := by
  obtain ⟨c, rest, rfl⟩ := List.exists_cons_of_ne_nil present
  obtain ⟨here, after⟩ := List.forall_mem_cons.mp passes
  exact accepts_sequence.mpr
    ⟨[c], rest, rfl, (accepts_one test _).mpr ⟨c, rfl, here⟩, accepts_many_one after⟩

theorem accepts_word (word : String) {text : List Char} :
    (Pattern.word word).accepts text = true ↔ text = word.toList := by
  unfold Pattern.word
  generalize word.toList = letters
  induction letters generalizing text with
  | nil => simp
  | cons letter rest ih =>
    rw [List.foldr_cons, accepts_sequence]
    constructor
    · rintro ⟨front, back, rfl, here, after⟩
      obtain ⟨c, rfl, same⟩ := (accepts_one _ _).mp here
      rw [ih.mp after, beq_iff_eq.mp same]
      rfl
    · rintro rfl
      exact ⟨[letter], rest, rfl, (accepts_one _ _).mpr ⟨letter, rfl, BEq.rfl⟩, ih.mpr rfl⟩

theorem accepts_anyWord (words : List String) {text : List Char} :
    (anyWord words).accepts text = true ↔ ∃ word ∈ words, text = word.toList := by
  unfold anyWord
  induction words with
  | nil => simp
  | cons word rest ih =>
    rw [List.foldr_cons, accepts_either, Bool.or_eq_true, accepts_word, ih]
    simp

theorem accepts_or (left right : Pattern α) :
    (left ||| right).accepts text = (left.accepts text || right.accepts text) :=
  accepts_either left right text

/-! ## Symbols that no text can do without -/

/-- Each text of a pattern has a certain symbol. -/
def Needs (c : α) (pattern : Pattern α) : Prop := ∀ text, pattern.accepts text = true → c ∈ text

variable {c : α} {left right : Pattern α}

theorem needs_character [BEq α] [LawfulBEq α] : Needs c (character c) := by
  intro text accepts
  obtain ⟨d, rfl, same⟩ := (accepts_one _ _).mp accepts
  rw [beq_iff_eq.mp same]
  exact List.mem_singleton_self c

theorem Needs.first (needs : Needs c left) : Needs c (left ++ right) := by
  intro text accepts
  obtain ⟨front, back, rfl, here, -⟩ := accepts_sequence.mp accepts
  exact List.mem_append_left _ (needs front here)

theorem Needs.second (needs : Needs c right) : Needs c (left ++ right) := by
  intro text accepts
  obtain ⟨front, back, rfl, -, after⟩ := accepts_sequence.mp accepts
  exact List.mem_append_right _ (needs back after)

theorem Needs.either (first : Needs c left) (second : Needs c right) : Needs c (left ||| right) := by
  intro text accepts
  rw [accepts_or, Bool.or_eq_true] at accepts
  exact accepts.elim (first text) (second text)

/-- Each text of a pattern begins with a symbol that passes a test. -/
def Begins (test : α → Bool) (pattern : Pattern α) : Prop :=
  ∀ text, pattern.accepts text = true → ∃ c rest, text = c :: rest ∧ test c = true

variable {test : α → Bool}

theorem begins_one {other : α → Bool} (passes : ∀ c, other c = true → test c = true) :
    Begins test (one other) := by
  intro text accepts
  obtain ⟨c, rfl, passed⟩ := (accepts_one _ _).mp accepts
  exact ⟨c, [], rfl, passes c passed⟩

theorem Begins.first (begins : Begins test left) : Begins test (left ++ right) := by
  intro text accepts
  obtain ⟨front, back, rfl, here, -⟩ := accepts_sequence.mp accepts
  obtain ⟨c, rest, rfl, passed⟩ := begins front here
  exact ⟨c, rest ++ back, rfl, passed⟩

/-- What may be left out at the start does not matter if what follows begins the same way. -/
theorem Begins.behind (begins : Begins test left) (after : Begins test right) :
    Begins test (optional left ++ right) := by
  intro text accepts
  obtain ⟨front, back, rfl, here, there⟩ := accepts_sequence.mp accepts
  rcases accepts_optional.mp here with rfl | here
  · exact after back there
  · obtain ⟨c, rest, rfl, passed⟩ := begins front here
    exact ⟨c, rest ++ back, rfl, passed⟩

theorem Begins.either (first : Begins test left) (second : Begins test right) :
    Begins test (left ||| right) := by
  intro text accepts
  rw [accepts_or, Bool.or_eq_true] at accepts
  exact accepts.elim (first text) (second text)

end UnitLift.Text.Pattern
