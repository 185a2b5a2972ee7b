import UnitLift.Proofs.Number.Decimal
import UnitLift.Proofs.Text.Pattern
import UnitLift.Proofs.Yaml.Making

namespace UnitLift.Yaml

/-- A scalar that can be written where lines go on behind `indent` spaces, and is read as it was. -/
structure IsKept (indent : Nat) (scalar : Scalar) : Prop where
  fits : Fits indent scalar
  clear : IsClear scalar

theorem hasPair_eq_false {text : List Char} (first : Char → Bool) {second : Char → Bool}
    (apart : ∀ c ∈ text, second c = false) : TextTraits.hasPair first second text = false := by
  induction text with
  | nil => rfl
  | cons a rest ih =>
    cases rest with
    | nil => rfl
    | cons b rest =>
      obtain ⟨-, after⟩ := List.forall_mem_cons.mp apart
      simp [TextTraits.hasPair, after b, ih after]

theorem fits_of_unspaced {indent : Nat} {scalar : Scalar}
    (inLine : '\n' ∉ (scalarText scalar).toList) (unspaced : ' ' ∉ (scalarText scalar).toList) :
    Fits indent scalar :=
  ⟨inLine, .inr (hasPair_eq_false _ fun _ member => beq_eq_false_iff_ne.mpr fun same =>
    unspaced (same ▸ member))⟩

/-! ## Kinds -/

/-- What the writer takes for a fraction has a point. -/
theorem ScalarKind.needs_point : floatPattern.Needs '.' := by
  have point : fraction.Needs '.' := Text.Pattern.needs_character.first
  have unusual : unusual.Needs '.' :=
    .either Text.Pattern.needs_character.second.first Text.Pattern.needs_character.first
  exact .either (.either (.either point.second.first Text.Pattern.needs_character.first.first)
    point.second) unusual

/-! ## Numerals -/

def signOf (negative : Bool) : List Char := if negative then ['-'] else []

/-- A character of a number that is written with digits. -/
def IsNumeralCharacter (c : Char) : Prop := c.isDigit = true ∨ c ∈ ['.', 'e', '+', '-']

instance : DecidablePred IsNumeralCharacter := fun c =>
  inferInstanceAs (Decidable (c.isDigit = true ∨ c ∈ ['.', 'e', '+', '-']))

theorem IsNumeralCharacter.all (property : Char → Prop)
    (digits : ∀ code < 58, 48 ≤ code → property (Char.ofNat code))
    (signs : property '.' ∧ property 'e' ∧ property '+' ∧ property '-') {c : Char}
    (numeral : IsNumeralCharacter c) : property c := by
  rcases numeral with digit | sign
  · exact Text.forall_isDigit property digits digit
  · simp only [List.mem_cons, List.not_mem_nil, or_false] at sign
    rcases sign with rfl | rfl | rfl | rfl
    · exact signs.1
    · exact signs.2.1
    · exact signs.2.2.1
    · exact signs.2.2.2

/-- A number that is written with digits, of which one stands first. -/
structure IsNumeral (text : List Char) : Prop where
  starts : ∃ c ∈ text.head?, c.isDigit = true
  characters : ∀ c ∈ text, IsNumeralCharacter c

namespace IsNumeral

variable {negative : Bool} {text : List Char}

theorem signed (numeral : IsNumeral text) : ∀ c ∈ signOf negative ++ text, IsNumeralCharacter c := by
  cases negative with
  | false => exact numeral.characters
  | true => exact List.forall_mem_cons.mpr ⟨.inr (by decide), numeral.characters⟩

theorem takeSign_eq (numeral : IsNumeral text) (negative : Bool) :
    Text.takeSign (signOf negative ++ text) = (negative, text) := by
  cases negative with
  | true => rfl
  | false =>
    obtain ⟨c, first, digit⟩ := numeral.starts
    obtain ⟨rest, rfl⟩ := List.head?_eq_some_iff.mp first
    change Text.takeSign (c :: rest) = _
    unfold Text.takeSign
    split
    · rename_i same
      cases same
      cases digit
    · rename_i same
      cases same
      cases digit
    · rfl

theorem ne_word (numeral : IsNumeral text) (word : List Char)
    (starts : word.head?.any Char.isDigit = false) : (text == word) = false := by
  obtain ⟨c, first, digit⟩ := numeral.starts
  rw [beq_eq_false_iff_ne]
  intro same
  rw [same] at first
  have letter : c.isDigit = false := by simpa [Option.mem_def.mp first] using starts
  exact Bool.false_ne_true (letter.symm.trans digit)

theorem unpadded_eq (numeral : IsNumeral text) : Text.unpadded text = text := by
  have visible : ∀ c ∈ text, Text.isNumeralBlank c = false := fun c member =>
    (numeral.characters c member).all (fun c => Text.isNumeralBlank c = false) (by decide)
      (by decide)
  have kept {text : List Char} (visible : ∀ c ∈ text, Text.isNumeralBlank c = false) :
      text.dropWhile Text.isNumeralBlank = text := by
    cases text with
    | nil => rfl
    | cons c rest => simp [visible c]
  rw [Text.unpadded, kept visible, kept (by simpa using visible), List.reverse_reverse]

private theorem hasInnerSign_eq (before : Char) (apart : ∀ c ∈ text, c ≠ ':' ∧ c ≠ '#') :
    TextTraits.hasInnerSign before text = false := by
  induction text generalizing before with
  | nil => rfl
  | cons c rest ih =>
    obtain ⟨⟨noColon, noHash⟩, after⟩ := List.forall_mem_cons.mp apart
    simp [TextTraits.hasInnerSign, noColon, noHash, ih c after]

private theorem isEmpty_eq (numeral : IsNumeral text) (negative : Bool) :
    (signOf negative ++ text).isEmpty = false := by
  obtain ⟨c, first, -⟩ := numeral.starts
  obtain ⟨rest, rfl⟩ := List.head?_eq_some_iff.mp first
  cases negative with
  | false => rfl
  | true => rfl

private theorem startsWithSign_eq (numeral : IsNumeral text) (negative : Bool) :
    TextTraits.startsWithSign (signOf negative ++ text) = false := by
  obtain ⟨c, first, digit⟩ := numeral.starts
  obtain ⟨rest, rfl⟩ := List.head?_eq_some_iff.mp first
  have facts : TextTraits.isLeadingSign c = false ∧ isBlank c = false ∧ isBreak c = false ∧ c ≠ '-' ∧
      c ≠ '.' ∧ c ≠ '?' ∧ c ≠ ':' := by
    refine Text.forall_isDigit (fun c => TextTraits.isLeadingSign c = false ∧
      isBlank c = false ∧ isBreak c = false ∧ c ≠ '-' ∧ c ≠ '.' ∧ c ≠ '?' ∧ c ≠ ':') ?_ digit
    decide
  obtain ⟨leading, blank, breaks, noDash, noPoint, noQuestion, noColon⟩ := facts
  cases negative with
  | false => simp [signOf, TextTraits.startsWithSign, leading, noDash, noPoint, noQuestion, noColon]
  | true =>
    have dash : TextTraits.isLeadingSign '-' = false := by decide
    simp [signOf, TextTraits.startsWithSign, dash, noDash, startsBlank, blank, breaks]

/-- A number is written without quotes. -/
theorem styleOf_eq (numeral : IsNumeral text) :
    TextStyle.of true false (signOf negative ++ text) = .plain := by
  have present := numeral.isEmpty_eq negative
  have starts := numeral.startsWithSign_eq negative
  have facts : ∀ c ∈ signOf negative ++ text, TextTraits.isOrdinary c = true ∧
      TextTraits.isLineEnd c = false ∧ c ≠ ' ' ∧ c ≠ ':' ∧ c ≠ '#' := by
    refine fun c member => (numeral.signed c member).all (fun c =>
      TextTraits.isOrdinary c = true ∧ TextTraits.isLineEnd c = false ∧ c ≠ ' ' ∧ c ≠ ':' ∧ c ≠ '#') ?_ ?_
    · decide
    · decide
  generalize signOf negative ++ text = shown at *
  have inner : TextTraits.hasInnerSign (shown.headD ' ') (shown.drop 1) = false :=
    hasInnerSign_eq _ fun c member => (facts c (List.mem_of_mem_drop member)).2.2.2
  have specials : shown.all TextTraits.isOrdinary = true :=
    List.all_eq_true.mpr fun c member => (facts c member).1
  have breaks : shown.any TextTraits.isLineEnd = false :=
    List.any_eq_false.mpr fun c member => by simp [(facts c member).2.1]
  have loose {c : Option Char} (here : ∀ d ∈ c, d ∈ shown) :
      (c.any fun c => c == ' ' || TextTraits.isLineEnd c) = false := by
    cases c with
    | none => rfl
    | some c => simp [(facts c (here c rfl)).2.1, (facts c (here c rfl)).2.2.1]
  have first := loose (c := shown.head?) fun c same => List.mem_of_mem_head? same
  have last := loose (c := shown.getLast?) fun c same => List.mem_of_mem_getLast? same
  have space : TextTraits.hasPair TextTraits.isLineEnd (· == ' ') shown = false :=
    hasPair_eq_false _ fun c member => by simp [(facts c member).2.2.1]
  have lineEnd : TextTraits.hasPair (· == ' ') TextTraits.isLineEnd shown = false :=
    hasPair_eq_false _ fun c member => (facts c member).2.1
  simp only [TextStyle.of, present, TextTraits.of, starts, inner, specials, breaks, first, last, space,
    lineEnd]
  rfl

theorem not_bool (numeral : IsNumeral text) (negative : Bool) :
    ScalarKind.boolPattern.accepts (signOf negative ++ text) = false := by
  rw [← Bool.not_eq_true]
  intro accepts
  obtain ⟨word, member, same⟩ := (Text.Pattern.accepts_anyWord _).mp accepts
  have heads : ∀ word ∈ ["yes", "Yes", "YES", "no", "No", "NO", "true", "True", "TRUE", "false", "False",
      "FALSE", "on", "On", "ON", "off", "Off", "OFF"],
      (word.toList.head?.map fun c => decide (IsNumeralCharacter c)) = some false := by decide +kernel
  obtain ⟨c, first, other⟩ := Option.map_eq_some_iff.mp (heads word member)
  rw [← same] at first
  exact of_decide_eq_false other (numeral.signed c (List.mem_of_mem_head? first))

private theorem withoutLastFeed_eq (numeral : IsNumeral text) :
    ScalarKind.withoutLastFeed (signOf negative ++ text) = signOf negative ++ text := by
  have inLine : (signOf negative ++ text).getLast? ≠ some '\n' := fun last =>
    absurd (numeral.signed '\n' (List.mem_of_mem_getLast? last)) (by decide)
  generalize signOf negative ++ text = shown at inLine
  simp [ScalarKind.withoutLastFeed, inLine]

theorem kind_of_float (numeral : IsNumeral text)
    (float : ScalarKind.floatPattern.accepts (signOf negative ++ text) = true) :
    ScalarKind.written (signOf negative ++ text) = .float ∧
      ScalarKind.read (signOf negative ++ text) = .float := by
  have noBool := numeral.not_bool negative
  rw [ScalarKind.read, numeral.withoutLastFeed_eq]
  simp [ScalarKind.written, ScalarKind.ofPatterns, ScalarKind.writerPatterns,
    ScalarKind.readerPatterns, noBool, float]

theorem kind_of_int (numeral : IsNumeral text) (unpointed : '.' ∉ text)
    (int : ScalarKind.intPattern.accepts (signOf negative ++ text) = true) :
    ScalarKind.written (signOf negative ++ text) = .int ∧
      ScalarKind.read (signOf negative ++ text) = .int := by
  have noBool := numeral.not_bool negative
  have noFloat : ScalarKind.floatPattern.accepts (signOf negative ++ text) = false := by
    rw [← Bool.not_eq_true]
    intro accepts
    have point := ScalarKind.needs_point _ accepts
    cases negative with
    | false => exact unpointed point
    | true => exact unpointed (by simpa [signOf] using point)
  rw [ScalarKind.read, numeral.withoutLastFeed_eq]
  simp [ScalarKind.written, ScalarKind.ofPatterns, ScalarKind.writerPatterns,
    ScalarKind.readerPatterns, noBool, noFloat, int]

theorem isKept (numeral : IsNumeral text) {scalar : Scalar}
    (shown : (scalarText scalar).toList = signOf negative ++ text)
    (written : ScalarKind.written (signOf negative ++ text) = kindOfScalar scalar)
    (reads : scalarOfTag (ScalarKind.read (signOf negative ++ text)).tag (scalarText scalar) = .ok scalar)
    (indent : Nat) : IsKept indent scalar := by
  have plain : isPlain scalar = true := by
    simp [isPlain, shown, written, numeral.styleOf_eq]
  have inLine : '\n' ∉ signOf negative ++ text := fun member =>
    absurd (numeral.signed _ member) (by decide)
  have unspaced : ' ' ∉ signOf negative ++ text := fun member =>
    absurd (numeral.signed _ member) (by decide)
  refine ⟨fits_of_unspaced (shown ▸ inLine) (shown ▸ unspaced), ?_⟩
  unfold IsClear scalarNode scalarTag
  rw [plain, shown]
  exact reads

/-- The size of a number is read off its characters, once its sign is taken. -/
theorem withoutSign_eq (numeral : IsNumeral text) :
    Number.withoutSign (signOf negative ++ text) = .ok (negative, text) := by
  have kept : (signOf negative ++ text).filter (· != '_') = signOf negative ++ text := by
    rw [List.filter_eq_self]
    exact fun c member => (numeral.signed c member).all (fun c => (c != '_') = true)
      (by decide) (by decide)
  have present := numeral.isEmpty_eq negative
  simp only [Number.withoutSign, kept, present, numeral.takeSign_eq]
  rfl

private theorem colonParts_eq (numeral : IsNumeral text) : Number.colonParts text = [text] := by
  have apart : ∀ c ∈ text, c ≠ ':' := fun c member =>
    (numeral.characters c member).all (fun c => c ≠ ':') (by decide) (by decide)
  clear numeral
  unfold Number.colonParts
  induction text with
  | nil => rfl
  | cons c rest ih =>
    obtain ⟨here, after⟩ := List.forall_mem_cons.mp apart
    rw [List.foldr_cons, ih after]
    split
    · exact absurd rfl here
    · simp_all
    · simp_all

end IsNumeral

theorem isNumeral_toDigits (number : Nat) : IsNumeral (Nat.toDigits 10 number) := by
  have digits : ∀ c ∈ Nat.toDigits 10 number, c.isDigit = true := fun c member =>
    Nat.isDigit_of_mem_toDigits (by decide) (by decide) member
  obtain ⟨c, rest, starts⟩ := List.exists_cons_of_ne_nil (Nat.toDigits_ne_nil (n := number) (b := 10))
  exact ⟨⟨c, by rw [starts]; rfl, digits c (by simp [starts])⟩, fun c member => .inl (digits c member)⟩

/-- A whole number does not start with a zero unless it is zero. -/
private theorem toDigits_starts {number : Nat} (positive : 0 < number) :
    ∃ c rest, Nat.toDigits 10 number = c :: rest ∧ c ≠ '0' := by
  induction number using Nat.strongRecOn with
  | ind number ih =>
    by_cases small : number < 10
    · rw [Nat.toDigits_of_lt_base small]
      refine ⟨_, [], rfl, ?_⟩
      have : ∀ n < 10, 0 < n → n.digitChar ≠ '0' := by decide
      exact this number small positive
    · rw [Nat.toDigits_of_base_le (by decide) (by omega)]
      obtain ⟨c, rest, starts, nonzero⟩ := ih (number / 10) (by omega) (by omega)
      exact ⟨c, rest ++ [(number % 10).digitChar], by rw [starts]; rfl, nonzero⟩

private theorem readInBase?_toDigits {number : Nat} (short : number < Text.unreadable) :
    Text.readInBase? 10 (Nat.toDigits 10 number) = some (number : Int) := by
  have numeral := isNumeral_toDigits number
  have sign : Text.takeSign (Nat.toDigits 10 number) = (false, Nat.toDigits 10 number) :=
    numeral.takeSign_eq false
  have mark : Text.withoutBaseMark 10 (Nat.toDigits 10 number) = Nat.toDigits 10 number := by
    unfold Text.withoutBaseMark
    split
    · rename_i starts
      exact starts.symm
    · rfl
  have length := Text.length_toDigits_le_iff.mpr short
  have value : Text.ofDigits? 10 (Nat.toDigits 10 number) = some number := by
    rw [Text.ofDigits?_ten Nat.toDigits_ne_nil fun c member =>
      Nat.isDigit_of_mem_toDigits (by decide) (by decide) member, Nat.ofDigitChars_ten_toDigits]
  simp only [Text.readInBase?, numeral.unpadded_eq, sign, mark, value]
  rw [if_neg (by simpa using length)]
  rfl

private theorem size_toDigits {number : Nat} (short : number < Text.unreadable) :
    Number.size (Nat.toDigits 10 number) = .ok (number : Int) := by
  have read := readInBase?_toDigits short
  have parts := (isNumeral_toDigits number).colonParts_eq
  rcases Nat.eq_zero_or_pos number with rfl | positive
  · rfl
  · obtain ⟨c, rest, starts, nonzero⟩ := toDigits_starts positive
    rw [starts] at read parts ⊢
    unfold Number.size
    split
    · cases ‹c :: rest = []›
    · simp_all
    · simp_all
    · simp_all
    · simp_all
    · simp [parts, read, Number.number]

private theorem accepts_int (number : Nat) (negative : Bool) :
    ScalarKind.intPattern.accepts (signOf negative ++ Nat.toDigits 10 number) = true := by
  have sign : ScalarKind.optionalSign.accepts (signOf negative) = true := by
    cases negative with
    | false => rfl
    | true => rfl
  have digits : (Text.Pattern.character '0' ||| (ScalarKind.among '1' '9' ++
      .many (ScalarKind.grouped Char.isDigit))).accepts (Nat.toDigits 10 number) = true := by
    rw [Text.Pattern.accepts_or, Bool.or_eq_true]
    have decimals : ∀ c ∈ Nat.toDigits 10 number, c.isDigit = true := fun c member =>
      Nat.isDigit_of_mem_toDigits (by decide) (by decide) member
    rcases Nat.eq_zero_or_pos number with rfl | positive
    · exact .inl rfl
    · right
      obtain ⟨c, rest, starts, nonzero⟩ := toDigits_starts positive
      rw [starts] at decimals ⊢
      obtain ⟨here, after⟩ := List.forall_mem_cons.mp decimals
      refine Text.Pattern.accepts_append ((Text.Pattern.accepts_one _ _).mpr ⟨c, rfl, ?_⟩)
        (Text.Pattern.accepts_many_one fun c member => by simp [after c member])
      refine Text.forall_isDigit (fun c => c ≠ '0' → ('1' ≤ c && c ≤ '9') = true) ?_ here
        nonzero
      decide
  simp only [ScalarKind.intPattern, Text.Pattern.accepts_or, Bool.or_eq_true]
  exact .inl (.inl (.inr (Text.Pattern.accepts_append sign digits)))

theorem isKept_int (indent : Nat) {number : Int} (short : number.natAbs < Text.unreadable) :
    IsKept indent (.int number) := by
  have shown : (scalarText (.int number)).toList =
      signOf (decide (number < 0)) ++ Nat.toDigits 10 number.natAbs := by
    have := Text.toList_toString number
    simpa [scalarText, signOf] using this
  have numeral := isNumeral_toDigits number.natAbs
  have unpointed : '.' ∉ Nat.toDigits 10 number.natAbs := Text.notMem_toDigits (by decide) _
  have kinds := numeral.kind_of_int unpointed (accepts_int number.natAbs (decide (number < 0)))
  refine numeral.isKept shown kinds.1 ?_ indent
  rw [kinds.2]
  change Scalar.int <$> Number.int (scalarText (.int number)).toList = _
  rw [shown, Number.int, numeral.withoutSign_eq]
  change Scalar.int <$> (Number.size (Nat.toDigits 10 number.natAbs) >>= fun value =>
    .ok (if decide (number < 0) then -value else value)) = _
  rw [size_toDigits short]
  change Except.ok (Scalar.int (if decide (number < 0) then -(number.natAbs : Int) else number.natAbs)) = _
  congr 2
  clear short
  by_cases below : number < 0
  · rw [if_pos (decide_eq_true below)]
    omega
  · rw [if_neg (by simpa using below)]
    omega

/-! ## Fractions -/

theorem isNumeral_text {decimal : Decimal} (wellFormed : decimal.IsWellFormed) : IsNumeral decimal.text := by
  obtain ⟨c, rest, starts⟩ := List.exists_cons_of_ne_nil wellFormed.present
  refine ⟨⟨c, ?_, wellFormed.whole c (by simp [starts])⟩, ?_⟩
  · simp [Decimal.text, starts]
  · have mark : ∀ c ∈ decimal.markText, IsNumeralCharacter c := by
      unfold Decimal.markText
      split
      · simp
      · rename_i negative power marked
        refine List.forall_mem_cons.mpr ⟨.inr (by decide), List.forall_mem_cons.mpr ⟨?_, ?_⟩⟩
        · cases negative with
          | false => exact .inr (by decide)
          | true => exact .inr (by decide)
        · exact fun c member => .inl ((wellFormed.mark _ marked).2 c member)
    exact List.forall_mem_append.mpr ⟨fun c member => .inl (wellFormed.whole c member),
      List.forall_mem_cons.mpr ⟨.inr (by decide), List.forall_mem_append.mpr
        ⟨fun c member => .inl (wellFormed.part c member), mark⟩⟩⟩

private theorem accepts_float {decimal : Decimal} (wellFormed : decimal.IsWellFormed) (negative : Bool) :
    ScalarKind.floatPattern.accepts (signOf negative ++ decimal.text) = true := by
  have one {c : Char} {test : Char → Bool} (passes : test c = true) :
      (Text.Pattern.one test).accepts [c] = true :=
    (Text.Pattern.accepts_one _ _).mpr ⟨c, rfl, passes⟩
  have grouped {digits : List Char} (decimals : ∀ c ∈ digits, c.isDigit = true) :
      (Text.Pattern.many (ScalarKind.grouped Char.isDigit)).accepts digits = true :=
    Text.Pattern.accepts_many_one fun c member => by simp [decimals c member]
  have sign : ScalarKind.optionalSign.accepts (signOf negative) = true := by
    cases negative with
    | false => rfl
    | true => rfl
  have whole : ScalarKind.digits.accepts decimal.whole = true := by
    obtain ⟨c, rest, starts⟩ := List.exists_cons_of_ne_nil wellFormed.present
    have decimals := wellFormed.whole
    rw [starts] at decimals ⊢
    obtain ⟨here, after⟩ := List.forall_mem_cons.mp decimals
    exact Text.Pattern.accepts_append (one here) (grouped after)
  have part : ScalarKind.fraction.accepts ('.' :: decimal.part) = true :=
    Text.Pattern.accepts_append (one BEq.rfl) (grouped wellFormed.part)
  have mark : (Text.Pattern.optional (ScalarKind.exponent ScalarKind.plusOrMinus)).accepts
      decimal.markText = true := by
    rw [Text.Pattern.accepts_optional]
    unfold Decimal.markText
    cases marked : decimal.mark with
    | none => exact .inl rfl
    | some mark =>
      obtain ⟨negative, power⟩ := mark
      obtain ⟨present, decimals⟩ := wellFormed.mark _ marked
      right
      refine Text.Pattern.accepts_append (?_ : Text.Pattern.accepts _ ['e', _] = true)
        (Text.Pattern.accepts_some_one present decimals)
      refine Text.Pattern.accepts_append (one rfl) (one ?_)
      cases negative with
      | false => rfl
      | true => rfl
  simp only [ScalarKind.floatPattern, Text.Pattern.accepts_or, Bool.or_eq_true]
  have all := Text.Pattern.accepts_append (Text.Pattern.accepts_append
    (Text.Pattern.accepts_append sign whole) part) mark
  exact .inl (.inl (.inl (by simpa [Decimal.text] using all)))

private theorem map_toLower {text : List Char} (numeral : ∀ c ∈ text, IsNumeralCharacter c) :
    text.map Char.toLower = text := by
  refine (List.map_congr_left fun c member => ?_).trans (List.map_id text)
  exact (numeral c member).all (fun c => c.toLower = id c) (by decide) (by decide)

private theorem readFraction?_text {decimal : Decimal} (wellFormed : decimal.IsWellFormed) :
    Text.readFraction? decimal.text =
      some (Binary64.ofDecimal false decimal.digits decimal.power) := by
  have numeral := isNumeral_text wellFormed
  have sign : Text.takeSign decimal.text = (false, decimal.text) := numeral.takeSign_eq false
  have inf := numeral.ne_word "inf".toList (by decide)
  have infinity := numeral.ne_word "infinity".toList (by decide)
  have nan := numeral.ne_word "nan".toList (by decide)
  simp only [Text.readFraction?, numeral.unpadded_eq, sign, map_toLower numeral.characters, inf,
    infinity, nan, Decimal.readUnsigned?_text wellFormed]
  rfl

private theorem float_text {decimal : Decimal} (wellFormed : decimal.IsWellFormed) (negative : Bool) :
    Number.float (signOf negative ++ decimal.text) =
      .ok (if negative then (Binary64.ofDecimal false decimal.digits decimal.power).negate
        else Binary64.ofDecimal false decimal.digits decimal.power) := by
  have numeral := isNumeral_text wellFormed
  have inf := numeral.ne_word ".inf".toList (by decide)
  have nan := numeral.ne_word ".nan".toList (by decide)
  have colon : decimal.text.contains ':' = false := by
    rw [← Bool.not_eq_true, List.contains_iff_mem]
    exact fun member => absurd (numeral.characters _ member) (by decide)
  have size : Number.fraction decimal.text =
      .ok (Binary64.ofDecimal false decimal.digits decimal.power) := by
    rw [Number.fraction, if_neg (Bool.eq_false_iff.mp inf), if_neg (Bool.eq_false_iff.mp nan),
      if_neg (Bool.eq_false_iff.mp colon), readFraction?_text wellFormed]
    rfl
  rw [Number.float, map_toLower numeral.signed, numeral.withoutSign_eq]
  change (Number.fraction decimal.text >>= fun value =>
    .ok (if negative then value.negate else value)) = _
  rw [size]
  rfl

theorem isKept_real (indent : Nat) {value : Binary64} (wellFormed : value.IsWellFormed) :
    IsKept indent (.real value) := by
  cases value with
  | notANumber => exact ⟨fits_of_unspaced (by decide) (by decide), rfl⟩
  | infinite negative =>
    cases negative with
    | false => exact ⟨fits_of_unspaced (by decide) (by decide), rfl⟩
    | true => exact ⟨fits_of_unspaced (by decide) (by decide), rfl⟩
  | finite negative mantissa exponent =>
    obtain ⟨decimal, well, shown, reads⟩ := Binary64.exists_decimal_of_text negative wellFormed
    have numeral := isNumeral_text well
    have text : (scalarText (.real (.finite negative mantissa exponent))).toList =
        signOf negative ++ decimal.text := by
      rw [← show _ = signOf negative ++ decimal.text from shown]
      simp only [scalarText, writtenReal, Decimal.pointed]
      split
      · rw [String.toList_ofList]
      · rfl
    have kinds := numeral.kind_of_float (accepts_float well negative)
    refine numeral.isKept text kinds.1 ?_ indent
    rw [kinds.2]
    change Scalar.real <$> Number.float (scalarText (.real (.finite negative mantissa exponent))).toList = _
    rw [text, float_text well, reads]
    cases negative with
    | false => rfl
    | true => rfl

/-! ## Other scalars -/

theorem isKept_null (indent : Nat) : IsKept indent .null := ⟨fits_of_unspaced (by decide) (by decide), rfl⟩

theorem isKept_bool (indent : Nat) (value : Bool) : IsKept indent (.bool value) := by
  cases value with
  | false =>
    refine ⟨fits_of_unspaced (by decide) (by decide), ?_⟩
    unfold IsClear
    decide +kernel
  | true =>
    refine ⟨fits_of_unspaced (by decide) (by decide), ?_⟩
    unfold IsClear
    decide +kernel

/-! ## Texts -/

private theorem plain_of_isPlain {text : String} (plain : isPlain (.text text) = true) :
    ScalarKind.written text.toList = .text ∧ TextTraits.startsWithSign text.toList = false ∧
      '\n' ∉ text.toList := by
  have kind : kindOfScalar (.text text) = .text := rfl
  have same : scalarText (.text text) = text := rfl
  unfold isPlain TextStyle.of at plain
  simp only [kind, same, beq_iff_eq] at plain
  generalize text.toList = characters at plain ⊢
  split at plain
  · rename_i empty
    obtain rfl := List.isEmpty_iff.mp empty
    split at plain
    · rename_i back
      exact ⟨by simpa using back, rfl, by simp⟩
    · cases plain
  · rename_i present
    obtain ⟨c, rest, rfl⟩ := List.exists_cons_of_ne_nil (fun empty => present (List.isEmpty_iff.mpr empty))
    split at plain
    · rename_i traits
      simp only [Bool.and_eq_true, Bool.not_eq_true', beq_iff_eq] at traits
      obtain ⟨⟨⟨⟨written, noSigns⟩, noBreaks⟩, -⟩, -⟩ := traits
      refine ⟨written, (Bool.or_eq_false_iff.mp noSigns).1, fun member => ?_⟩
      exact Bool.false_ne_true (noBreaks.symm.trans (List.any_eq_true.mpr ⟨_, member, rfl⟩))
    · split at plain
      · cases plain
      · cases plain

/-- A text without quotes is a text for the reader unless it is one of the fractions that the reader alone
knows. -/
theorem read_of_isPlain {text : String} (plain : isPlain (.text text) = true)
    (firm : ScalarKind.looseFloatPattern.accepts text.toList = false) :
    ScalarKind.read text.toList = .text := by
  obtain ⟨written, noSign, inLine⟩ := plain_of_isPlain plain
  generalize text.toList = characters at *
  have unbroken : ScalarKind.withoutLastFeed characters = characters := by
    have last : characters.getLast? ≠ some '\n' := fun last => inLine (List.mem_of_mem_getLast? last)
    simp [ScalarKind.withoutLastFeed, last]
  have apart : ∀ entry ∈ ScalarKind.writerPatterns, entry.2.accepts characters = false := by
    unfold ScalarKind.written ScalarKind.ofPatterns at written
    cases found : ScalarKind.writerPatterns.find? fun entry => entry.2.accepts characters with
    | none => simpa using List.find?_eq_none.mp found
    | some entry =>
      have member := List.mem_of_find?_eq_some found
      rw [found] at written
      have kinds : ∀ entry ∈ ScalarKind.writerPatterns, entry.1 ≠ .text := by simp [ScalarKind.writerPatterns]
      exact absurd written (kinds entry member)
  have noMark : (Text.Pattern.oneOf "!&*").accepts characters = false := by
    rw [← Bool.not_eq_true]
    intro accepts
    obtain ⟨c, rfl, mark⟩ := (Text.Pattern.accepts_one _ _).mp accepts
    have marks : "!&*".toList.all (TextTraits.startsWithSign [·]) = true := by decide
    exact Bool.false_ne_true
      (noSign.symm.trans (List.all_eq_true.mp marks c (List.contains_iff_mem.mp mark)))
  rw [ScalarKind.read, unbroken, ScalarKind.ofPatterns]
  simp only [ScalarKind.writerPatterns, List.forall_mem_cons] at apart
  simp [ScalarKind.readerPatterns, apart, noMark, firm]

/-- A fraction begins with a sign, a digit or a point. -/
theorem ScalarKind.begins_looseFloatPattern :
    looseFloatPattern.Begins ("+-.0123456789".toList.contains ·) := by
  have sign : plusOrMinus.Begins ("+-.0123456789".toList.contains ·) :=
    Text.Pattern.begins_one (by simp)
  have point : (Text.Pattern.character '.').Begins ("+-.0123456789".toList.contains ·) :=
    Text.Pattern.begins_one (by simp)
  have digit : digit.Begins ("+-.0123456789".toList.contains ·) := Text.Pattern.begins_one fun _ =>
    Text.forall_isDigit (fun c => "+-.0123456789".toList.contains c = true) (by decide)
  have groups : groups.Begins ("+-.0123456789".toList.contains ·) := digit.first.first
  have unusual : unusual.Begins ("+-.0123456789".toList.contains ·) :=
    .either (sign.behind point).first point.first
  have signed := sign.behind groups
  exact .either (.either (.either (.either signed.first.first signed.first) point.first.first)
    signed.first.first) unusual

end UnitLift.Yaml
