import Mathlib.Algebra.Ring.Nat
import UnitLift.Proofs.Yaml.Folding

namespace UnitLift.Yaml

open LineBreaking

namespace QuotedText

/-! ## Escapes -/

private theorem hexValue?_digitChar {digit : Nat} (least : digit < 16) :
    hexValue? digit.digitChar.toUpper = some digit := by
  have each : ∀ digit < 16, hexValue? (Nat.digitChar digit).toUpper = some digit := by decide
  exact each digit least

private theorem hexNumber?_concat (digits : List Char) {c : Char} {number digit : Nat}
    (read : hexNumber? digits = some number) (last : hexValue? c = some digit) :
    hexNumber? (digits ++ [c]) = some (number * 16 + digit) := by
  simp only [hexNumber?, List.foldl_append, List.foldl_cons, List.foldl_nil] at read ⊢
  rw [read, last]
  rfl

private theorem hexNumber?_zeros (count : Nat) (digits : List Char) :
    hexNumber? (List.replicate count '0' ++ digits) = hexNumber? digits := by
  induction count with
  | zero => rfl
  | succ count ih =>
    rw [List.replicate_succ, List.cons_append, ← ih]
    rfl

theorem hexNumber?_toDigits (number : Nat) :
    hexNumber? ((Nat.toDigits 16 number).map Char.toUpper) = some number := by
  induction number using Nat.strongRecOn with
  | ind number ih =>
    rcases Nat.lt_or_ge number 16 with one | more
    · rw [Nat.toDigits_of_lt_base one]
      simpa using hexNumber?_concat [] rfl (hexValue?_digitChar one)
    · have lead := ih (number / 16) (by omega)
      have last := hexValue?_digitChar (Nat.mod_lt number (by decide : 0 < 16))
      rw [Nat.toDigits_of_base_le (by decide) more, List.map_append, List.map_singleton,
        hexNumber?_concat _ lead last]
      congr 1
      omega

theorem hexNumber?_code (width : Nat) (c : Char) : hexNumber? (code width c) = some c.toNat := by
  have zero : Char.toUpper '0' = '0' := rfl
  rw [code, Text.hexPadded, List.map_append, List.map_replicate, zero, hexNumber?_zeros,
    hexNumber?_toDigits]

theorem length_code {width : Nat} (positive : 0 < width) {c : Char} (fits : c.toNat < 16 ^ width) :
    (code width c).length = width := by
  have digits : (Nat.toDigits 16 c.toNat).length ≤ width :=
    (Nat.length_toDigits_le_iff (by decide) positive).mpr fits
  simp only [code, Text.hexPadded, List.length_map, List.length_append, List.length_replicate]
  omega

theorem takeCode_code {width : Nat} (positive : 0 < width) {c : Char} (fits : c.toNat < 16 ^ width)
    (rest : List Char) : takeCode width (code width c ++ rest) = .ok (c, rest) := by
  have length := length_code positive fits
  have valid : c.toNat.isValidChar := c.valid
  simp only [takeCode]
  rw [List.take_left' length, List.drop_left' length, hexNumber?_code]
  simp [length, valid, Char.ofNat_toNat]

private theorem simpleEscape?_of_letter? {c letter : Char} (named : letter? c = some letter) :
    simpleEscape? letter = some c ∧ IsOrdinary letter := by
  obtain ⟨before, after, same, -⟩ := List.lookup_eq_some_iff.mp named
  have member : (c, letter) ∈ before ++ (c, letter) :: after := by simp
  rw [← same] at member
  simp only [List.mem_cons, Prod.mk.injEq, List.not_mem_nil, or_false] at member
  rcases member with ⟨rfl, rfl⟩ | ⟨rfl, rfl⟩ | ⟨rfl, rfl⟩ | ⟨rfl, rfl⟩ | ⟨rfl, rfl⟩ | ⟨rfl, rfl⟩ |
    ⟨rfl, rfl⟩ | ⟨rfl, rfl⟩ | ⟨rfl, rfl⟩ | ⟨rfl, rfl⟩ | ⟨rfl, rfl⟩ | ⟨rfl, rfl⟩ | ⟨rfl, rfl⟩ |
    ⟨rfl, rfl⟩ | ⟨rfl, rfl⟩
  all_goals exact ⟨rfl, by decide⟩

/-- An escape is a letter that stands for the character, or one that says how many digits of its code
follow. -/
private inductive EscapeOf (c : Char) : List Char → Prop
  | letter {letter : Char} (named : simpleEscape? letter = some c) (ordinary : IsOrdinary letter) :
      EscapeOf c ['\\', letter]
  | code {letter : Char} {width : Nat} (counts : codeLength? letter = some width)
      (unnamed : simpleEscape? letter = none) (ordinary : IsOrdinary letter)
      (positive : 0 < width) (fits : c.toNat < 16 ^ width) :
      EscapeOf c ('\\' :: letter :: code width c)

private theorem escapeOf_escape {c : Char} {escape : List Char} (escapes : escape? c = some escape) :
    EscapeOf c escape := by
  unfold escape? at escapes
  split at escapes
  · cases escapes
  · split at escapes
    · rename_i letter named
      cases escapes
      obtain ⟨named, ordinary⟩ := simpleEscape?_of_letter? named
      exact .letter named ordinary
    · split at escapes
      · rename_i small
        cases escapes
        exact .code rfl rfl (by decide) (by decide) small
      · split at escapes
        · rename_i small
          cases escapes
          exact .code rfl rfl (by decide) (by decide) small
        · cases escapes
          have bound : c.toNat < 16 ^ 8 := by
            have valid := c.valid
            simp only [UInt32.isValidChar, Nat.isValidChar] at valid
            change c.val.toNat < _
            omega
          exact .code rfl rfl (by decide) (by decide) bound

theorem takeEscape_escape {c : Char} {escape : List Char} (escapes : escape? c = some escape)
    (rest : List Char) :
    ∃ code, escape = '\\' :: code ∧ takeEscape (code ++ rest) = .ok ([c], rest) := by
  cases escapeOf_escape escapes with
  | letter named => exact ⟨_, rfl, by simp [takeEscape, named]⟩
  | code counts unnamed _ positive fits =>
    refine ⟨_, rfl, ?_⟩
    simp only [List.cons_append, takeEscape, unnamed, counts, takeCode_code positive fits]
    rfl

theorem length_escape_le {c : Char} {escape : List Char} (escapes : escape? c = some escape) :
    escape.length ≤ 10 := by
  cases escapeOf_escape escapes with
  | letter => simp
  | @code letter width counts _ _ positive fits =>
    obtain ⟨before, after, same, -⟩ := List.lookup_eq_some_iff.mp counts
    have known : (letter, width) ∈ [('x', 2), ('u', 4), ('U', 8)] := by simp [same]
    have short : width ≤ 8 :=
      (by decide : ∀ entry ∈ [('x', 2), ('u', 4), ('U', 8)], entry.2 ≤ 8) _ known
    simp only [List.length_cons, length_code positive fits]
    omega

private theorem digit_of_mem_toDigits {number : Nat} {c : Char}
    (member : c ∈ Nat.toDigits 16 number) : ∃ digit < 16, c = Nat.digitChar digit := by
  induction number using Nat.strongRecOn with
  | ind number ih =>
    rcases Nat.lt_or_ge number 16 with one | more
    · rw [Nat.toDigits_of_lt_base one, List.mem_singleton] at member
      exact ⟨number, one, member⟩
    · rw [Nat.toDigits_of_base_le (by decide) more, List.mem_append, List.mem_singleton] at member
      rcases member with lead | last
      · exact ih (number / 16) (by omega) lead
      · exact ⟨_, Nat.mod_lt number (by decide), last⟩

private theorem isOrdinary_code (width : Nat) (c : Char) : ∀ d ∈ code width c, IsOrdinary d := by
  intro d member
  rw [code, List.mem_map] at member
  obtain ⟨lower, member, rfl⟩ := member
  rcases List.mem_append.mp member with zero | member
  · rw [List.eq_of_mem_replicate zero]
    decide
  · obtain ⟨digit, least, rfl⟩ := digit_of_mem_toDigits member
    have each : ∀ digit < 16, IsOrdinary (Nat.digitChar digit).toUpper := by decide
    exact each digit least

theorem isOrdinary_escape {c : Char} {escape : List Char} (escapes : escape? c = some escape) :
    ∀ d ∈ escape, IsOrdinary d := by
  have backslash : IsOrdinary '\\' := by decide
  cases escapeOf_escape escapes with
  | letter _ ordinary => simp [backslash, ordinary]
  | code _ _ ordinary =>
    simp only [List.forall_mem_cons]
    exact ⟨backslash, ordinary, isOrdinary_code _ c⟩

/-! ## Broken lines -/

/-- A text as it is written in double quotes. Between any two characters the line may be broken, with
a backslash before the break; a space in front has a backslash before it then. -/
inductive Escaped (indent : Nat) : List Char → List Char → Prop
  | nil : Escaped indent [] []
  | kept {c : Char} {text written : List Char} (plain : escape? c = none)
      (rest : Escaped indent text written) : Escaped indent (c :: text) (c :: written)
  | escape {c : Char} {escape text written : List Char} (escapes : escape? c = some escape)
      (rest : Escaped indent text written) : Escaped indent (c :: text) (escape ++ written)
  | broken {text written : List Char} (visible : text.head? ≠ some ' ')
      (rest : Escaped indent text written) :
      Escaped indent text ('\\' :: '\n' :: (List.replicate indent ' ' ++ written))
  | brokenSpace {text written : List Char} (rest : Escaped indent text written) :
      Escaped indent (' ' :: text)
        ('\\' :: '\n' :: (List.replicate indent ' ' ++ '\\' :: ' ' :: written))

variable {indent : Nat} {text written tail : List Char}

/-- Far from the start of a line, no escape is followed by a space. There the line would be broken
twice, and a backslash too many would come of it. -/
def BreaksOnce (indent : Nat) (text : List Char) : Prop :=
  indent < lineWidth ∨ TextTraits.hasPair (fun c => (escape? c).isSome) (· == ' ') text = false

instance (indent : Nat) (text : List Char) : Decidable (BreaksOnce indent text) :=
  inferInstanceAs (Decidable (_ ∨ _))

theorem BreaksOnce.of_cons {c : Char} (once : BreaksOnce indent (c :: text)) :
    BreaksOnce indent text := by
  refine once.imp_right fun apart => ?_
  cases text with
  | nil => rfl
  | cons d rest =>
    rw [TextTraits.hasPair, Bool.or_eq_false_iff] at apart
    exact apart.2

private theorem Escaped.tail_of_space (escaped : Escaped indent (' ' :: text) (' ' :: written)) :
    Escaped indent text written := by
  generalize start : ' ' :: written = whole at escaped
  cases escaped with
  | kept _ rest =>
    cases start
    exact rest
  | escape escapes => cases escapes
  | broken => cases start
  | brokenSpace => cases start

theorem escaped_escaped (breaking : LineBreaking) (first afterEscape : Bool) (column : Nat)
    (once : BreaksOnce breaking.indent text) :
    Escaped breaking.indent text (breaking.escaped first afterEscape column text) := by
  fun_induction LineBreaking.escaped breaking first afterEscape column text with
  | case1 => exact .nil
  | case2 first afterEscape column c rest =>
    rename_i escape escapes column breaks mark ih
    have follows := ih once.of_cons
    by_cases space : rest.head? = some ' '
    · obtain ⟨more, rfl⟩ : ∃ more, rest = ' ' :: more := List.head?_eq_some_iff.mp space
      have near : breaking.indent < lineWidth := by
        refine once.resolve_right fun apart => ?_
        simp [TextTraits.hasPair, escapes] at apart
      have marked : mark = ['\\'] := rfl
      have unbroken : breaking.escaped false true (breaking.indent + mark.length) (' ' :: more) =
          ' ' :: breaking.escaped false false (breaking.indent + mark.length + 1) more := by
        have plain : escape? ' ' = none := rfl
        have within : ¬lineWidth < breaking.indent + 1 := by omega
        rw [LineBreaking.escaped, plain]
        simp [marked, within]
      rw [unbroken] at follows ⊢
      simpa [marked, LineBreaking.spaces] using
        Escaped.escape escapes (.brokenSpace follows.tail_of_space)
    · have unmarked : mark = [] := by simp [mark, space]
      simpa [unmarked, LineBreaking.spaces] using Escaped.escape escapes (.broken space follows)
  | case3 first afterEscape column c rest =>
    rename_i escapes _ _ ih
    exact .escape escapes (ih once.of_cons)
  | case4 first afterEscape column c rest =>
    rename_i plain breaks mark ih
    have follows := ih once.of_cons
    by_cases space : c = ' '
    · subst space
      simpa [mark, LineBreaking.spaces] using Escaped.brokenSpace follows
    · have visible : (c :: rest).head? ≠ some ' ' := by simpa using space
      simpa [mark, space, LineBreaking.spaces] using Escaped.broken visible (.kept plain follows)
  | case5 first afterEscape column c rest =>
    rename_i plain _ ih
    exact .kept plain (ih once.of_cons)

private theorem of_escape?_eq_none {c : Char} (plain : escape? c = none) :
    IsOrdinary c ∧ c ≠ Text.doubleQuote ∧ c ≠ '\\' := by
  unfold escape? at plain
  split at plain
  · rename_i inside
    simp only [Bool.and_eq_true, decide_eq_true_eq, bne_iff_ne] at inside
    exact ⟨⟨inside.1.1.1, inside.1.1.2⟩, inside.1.2, inside.2⟩
  · split at plain
    · cases plain
    · split at plain
      · cases plain
      · split at plain
        · cases plain
        · cases plain

theorem isOrdinary_encoded (c : Char) : ∀ d ∈ (escape? c).getD [c], IsOrdinary d := by
  cases found : escape? c with
  | none => simpa using (of_escape?_eq_none found).1
  | some escape => exact isOrdinary_escape found

theorem Escaped.isWritten (escaped : Escaped indent text written) :
    ∀ c ∈ written, IsWritten c := by
  have spaces : ∀ c ∈ List.replicate indent ' ', IsWritten c := by
    intro c member
    rw [List.eq_of_mem_replicate member]
    exact .inl (by decide)
  have backslash : IsWritten '\\' := .inl (by decide)
  have space : IsWritten ' ' := .inl (by decide)
  induction escaped with
  | nil => simp
  | kept plain _ ih => exact List.forall_mem_cons.mpr ⟨.inl (of_escape?_eq_none plain).1, ih⟩
  | escape escapes _ ih =>
    exact List.forall_mem_append.mpr ⟨fun c member => .inl (isOrdinary_escape escapes c member), ih⟩
  | broken _ _ ih =>
    simp only [List.forall_mem_cons, List.forall_mem_append]
    exact ⟨backslash, .inr rfl, spaces, ih⟩
  | brokenSpace _ ih =>
    simp only [List.forall_mem_cons, List.forall_mem_append]
    exact ⟨backslash, .inr rfl, spaces, backslash, space, ih⟩

/-- Where lines may not be broken, each character is written by itself. -/
theorem escaped_of_not_allowed {breaking : LineBreaking} (unbroken : breaking.allowed = false)
    (first afterEscape : Bool) (column : Nat) :
    breaking.escaped first afterEscape column text =
      text.flatMap fun c => (escape? c).getD [c] := by
  fun_induction LineBreaking.escaped breaking first afterEscape column text with
  | case1 => rfl
  | case2 first afterEscape column c rest mayBreak =>
    rename_i breaks _ _
    simp [mayBreak, unbroken] at breaks
  | case3 first afterEscape column c rest =>
    rename_i escapes _ _ ih
    rw [ih, List.flatMap_cons, escapes]
    rfl
  | case4 first afterEscape column c rest mayBreak =>
    rename_i breaks _ _
    simp [mayBreak, unbroken] at breaks
  | case5 first afterEscape column c rest =>
    rename_i plain _ ih
    rw [ih, List.flatMap_cons, plain]
    rfl

/-- What does not start with a space is written with a visible character in front. -/
private theorem Escaped.head (escaped : Escaped indent text written)
    (visible : text.head? ≠ some ' ') (tail : List Char) :
    ∃ c rest, written ++ Text.doubleQuote :: tail = c :: rest ∧ IsOrdinary c ∧ c ≠ ' ' := by
  cases escaped with
  | nil => exact ⟨_, _, rfl, by decide, by decide⟩
  | kept plain =>
    exact ⟨_, _, rfl, (of_escape?_eq_none plain).1, fun same => visible (congrArg some same)⟩
  | escape escapes =>
    obtain ⟨code, rfl, -⟩ := takeEscape_escape escapes []
    exact ⟨_, _, rfl, by decide, by decide⟩
  | broken => exact ⟨_, _, rfl, by decide, by decide⟩
  | brokenSpace => exact ⟨_, _, rfl, by decide, by decide⟩

private theorem readFrom_backslash {rest after part text final : List Char} {fuel : Nat}
    (escape : takeEscape rest = .ok (part, after))
    (read : readFrom true fuel after = .ok (text, final)) :
    readFrom true (fuel + 1) ('\\' :: rest) = .ok (part ++ text, final) := by
  have backslash : (true && '\\' == Text.doubleQuote) = false ∧
      (!true && '\\' == Text.singleQuote) = false ∧ (isBlank '\\' || isBreak '\\') = false := by
    decide
  simp only [readFrom, backslash, Bool.false_eq_true, ↓reduceIte, BEq.rfl, Bool.and_self, escape]
  exact readFrom_part _ read

/-- A break after a backslash stands for nothing. -/
private theorem takeEscape_break {c : Char} {rest : List Char} (ordinary : IsOrdinary c)
    (visible : c ≠ ' ') (indented : 0 < indent) :
    takeEscape ('\n' :: (List.replicate indent ' ' ++ c :: rest)) = .ok ([], c :: rest) := by
  have breaks : takeBreak? ('\n' :: (List.replicate indent ' ' ++ c :: rest)) =
      some ('\n', List.replicate indent ' ' ++ c :: rest) := by
    simp [takeBreak?]
  have unnamed : simpleEscape? '\n' = none ∧ codeLength? '\n' = none := by decide
  simp only [takeEscape, unnamed, breaks, skipLines_spaces ordinary visible indented]

/-- A text that is written in double quotes is read back up to the quote that ends it. There may be
spaces before it that have not been read yet. -/
theorem readFrom_escaped (escaped : Escaped indent text written) (indented : 0 < indent)
    (spaces : Nat) {fuel : Nat} (enough : spaces + written.length + 1 < fuel) :
    readFrom true fuel (List.replicate spaces ' ' ++ (written ++ Text.doubleQuote :: tail)) =
      .ok (List.replicate spaces ' ' ++ text, tail) := by
  induction escaped generalizing spaces fuel with
  | nil =>
    refine readFrom_spaced (by decide) (by decide) 0 (fun fuel enough => ?_) (by omega)
    obtain ⟨more, rfl⟩ : ∃ more, fuel = more + 1 := ⟨fuel - 1, by omega⟩
    rfl
  | @kept c text written plain rest ih =>
    obtain ⟨here, noQuote, noBackslash⟩ := of_escape?_eq_none plain
    rw [List.length_cons] at enough
    by_cases space : c = ' '
    · subst space
      rw [List.cons_append, replicate_append_space, replicate_append_space]
      exact ih _ (by omega)
    · refine readFrom_spaced here space (written.length + 2) (fun fuel enough => ?_)
        (by omega)
      obtain ⟨more, rfl⟩ : ∃ more, fuel = more + 1 := ⟨fuel - 1, by omega⟩
      have read := readFrom_part [c] (@ih 0 more (by omega))
      simpa [readFrom, noQuote, noBackslash, here.isBlank_eq, here.isBreak_eq, space] using read
  | @escape c _ text written escapes rest ih =>
    obtain ⟨code, rfl, read⟩ := takeEscape_escape escapes (written ++ Text.doubleQuote :: tail)
    rw [List.length_append, List.length_cons] at enough
    rw [List.cons_append, List.cons_append, List.append_assoc]
    refine readFrom_spaced (by decide) (by decide) (written.length + 2)
      (fun fuel enough => ?_) (by omega)
    obtain ⟨more, rfl⟩ : ∃ more, fuel = more + 1 := ⟨fuel - 1, by omega⟩
    exact readFrom_backslash read (ih 0 (by omega))
  | @broken text written visible rest ih =>
    obtain ⟨c, following, starts, ordinary, unspaced⟩ := rest.head visible tail
    simp only [List.length_cons, List.length_append, List.length_replicate] at enough
    simp only [List.cons_append, List.append_assoc]
    refine readFrom_spaced (by decide) (by decide) (written.length + 2)
      (fun fuel enough => ?_) (by omega)
    obtain ⟨more, rfl⟩ : ∃ more, fuel = more + 1 := ⟨fuel - 1, by omega⟩
    have next := @ih 0 more (by omega)
    rw [starts] at next ⊢
    exact readFrom_backslash (takeEscape_break ordinary unspaced indented) next
  | @brokenSpace text written rest ih =>
    simp only [List.length_cons, List.length_append, List.length_replicate] at enough
    simp only [List.cons_append, List.append_assoc]
    refine readFrom_spaced (by decide) (by decide) (written.length + 3)
      (fun fuel enough => ?_) (by omega)
    obtain ⟨more, rfl⟩ : ∃ more, fuel = more + 2 := ⟨fuel - 2, by omega⟩
    have next := @ih 0 more (by omega)
    have space : takeEscape (' ' :: (written ++ Text.doubleQuote :: tail)) =
        .ok ([' '], written ++ Text.doubleQuote :: tail) := rfl
    exact readFrom_backslash (takeEscape_break (by decide) (by decide) indented)
      (readFrom_backslash space next)

end QuotedText

end UnitLift.Yaml
