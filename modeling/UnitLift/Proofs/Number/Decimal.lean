import UnitLift.Proofs.Number.Binary64
import UnitLift.Proofs.Text.Numeral
import UnitLift.Text.Fraction

namespace UnitLift

theorem Text.forall_isDigit (property : Char → Prop)
    (each : ∀ code < 58, 48 ≤ code → property (Char.ofNat code)) {c : Char} (digit : c.isDigit = true) :
    property c := by
  have range : 48 ≤ c.toNat ∧ c.toNat ≤ 57 := by
    simpa [Char.isDigit, UInt32.le_iff_toNat_le] using digit
  have given := each c.toNat (by omega) range.1
  rwa [Char.ofNat_toNat] at given

/-- Digits are read to the base ten as the number that they stand for. -/
theorem Text.ofDigits?_ten {digits : List Char} (present : digits ≠ [])
    (decimal : ∀ c ∈ digits, c.isDigit = true) :
    ofDigits? 10 digits = some (Nat.ofDigitChars 10 digits 0) := by
  have each (start : Nat) : digits.foldl (fun value c => do
      let digit ← anyDigitValue? c
      if digit < 10 then some ((← value) * 10 + digit) else none) (some start) =
        some (Nat.ofDigitChars 10 digits start) := by
    clear present
    induction digits generalizing start with
    | nil => rfl
    | cons c rest ih =>
      obtain ⟨here, after⟩ := List.forall_mem_cons.mp decimal
      have small : anyDigitValue? c = some (c.toNat - 48) ∧ c.toNat - 48 < 10 := by
        refine forall_isDigit (fun c => anyDigitValue? c = some (c.toNat - 48) ∧ c.toNat - 48 < 10) ?_ here
        decide
      have next := ih after (10 * start + (c.toNat - 48))
      rw [List.foldl_cons, Nat.ofDigitChars_cons]
      simp only [small.1, Option.bind_eq_bind, Option.bind_some, small.2, ↓reduceIte, Nat.mul_comm start]
      exact next
  rw [ofDigits?, if_neg (by simpa using present)]
  exact each 0

/-- A decimal fraction with a point, in its parts. -/
structure Decimal where
  whole : List Char
  part : List Char
  /-- The digits of the exponent, if there is one, and whether it is negative. -/
  mark : Option (Bool × List Char)

namespace Decimal

/-- The exponent as it is written. -/
def markText (decimal : Decimal) : List Char :=
  match decimal.mark with
  | none => []
  | some (negative, power) => 'e' :: (if negative then '-' else '+') :: power

/-- A decimal fraction as it is written. -/
def text (decimal : Decimal) : List Char := decimal.whole ++ '.' :: (decimal.part ++ decimal.markText)

/-- The number that the digits before and after the point are together. -/
def digits (decimal : Decimal) : Nat := Nat.ofDigitChars 10 (decimal.whole ++ decimal.part) 0

def exponent (decimal : Decimal) : Int :=
  match decimal.mark with
  | none => 0
  | some (negative, power) =>
    if negative then -(Nat.ofDigitChars 10 power 0 : Int) else Nat.ofDigitChars 10 power 0

/-- The power of ten that the last digit after the point stands for. -/
def power (decimal : Decimal) : Int := decimal.exponent - decimal.part.length

/-- All parts of a decimal fraction that need digits have some, and nothing else. -/
structure IsWellFormed (decimal : Decimal) : Prop where
  present : decimal.whole ≠ []
  whole : ∀ c ∈ decimal.whole, c.isDigit = true
  part : ∀ c ∈ decimal.part, c.isDigit = true
  mark : ∀ mark ∈ decimal.mark, mark.2 ≠ [] ∧ ∀ c ∈ mark.2, c.isDigit = true

variable {decimal : Decimal}

/-- A decimal fraction is read as the number that is nearest to it. -/
theorem readUnsigned?_text (wellFormed : decimal.IsWellFormed) :
    Text.readUnsigned? decimal.text = some (Binary64.ofDecimal false decimal.digits decimal.power) := by
  have isDecimal {c : Char} (digit : c.isDigit = true) : Text.isDecimalDigit c = true := by
    rw [Text.isDecimalDigit, Text.digitValue?_of_isDigit digit]
    rfl
  have splits {digits : List Char} (rest : List Char) (decimal : ∀ c ∈ digits, c.isDigit = true)
      (ends : ∀ c ∈ rest.head?, Text.isDecimalDigit c = false) :
      (digits ++ rest).takeWhile Text.isDecimalDigit = digits ∧
        (digits ++ rest).dropWhile Text.isDecimalDigit = rest := by
    have all := fun c member => isDecimal (decimal c member)
    rw [List.takeWhile_append_of_pos all, List.dropWhile_append_of_pos all]
    cases rest with
    | nil => simp
    | cons c rest => simp [ends c rfl]
  have markEnds : ∀ c ∈ decimal.markText.head?, Text.isDecimalDigit c = false := by
    unfold markText
    split
    · simp
    · rintro _ ⟨⟩
      decide
  obtain ⟨whole, rest⟩ := splits ('.' :: (decimal.part ++ decimal.markText)) wellFormed.whole (by
    rintro _ ⟨⟩
    decide)
  obtain ⟨part, mark⟩ := splits _ wellFormed.part markEnds
  have digits : Text.ofDigits? 10 (decimal.whole ++ decimal.part) = some decimal.digits := by
    refine Text.ofDigits?_ten (by simp [wellFormed.present]) ?_
    exact List.forall_mem_append.mpr ⟨wellFormed.whole, wellFormed.part⟩
  simp only [Text.readUnsigned?, text, whole, rest, part, mark]
  unfold markText power exponent
  cases marked : decimal.mark with
  | none => simp [digits]
  | some mark =>
    obtain ⟨negative, power⟩ := mark
    obtain ⟨present, decimals⟩ := wellFormed.mark _ marked
    have read := Text.ofDigits?_ten present decimals
    cases negative with
    | false => simp [Text.readExponent?, Text.takeSign, read, digits]
    | true => simp [Text.readExponent?, Text.takeSign, read, digits]

/-! ## Laying digits out -/

theorem ofDigitChars_zeros (count start : Nat) :
    Nat.ofDigitChars 10 (List.replicate count '0') start = start * 10 ^ count := by
  induction count generalizing start with
  | zero => simp [Nat.ofDigitChars]
  | succ count ih =>
    rw [List.replicate_succ, Nat.ofDigitChars_cons, ih, Nat.pow_succ]
    have zero : '0'.toNat - '0'.toNat = 0 := rfl
    rw [zero, Nat.add_zero, Nat.mul_comm 10, Nat.mul_assoc, Nat.mul_comm 10]

/-- A text with an exponent but no point gets one. -/
def pointed (text : List Char) : List Char :=
  if text.contains 'e' && !text.contains '.' then
    text.flatMap fun c => if c == 'e' then ['.', '0', 'e'] else [c]
  else text

private theorem pointed_of_point {text : List Char} (point : '.' ∈ text) : pointed text = text := by
  simp [pointed, point]

/-- The digits of an exponent, at least two of them. -/
private def markDigits (exponent : Int) : List Char :=
  let power := Nat.toDigits 10 exponent.natAbs
  if power.length < 2 then '0' :: power else power

private theorem markDigits_spec (exponent : Int) :
    markDigits exponent ≠ [] ∧ (∀ c ∈ markDigits exponent, c.isDigit = true) ∧
      Nat.ofDigitChars 10 (markDigits exponent) 0 = exponent.natAbs := by
  have digits : ∀ c ∈ Nat.toDigits 10 exponent.natAbs, c.isDigit = true := fun c member =>
    Nat.isDigit_of_mem_toDigits (by decide) (by decide) member
  have value : Nat.ofDigitChars 10 (Nat.toDigits 10 exponent.natAbs) 0 = exponent.natAbs :=
    Nat.ofDigitChars_ten_toDigits
  unfold markDigits
  dsimp only
  split
  · exact ⟨by simp, List.forall_mem_cons.mpr ⟨rfl, digits⟩, value⟩
  · exact ⟨Nat.toDigits_ne_nil, digits, value⟩

/-- The exponent of a number that is written with one digit before its point. -/
private def markOf (exponent : Int) : Option (Bool × List Char) :=
  some (decide (exponent < 0), markDigits exponent)

private theorem exponent_markOf {decimal : Decimal} {exponent : Int}
    (marked : decimal.mark = markOf exponent) : decimal.exponent = exponent := by
  obtain ⟨-, -, value⟩ := markDigits_spec exponent
  simp only [Decimal.exponent, marked, markOf, value, decide_eq_true_eq]
  split
  · omega
  · omega

private theorem layout_marked {digits : List Char} {point : Int} (far : ¬(-4 < point ∧ point ≤ 16))
    {d : Char} {more : List Char} (starts : digits = d :: more) :
    Binary64.layout digits point =
      d :: ((if more = [] then [] else '.' :: more) ++
        'e' :: (if decide (point - 1 < 0) then '-' else '+') :: markDigits (point - 1)) := by
  have outside : (decide (-4 < point) && decide (point ≤ 16)) = false := by
    rw [← Bool.not_eq_true, Bool.and_eq_true, decide_eq_true_eq, decide_eq_true_eq]
    exact far
  subst starts
  unfold Binary64.layout
  rw [if_neg (by simpa using outside)]
  by_cases below : point - 1 < 0
  · cases more with
    | nil => simp [below, markDigits]
    | cons e more => simp [below, markDigits]
  · cases more with
    | nil => simp [below, markDigits]
    | cons e more => simp [below, markDigits]

/-- A decimal fraction of the same value as a layout of digits, and of the same text but for a point. -/
def Renders (decimal : Decimal) (digits : List Char) (point : Int) : Prop :=
  decimal.IsWellFormed ∧ pointed (Binary64.layout digits point) = decimal.text ∧
    (decimal.digits : ℚ) * 10 ^ decimal.power =
      Nat.ofDigitChars 10 digits 0 * 10 ^ (point - digits.length)

variable {digits : List Char} {point : Int}

private theorem exists_of_near (near : -4 < point ∧ point ≤ 16) (present : digits ≠ [])
    (decimals : ∀ c ∈ digits, c.isDigit = true) : ∃ decimal : Decimal, decimal.Renders digits point := by
  have zeros (count : Nat) : ∀ c ∈ List.replicate count '0', c.isDigit = true := fun c member => by
    rw [List.eq_of_mem_replicate member]
    rfl
  unfold Renders Binary64.layout
  rw [if_pos (by simpa using near)]
  split
  · rename_i small
    let decimal : Decimal := ⟨['0'], List.replicate (-point).toNat '0' ++ digits, none⟩
    refine ⟨decimal, ⟨by simp [decimal], by simp [decimal], ?_, by simp [decimal]⟩, ?_, ?_⟩
    · exact List.forall_mem_append.mpr ⟨zeros _, decimals⟩
    · rw [pointed_of_point (by simp)]
      simp [decimal, text, markText]
    · have value : decimal.digits = Nat.ofDigitChars 10 digits 0 := by
        simp only [Decimal.digits, decimal, List.singleton_append, Nat.ofDigitChars_cons,
          Nat.ofDigitChars_append, ofDigitChars_zeros]
        simp
      have power : decimal.power = point - digits.length := by
        simp [Decimal.power, Decimal.exponent, decimal]
        omega
      rw [value, power]
  · rename_i large
    split
    · rename_i long
      let decimal : Decimal := ⟨digits ++ List.replicate (point.toNat - digits.length) '0', ['0'], none⟩
      refine ⟨decimal, ⟨by simp [decimal, present], ?_, by simp [decimal], by simp [decimal]⟩, ?_, ?_⟩
      · exact List.forall_mem_append.mpr ⟨decimals, zeros _⟩
      · rw [pointed_of_point (by simp)]
        simp [decimal, text, markText]
      · have value : decimal.digits =
            Nat.ofDigitChars 10 digits 0 * 10 ^ (point.toNat - digits.length) * 10 := by
          simp only [Decimal.digits, decimal, Nat.ofDigitChars_append, ofDigitChars_zeros,
            Nat.ofDigitChars_cons]
          simp [Nat.ofDigitChars, Nat.mul_comm]
        have power : decimal.power = -1 := rfl
        have size : point - digits.length = ((point.toNat - digits.length : Nat) : Int) := by omega
        rw [value, power, size, zpow_natCast]
        push_cast
        ring
    · rename_i short
      let decimal : Decimal := ⟨digits.take point.toNat, digits.drop point.toNat, none⟩
      refine ⟨decimal, ⟨?_, ?_, ?_, by simp [decimal]⟩, ?_, ?_⟩
      · simp [decimal, present]
        omega
      · exact fun c member => decimals c (List.mem_of_mem_take member)
      · exact fun c member => decimals c (List.mem_of_mem_drop member)
      · rw [pointed_of_point (by simp)]
        simp [decimal, text, markText]
      · have value : decimal.digits = Nat.ofDigitChars 10 digits 0 := by
          simp [Decimal.digits, decimal]
        have power : decimal.power = point - digits.length := by
          simp [Decimal.power, Decimal.exponent, decimal]
          omega
        rw [value, power]

private theorem pointed_mark {d sign : Char} {power : List Char} (digit : d.isDigit = true)
    (signs : sign = '-' ∨ sign = '+') (decimals : ∀ c ∈ power, c.isDigit = true) :
    pointed (d :: 'e' :: sign :: power) = d :: '.' :: '0' :: 'e' :: sign :: power := by
  have apart {c : Char} (digit : c.isDigit = true) : c ≠ '.' ∧ c ≠ 'e' := by
    constructor
    · rintro rfl
      cases digit
    · rintro rfl
      cases digit
  have unpointed : '.' ∉ d :: 'e' :: sign :: power := by
    simp only [List.mem_cons, not_or]
    refine ⟨(apart digit).1.symm, by decide, ?_, fun member => (apart (decimals _ member)).1 rfl⟩
    rcases signs with rfl | rfl
    · decide
    · decide
  have kept {rest : List Char} (plain : ∀ c ∈ rest, c ≠ 'e') :
      rest.flatMap (fun c => if c = 'e' then ['.', '0', 'e'] else [c]) = rest := by
    induction rest with
    | nil => rfl
    | cons c rest ih =>
      obtain ⟨here, after⟩ := List.forall_mem_cons.mp plain
      simp [here, ih after]
  have unmarked : sign ≠ 'e' := by
    rcases signs with rfl | rfl
    · decide
    · decide
  rw [pointed, if_pos (by simpa using unpointed)]
  simp [(apart digit).2, unmarked, kept fun c member => (apart (decimals c member)).2]

private theorem exists_of_far (far : ¬(-4 < point ∧ point ≤ 16)) (present : digits ≠ [])
    (decimals : ∀ c ∈ digits, c.isDigit = true) : ∃ decimal : Decimal, decimal.Renders digits point := by
  obtain ⟨d, more, rfl⟩ := List.exists_cons_of_ne_nil present
  obtain ⟨marked, markDecimals, -⟩ := markDigits_spec (point - 1)
  obtain ⟨here, after⟩ := List.forall_mem_cons.mp decimals
  have markWell : ∀ mark ∈ markOf (point - 1), mark.2 ≠ [] ∧ ∀ c ∈ mark.2, c.isDigit = true := by
    rintro _ ⟨⟩
    exact ⟨marked, markDecimals⟩
  simp only [Renders, layout_marked far rfl]
  by_cases single : more = []
  · subst single
    let decimal : Decimal := ⟨[d], ['0'], markOf (point - 1)⟩
    refine ⟨decimal, ⟨by simp [decimal], by simpa [decimal] using here, by simp [decimal], markWell⟩,
      ?_, ?_⟩
    · refine (pointed_mark here ?_ markDecimals).trans rfl
      split
      · exact .inl rfl
      · exact .inr rfl
    · have value : decimal.digits = Nat.ofDigitChars 10 [d] 0 * 10 := by
        simp [Decimal.digits, decimal, Nat.ofDigitChars, Nat.mul_comm]
      have power : decimal.power = point - 1 - 1 := by
        rw [Decimal.power, exponent_markOf rfl]
        rfl
      have unit : (10 : ℚ) * 10 ^ (point - 1 - 1) = 10 ^ (point - 1) := by
        rw [← zpow_one_add₀ (by norm_num)]
        congr 1
        omega
      rw [value, power, Nat.cast_mul, mul_assoc, Nat.cast_ofNat, unit]
      rfl
  · let decimal : Decimal := ⟨[d], more, markOf (point - 1)⟩
    refine ⟨decimal, ⟨by simp [decimal], by simpa [decimal] using here, after, markWell⟩, ?_, ?_⟩
    · rw [pointed_of_point (by simp [single])]
      simp [decimal, text, markText, markOf, single]
    · have value : decimal.digits = Nat.ofDigitChars 10 (d :: more) 0 := rfl
      have power : decimal.power = point - (d :: more).length := by
        rw [Decimal.power, exponent_markOf rfl]
        simp [decimal]
        omega
      rw [value, power]

/-- Digits are laid out as a decimal fraction, or as one without a point. -/
theorem exists_renders (point : Int) (present : digits ≠ []) (decimals : ∀ c ∈ digits, c.isDigit = true) :
    ∃ decimal : Decimal, decimal.Renders digits point := by
  by_cases near : -4 < point ∧ point ≤ 16
  · exact exists_of_near near present decimals
  · exact exists_of_far near present decimals

theorem pointed_sign (text : List Char) : pointed ('-' :: text) = '-' :: pointed text := by
  unfold pointed
  by_cases marked : (text.contains 'e' && !text.contains '.') = true
  · have marked' : (('-' :: text).contains 'e' && !('-' :: text).contains '.') = true := by
      simpa using marked
    rw [if_pos marked, if_pos marked']
    rfl
  · have marked' : ¬(('-' :: text).contains 'e' && !('-' :: text).contains '.') = true := by
      simpa using marked
    rw [if_neg marked, if_neg marked']

end Decimal

namespace Binary64

private theorem dropZeros_spec {number : Nat} (positive : 0 < number) (power : Int) :
    (dropZeros (Nat.toDigits 10 number) power).1 ≠ [] ∧
      (∀ c ∈ (dropZeros (Nat.toDigits 10 number) power).1, c.isDigit = true) ∧
      (Nat.ofDigitChars 10 (dropZeros (Nat.toDigits 10 number) power).1 0 : ℚ) *
          10 ^ (dropZeros (Nat.toDigits 10 number) power).2 = number * 10 ^ power := by
  have decimals : ∀ c ∈ Nat.toDigits 10 number, c.isDigit = true := fun c member =>
    Nat.isDigit_of_mem_toDigits (by decide) (by decide) member
  have value : Nat.ofDigitChars 10 (Nat.toDigits 10 number) 0 = number := Nat.ofDigitChars_ten_toDigits
  generalize Nat.toDigits 10 number = digits at decimals value ⊢
  have zeros : digits.reverse.takeWhile (· == '0') =
      List.replicate (digits.reverse.takeWhile (· == '0')).length '0' :=
    List.eq_replicate_of_mem fun c member => by
      simpa using List.all_eq_true.mp List.all_takeWhile c member
  have split : digits = (digits.reverse.dropWhile (· == '0')).reverse ++
      List.replicate (digits.reverse.takeWhile (· == '0')).length '0' := by
    rw [← List.reverse_replicate, ← zeros, ← List.reverse_append, List.takeWhile_append_dropWhile,
      List.reverse_reverse]
  unfold dropZeros
  dsimp only
  generalize (digits.reverse.takeWhile (· == '0')).length = count at split ⊢
  generalize (digits.reverse.dropWhile (· == '0')).reverse = start at split
  subst split
  have kept : (start ++ List.replicate count '0').take
      ((start ++ List.replicate count '0').length - count) = start := by simp
  rw [Nat.ofDigitChars_append, Decimal.ofDigitChars_zeros] at value
  rw [kept]
  refine ⟨?_, fun c member => decimals c (List.mem_append_left _ member), ?_⟩
  · rintro rfl
    simp at value
    omega
  · rw [← value, zpow_add₀ (by norm_num), zpow_natCast]
    push_cast
    ring

/-- A number is written as a decimal fraction that is read as the same number; a fraction with an
exponent may still need its point. -/
theorem exists_decimal_of_text (negative : Bool) {mantissa : Nat} {exponent : Int}
    (proper : IsProper mantissa exponent) :
    ∃ decimal : Decimal, decimal.IsWellFormed ∧
      Decimal.pointed (finite negative mantissa exponent).text.toList =
        (if negative then ['-'] else []) ++ decimal.text ∧
      ofDecimal false decimal.digits decimal.power = finite false mantissa exponent := by
  have signed {text : List Char} {decimal : Decimal} (shown : Decimal.pointed text = decimal.text) :
      Decimal.pointed ((if negative then "-" else "").toList ++ text) =
        (if negative then ['-'] else []) ++ decimal.text := by
    cases negative with
    | false => exact shown
    | true => exact (Decimal.pointed_sign text).trans (congrArg _ shown)
  rcases Nat.eq_zero_or_pos mantissa with rfl | positive
  · obtain rfl : exponent = -1074 := by simpa using proper.full
    let decimal : Decimal := ⟨['0'], ['0'], none⟩
    refine ⟨decimal, ⟨by simp [decimal], by simp [decimal], by simp [decimal], by simp [decimal]⟩, ?_, ?_⟩
    · rw [text, if_pos BEq.rfl, String.toList_append]
      exact signed (by decide)
    · rfl
  · have shortest := ofDecimal_shortest proper positive
    have some : 0 < (Binary64.shortest mantissa exponent).1 := by
      refine Nat.pos_of_ne_zero fun zero => ?_
      rw [zero] at shortest
      simp [ofDecimal] at shortest
      omega
    obtain ⟨present, decimals, value⟩ := dropZeros_spec some (Binary64.shortest mantissa exponent).2
    obtain ⟨decimal, wellFormed, shown, same⟩ := Decimal.exists_renders
      ((dropZeros (Nat.toDigits 10 (Binary64.shortest mantissa exponent).1)
        (Binary64.shortest mantissa exponent).2).1.length +
        (dropZeros (Nat.toDigits 10 (Binary64.shortest mantissa exponent).1)
          (Binary64.shortest mantissa exponent).2).2) present decimals
    refine ⟨decimal, wellFormed, ?_, ?_⟩
    · rw [text, if_neg (by simpa using positive.ne'), String.toList_append]
      rw [String.toList_ofList]
      exact signed shown
    · have equal : (decimal.digits : ℚ) * 10 ^ decimal.power =
          (Binary64.shortest mantissa exponent).1 * 10 ^ (Binary64.shortest mantissa exponent).2 := by
        rw [same, ← value]
        congr 2
        omega
      have nonzero : decimal.digits ≠ 0 := by
        intro zero
        have above : (0 : ℚ) < (Binary64.shortest mantissa exponent).1 := by exact_mod_cast some
        have : (0 : ℚ) < 10 ^ (Binary64.shortest mantissa exponent).2 := by positivity
        rw [zero, Nat.cast_zero, zero_mul] at equal
        exact (mul_pos above this).ne equal
      rw [← shortest]
      exact ofDecimal_congr false (Nat.pos_of_ne_zero nonzero) some equal

end Binary64

end UnitLift
