import Mathlib.Algebra.Order.Field.Power
import Mathlib.Data.Rat.Cast.Order
import Mathlib.Tactic.FieldSimp
import Mathlib.Tactic.Linarith
import Mathlib.Tactic.NormNum
import Mathlib.Tactic.Positivity
import Mathlib.Tactic.Ring
import UnitLift.Number.Binary64

/-! Numbers in their fewest digits read back as themselves: decimals of seventeen digits are closer to each
other than binary numbers of 53 bits, so that the nearest one to a number is nearer to it than to any
other. -/

namespace UnitLift.Binary64

/-! ## Rounding -/

theorem scale_pos {base numerator denominator : Nat} (exponent : Int) (positive : 0 < base)
    (below : 0 < denominator) : 0 < (scale base numerator denominator exponent).2 := by
  unfold scale
  split
  · exact below
  · exact Nat.mul_pos below (Nat.pow_pos positive)

theorem scale_top_pos {base numerator : Nat} (denominator : Nat) (exponent : Int) (positive : 0 < base)
    (above : 0 < numerator) : 0 < (scale base numerator denominator exponent).1 := by
  unfold scale
  split
  · exact Nat.mul_pos above (Nat.pow_pos positive)
  · exact above

theorem scale_eq {base : Nat} (numerator denominator : Nat) (exponent : Int) (positive : 0 < base) :
    ((scale base numerator denominator exponent).1 : ℚ) /
        (scale base numerator denominator exponent).2 =
      numerator / denominator * (base : ℚ) ^ exponent := by
  have nonzero : (base : ℚ) ≠ 0 := by exact_mod_cast Nat.pos_iff_ne_zero.mp positive
  unfold scale
  split
  · rename_i up
    obtain ⟨n, rfl⟩ := Int.eq_ofNat_of_zero_le up
    simp [Nat.pow_eq]
    ring
  · rename_i down
    obtain ⟨n, rfl⟩ : ∃ n : Nat, exponent = -(n : Int) := ⟨(-exponent).toNat, by omega⟩
    simp [Nat.pow_eq]
    ring

/-- Exactly one power of a base is the greatest one up to a positive number. -/
theorem exponent_unique {base x : ℚ} (large : 1 < base) {a b : Int} (above : base ^ a ≤ x)
    (below : x < base ^ (a + 1)) (above' : base ^ b ≤ x) (below' : x < base ^ (b + 1)) : a = b := by
  have first := (zpow_lt_zpow_iff_right₀ large).mp (above.trans_lt below')
  have second := (zpow_lt_zpow_iff_right₀ large).mp (above'.trans_lt below)
  omega

/-- A fraction is between powers of two by the lengths of its parts. -/
private theorem log2_bounds {number : Nat} (positive : 0 < number) :
    (2 : ℚ) ^ (number.log2 : Int) ≤ number ∧ (number : ℚ) < 2 ^ ((number.log2 : Int) + 1) := by
  have nonzero := Nat.pos_iff_ne_zero.mp positive
  constructor
  · exact_mod_cast Nat.log2_self_le nonzero
  · exact_mod_cast Nat.lt_log2_self

theorem binaryExponent_spec {numerator denominator : Nat} (top : 0 < numerator)
    (bottom : 0 < denominator) :
    (2 : ℚ) ^ binaryExponent numerator denominator ≤ numerator / denominator ∧
      (numerator : ℚ) / denominator < 2 ^ (binaryExponent numerator denominator + 1) := by
  have two : (2 : ℚ) ≠ 0 := by norm_num
  have below : (0 : ℚ) < denominator := by exact_mod_cast bottom
  obtain ⟨topLow, topHigh⟩ := log2_bounds top
  obtain ⟨bottomLow, bottomHigh⟩ := log2_bounds bottom
  let estimate : Int := (numerator.log2 : Int) - denominator.log2
  have scaled := scale_eq denominator 1 estimate (by decide : 0 < 2)
  have unit : (0 : ℚ) < (scale 2 denominator 1 estimate).2 := by
    exact_mod_cast scale_pos estimate (by decide) (by decide)
  have reached : (scale 2 denominator 1 estimate).1 ≤ numerator * (scale 2 denominator 1 estimate).2 ↔
      (2 : ℚ) ^ estimate ≤ numerator / denominator := by
    rw [le_div_iff₀ below, ← Nat.cast_le (α := ℚ), Nat.cast_mul, ← div_le_iff₀ unit, scaled]
    simp [mul_comm]
  have low : (2 : ℚ) ^ (estimate - 1) ≤ numerator / denominator := by
    rw [le_div_iff₀ below]
    calc (2 : ℚ) ^ (estimate - 1) * denominator
        ≤ 2 ^ (estimate - 1) * 2 ^ ((denominator.log2 : Int) + 1) := by gcongr
      _ = 2 ^ (numerator.log2 : Int) := by
        rw [← zpow_add₀ two]
        congr 1
        omega
      _ ≤ numerator := topLow
  have high : (numerator : ℚ) / denominator < 2 ^ (estimate + 1) := by
    rw [div_lt_iff₀ below]
    calc (numerator : ℚ) < 2 ^ ((numerator.log2 : Int) + 1) := topHigh
      _ = 2 ^ (estimate + 1) * 2 ^ (denominator.log2 : Int) := by
        rw [← zpow_add₀ two]
        congr 1
        omega
      _ ≤ 2 ^ (estimate + 1) * denominator := by gcongr
  have unfolded : binaryExponent numerator denominator =
      if (scale 2 denominator 1 estimate).1 ≤ numerator * (scale 2 denominator 1 estimate).2
      then estimate else estimate - 1 := rfl
  rw [unfolded]
  split
  · rename_i holds
    exact ⟨reached.mp holds, high⟩
  · rename_i fails
    refine ⟨low, ?_⟩
    rw [sub_add_cancel]
    exact lt_of_not_ge fun holds => fails (reached.mpr holds)

/-- The exponent of a fraction depends only on its value. -/
theorem binaryExponent_congr {a b c d : Nat} (top : 0 < a) (bottom : 0 < b) (top' : 0 < c)
    (bottom' : 0 < d) (same : (a : ℚ) / b = c / d) : binaryExponent a b = binaryExponent c d := by
  obtain ⟨low, high⟩ := binaryExponent_spec top bottom
  obtain ⟨low', high'⟩ := binaryExponent_spec top' bottom'
  rw [same] at low high
  exact exponent_unique (by norm_num) low high low' high'

private theorem roundFraction_mul {factor : Nat} (positive : 0 < factor) (numerator denominator : Nat) :
    roundFraction (factor * numerator) (factor * denominator) = roundFraction numerator denominator := by
  have rest : 2 * (factor * numerator % (factor * denominator)) =
      factor * (2 * (numerator % denominator)) := by
    rw [Nat.mul_mod_mul_left, Nat.mul_left_comm]
  unfold roundFraction
  simp only [rest, Nat.mul_div_mul_left _ _ positive, Nat.mul_lt_mul_left positive]

/-- The nearest whole number depends only on the value of a fraction. -/
theorem roundFraction_congr {a b c d : Nat} (bottom : 0 < b) (bottom' : 0 < d)
    (same : (a : ℚ) / b = c / d) : roundFraction a b = roundFraction c d := by
  have below : (b : ℚ) ≠ 0 := by exact_mod_cast Nat.pos_iff_ne_zero.mp bottom
  have below' : (d : ℚ) ≠ 0 := by exact_mod_cast Nat.pos_iff_ne_zero.mp bottom'
  have crossed : d * a = b * c := by
    rw [div_eq_div_iff below below'] at same
    have : (d * a : ℚ) = b * c := by linarith
    exact_mod_cast this
  rw [← roundFraction_mul bottom' a b, crossed, Nat.mul_comm d b, roundFraction_mul bottom]

/-- A fraction is the whole number below it and a part that is less than one, which is compared to a
half as the remainder is. -/
private theorem exists_part (numerator : Nat) {denominator : Nat} (bottom : 0 < denominator) :
    ∃ part : ℚ, (numerator : ℚ) / denominator = (numerator / denominator : Nat) + part ∧
      0 ≤ part ∧ part < 1 ∧
      (2 * (numerator % denominator) < denominator ↔ part < 1 / 2) ∧
      (denominator < 2 * (numerator % denominator) ↔ 1 / 2 < part) := by
  have below : (0 : ℚ) < denominator := by exact_mod_cast bottom
  have divides := Nat.div_add_mod numerator denominator
  have rest := Nat.mod_lt numerator bottom
  generalize numerator / denominator = quotient at divides ⊢
  generalize numerator % denominator = remainder at divides rest ⊢
  refine ⟨(remainder : ℚ) / denominator, ?_, by positivity, ?_, ?_, ?_⟩
  · rw [← divides]
    push_cast
    field_simp
  · rw [div_lt_one below]
    exact_mod_cast rest
  · rw [div_lt_div_iff₀ below two_pos, one_mul, mul_comm]
    exact_mod_cast Iff.rfl
  · rw [div_lt_div_iff₀ two_pos below, one_mul, mul_comm]
    exact_mod_cast Iff.rfl

/-- A fraction that is less than a half away from a whole number is rounded to it. -/
theorem roundFraction_eq {numerator denominator whole : Nat} (bottom : 0 < denominator)
    (near : |(numerator : ℚ) / denominator - whole| < 1 / 2) :
    roundFraction numerator denominator = whole := by
  obtain ⟨part, same, least, most, short, long⟩ := exists_part numerator bottom
  rw [same, abs_lt] at near
  obtain ⟨above, under⟩ := near
  unfold roundFraction
  generalize numerator / denominator = quotient at above under ⊢
  have between {a b : Nat} (first : (a : ℚ) < b + 1) (second : (b : ℚ) < a + 1) : a = b := by
    have first' : a < b + 1 := by exact_mod_cast first
    have second' : b < a + 1 := by exact_mod_cast second
    omega
  simp only [short, long]
  split
  · exact between (by linarith) (by linarith)
  · split
    · exact between (by push_cast; linarith) (by push_cast; linarith)
    · -- a fraction in the middle of two whole numbers is not that near to any
      have first : (quotient : ℚ) < whole := by linarith
      have second : (whole : ℚ) < quotient + 1 := by linarith
      have first' : quotient < whole := by exact_mod_cast first
      have second' : whole < quotient + 1 := by exact_mod_cast second
      omega

/-! ## Fractions -/

/-- A number that is in the form in which all numbers are. -/
structure IsProper (mantissa : Nat) (exponent : Int) : Prop where
  short : mantissa < 2 ^ 53
  least : -1074 ≤ exponent
  most : exponent ≤ 971
  full : 2 ^ 52 ≤ mantissa ∨ exponent = -1074

/-- A number in the form in which all numbers are, if it has a size. -/
def IsWellFormed : Binary64 → Prop
  | finite _ mantissa exponent => IsProper mantissa exponent
  | _ => True

theorem ofFraction_congr (negative : Bool) {a b c d : Nat} (bottom : 0 < b) (bottom' : 0 < d)
    (same : (a : ℚ) / b = c / d) : ofFraction negative a b = ofFraction negative c d := by
  by_cases zero : a = 0
  · have zero' : c = 0 := by
      have below' : (d : ℚ) ≠ 0 := by exact_mod_cast Nat.pos_iff_ne_zero.mp bottom'
      rw [zero, Nat.cast_zero, zero_div] at same
      simpa [below'] using same.symm
    rw [zero, zero']
    rfl
  · have zero' : c ≠ 0 := by
      rintro rfl
      have below : (b : ℚ) ≠ 0 := by exact_mod_cast Nat.pos_iff_ne_zero.mp bottom
      rw [Nat.cast_zero, zero_div, div_eq_zero_iff] at same
      simp [zero, below] at same
    have exponents := binaryExponent_congr (Nat.pos_of_ne_zero zero) bottom (Nat.pos_of_ne_zero zero')
      bottom' same
    have rounded (exponent : Int) : roundFraction (scale 2 a b exponent).1 (scale 2 a b exponent).2 =
        roundFraction (scale 2 c d exponent).1 (scale 2 c d exponent).2 := by
      refine roundFraction_congr (scale_pos _ (by decide) bottom) (scale_pos _ (by decide) bottom') ?_
      rw [scale_eq _ _ _ (by decide), scale_eq _ _ _ (by decide), same]
    simp only [ofFraction, beq_eq_false_iff_ne.mpr zero, beq_eq_false_iff_ne.mpr zero', exponents, rounded]

/-- How near a fraction is to a number, compared to it. -/
def IsNear (x : ℚ) (mantissa : Nat) (exponent : Int) : Prop :=
  |x - mantissa * 2 ^ exponent| * 10 ^ 16 ≤ mantissa * 2 ^ exponent / 2

/-- Measured in units of the last bit of a number, a near fraction is close to its mantissa. -/
private theorem IsNear.abs_le {x : ℚ} {mantissa : Nat} {exponent : Int}
    (near : IsNear x mantissa exponent) :
    |x * 2 ^ (-exponent) - mantissa| * 10 ^ 16 ≤ mantissa / 2 := by
  have unit : (0 : ℚ) < 2 ^ exponent := zpow_pos (by norm_num) _
  have inverse : (2 : ℚ) ^ exponent * 2 ^ (-exponent) = 1 := by
    rw [zpow_neg, mul_inv_cancel₀ unit.ne']
  have split : x * 2 ^ (-exponent) - mantissa = (x - mantissa * 2 ^ exponent) * 2 ^ (-exponent) := by
    rw [sub_mul, mul_assoc, inverse, mul_one]
  have inverted : (0 : ℚ) < 2 ^ (-exponent) := zpow_pos (by norm_num) _
  rw [split, abs_mul, abs_of_pos inverted]
  calc |x - mantissa * 2 ^ exponent| * 2 ^ (-exponent) * 10 ^ 16
      = |x - mantissa * 2 ^ exponent| * 10 ^ 16 * 2 ^ (-exponent) := by ring
    _ ≤ (mantissa : ℚ) * 2 ^ exponent / 2 * 2 ^ (-exponent) := by gcongr; exact near
    _ = (mantissa : ℚ) / 2 * (2 ^ exponent * 2 ^ (-exponent)) := by ring
    _ = mantissa / 2 := by rw [inverse, mul_one]

/-- A near fraction is less than half a unit away. -/
private theorem IsNear.abs_lt_half {x : ℚ} {mantissa : Nat} {exponent : Int}
    (near : IsNear x mantissa exponent) (short : mantissa < 2 ^ 53) :
    |x * 2 ^ (-exponent) - mantissa| < 1 / 2 := by
  have bounded : (mantissa : ℚ) < (2 ^ 53 : Nat) := by exact_mod_cast short
  have small : |x * 2 ^ (-exponent) - mantissa| * 10 ^ 16 < 1 / 2 * 10 ^ 16 := by
    refine near.abs_le.trans_lt ?_
    push_cast at bounded
    linarith
  exact lt_of_mul_lt_mul_right small (by norm_num)

/-- Measured in other units, a number has the exponent that is that much less. -/
private theorem zpow_mul_zpow_neg (size exponent : Int) :
    (2 : ℚ) ^ size * 2 ^ (-exponent) = 2 ^ (size - exponent) := by
  rw [← zpow_add₀ (by norm_num), sub_eq_add_neg]

private theorem lt_of_zpow_le {x : ℚ} {size exponent bits : Int} (low : 2 ^ size ≤ x)
    (less : x * 2 ^ (-exponent) < 2 ^ bits) : size - exponent < bits := by
  refine (zpow_lt_zpow_iff_right₀ (by norm_num : (1 : ℚ) < 2)).mp (lt_of_le_of_lt ?_ less)
  rw [← zpow_mul_zpow_neg]
  gcongr

private theorem lt_of_lt_zpow {x : ℚ} {size exponent bits : Int} (high : x < 2 ^ (size + 1))
    (more : 2 ^ bits ≤ x * 2 ^ (-exponent)) : bits < size + 1 - exponent := by
  refine (zpow_lt_zpow_iff_right₀ (by norm_num : (1 : ℚ) < 2)).mp (more.trans_lt ?_)
  rw [← zpow_mul_zpow_neg]
  gcongr

/-- A fraction that is near to a number is rounded in the units of that number, unless this is a power of
two: then the fraction may be less, and the units half as large. -/
private theorem unit_of_near {x : ℚ} {size exponent : Int} {mantissa : Nat} (low : 2 ^ size ≤ x)
    (high : x < 2 ^ (size + 1)) (proper : IsProper mantissa exponent)
    (near : |x * 2 ^ (-exponent) - mantissa| < 1 / 2) :
    max (size - 52) (-1074) = exponent ∨
      mantissa = 2 ^ 52 ∧ max (size - 52) (-1074) = exponent - 1 := by
  obtain ⟨short, least, -, full⟩ := proper
  obtain ⟨above, below⟩ := abs_lt.mp near
  have upper : size - exponent < 53 := by
    refine lt_of_zpow_le low ?_
    have bounded : ((mantissa + 1 : Nat) : ℚ) ≤ (2 ^ 53 : Nat) := by exact_mod_cast short
    push_cast at bounded
    change _ < (2 : ℚ) ^ 53
    linarith
  have lower (bits : Nat) (reached : (2 : ℚ) ^ bits + 1 / 2 ≤ mantissa) :
      (bits : Int) < size + 1 - exponent := by
    refine lt_of_lt_zpow high ?_
    rw [zpow_natCast]
    linarith
  by_cases many : 2 ^ 52 + 1 ≤ mantissa
  · have cast : ((2 ^ 52 + 1 : Nat) : ℚ) ≤ mantissa := by exact_mod_cast many
    have reach := lower 52 (by push_cast at cast; linarith)
    omega
  · by_cases least : exponent = -1074
    · omega
    · obtain rfl : mantissa = 2 ^ 52 := by omega
      have reach := lower 51 (by norm_num)
      omega

/-- What a fraction becomes once it is known in which units it is rounded. -/
private theorem ofFraction_eq (negative : Bool) {numerator denominator mantissa : Nat}
    {exponent : Int} (top : 0 < numerator) (bottom : 0 < denominator)
    (unit : max (binaryExponent numerator denominator - 52) (-1074) = exponent)
    (near : |(numerator : ℚ) / denominator * 2 ^ (-exponent) - mantissa| < 1 / 2) :
    ofFraction negative numerator denominator =
      let (mantissa, exponent) :=
        if mantissa == Nat.pow 2 53 then (Nat.pow 2 52, exponent + 1) else (mantissa, exponent)
      if 971 < exponent then infinite negative else finite negative mantissa exponent := by
  have rounded : roundFraction (scale 2 numerator denominator (-exponent)).1
      (scale 2 numerator denominator (-exponent)).2 = mantissa := by
    refine roundFraction_eq (scale_pos _ (by decide) bottom) ?_
    rw [scale_eq _ _ _ (by decide)]
    exact near
  simp only [ofFraction, beq_eq_false_iff_ne.mpr (Nat.pos_iff_ne_zero.mp top), unit, rounded,
    Bool.false_eq_true, ↓reduceIte]

/-- A fraction that is nearer to a number than seventeen digits tell apart is read as that number. -/
theorem ofFraction_near (negative : Bool) {numerator denominator mantissa : Nat} {exponent : Int}
    (top : 0 < numerator) (bottom : 0 < denominator) (proper : IsProper mantissa exponent)
    (near : IsNear (numerator / denominator) mantissa exponent) :
    ofFraction negative numerator denominator = finite negative mantissa exponent := by
  obtain ⟨low, high⟩ := binaryExponent_spec top bottom
  have half := near.abs_lt_half proper.short
  have inRange : ¬971 < exponent := Int.not_lt.mpr proper.most
  rcases unit_of_near low high proper half with unit | ⟨rfl, unit⟩
  · have noCarry : (mantissa == Nat.pow 2 53) = false :=
      beq_eq_false_iff_ne.mpr (Nat.ne_of_lt proper.short)
    rw [ofFraction_eq negative top bottom unit half]
    simp only [noCarry, Bool.false_eq_true, ↓reduceIte, inRange]
  · have close := near.abs_le
    have carried : |(numerator : ℚ) / denominator * 2 ^ (-(exponent - 1)) - ((2 ^ 53 : Nat) : ℚ)| <
        1 / 2 := by
      have twice : (numerator : ℚ) / denominator * 2 ^ (-(exponent - 1)) - ((2 ^ 53 : Nat) : ℚ) =
          2 * ((numerator : ℚ) / denominator * 2 ^ (-exponent) - ((2 ^ 52 : Nat) : ℚ)) := by
        rw [show -(exponent - 1) = 1 + -exponent by ring, zpow_add₀ (by norm_num), zpow_one]
        push_cast
        ring
      rw [twice, abs_mul, abs_of_pos (by norm_num : (0 : ℚ) < 2)]
      push_cast at close ⊢
      linarith
    rw [ofFraction_eq negative top bottom unit carried]
    have carry : (2 ^ 53 == Nat.pow 2 53) = true := by decide
    have back : exponent - 1 + 1 = exponent := by omega
    simp only [carry, ↓reduceIte, back, inRange]
    rfl

/-! ## Decimals -/

private theorem ten_pow_le : ∀ size < 1100, 10 ^ (size * 30103 / 100000 - 1) ≤ 2 ^ size := by
  decide +kernel

private theorem two_pow_le : ∀ size < 1100, 2 ^ size ≤ 10 ^ ((size * 30103 + 99999) / 100000 + 1) := by
  decide +kernel

/-- The estimate of a power of ten from the power of two is no greater than it may be. -/
private theorem estimate_le {size : Int} (least : -1100 < size) (most : size < 1100) :
    (10 : ℚ) ^ ((size * 30103).fdiv 100000 - 1) ≤ 2 ^ size := by
  have ten : (1 : ℚ) ≤ 10 := by norm_num
  rcases Int.le_total 0 size with up | down
  · obtain ⟨n, rfl⟩ := Int.eq_ofNat_of_zero_le up
    have power : ((n : Int) * 30103).fdiv 100000 = ((n * 30103 / 100000 : Nat) : Int) := by
      rw [Int.fdiv_eq_ediv_of_nonneg _ (by norm_num)]
      omega
    have cast : ((10 ^ (n * 30103 / 100000 - 1) : Nat) : ℚ) ≤ (2 ^ n : Nat) := by
      exact_mod_cast ten_pow_le n (by omega)
    push_cast at cast
    rw [power, zpow_natCast]
    refine le_trans ?_ cast
    rw [← zpow_natCast]
    exact zpow_le_zpow_right₀ ten (by omega)
  · obtain ⟨n, rfl⟩ : ∃ n : Nat, size = -(n : Int) := ⟨(-size).toNat, by omega⟩
    have power : (-(n : Int) * 30103).fdiv 100000 - 1 = -(((n * 30103 + 99999) / 100000 + 1 : Nat) : Int) := by
      rw [Int.fdiv_eq_ediv_of_nonneg _ (by norm_num)]
      omega
    have cast : ((2 ^ n : Nat) : ℚ) ≤ (10 ^ ((n * 30103 + 99999) / 100000 + 1) : Nat) := by
      exact_mod_cast two_pow_le n (by omega)
    push_cast at cast
    rw [power, zpow_neg, zpow_neg, zpow_natCast, zpow_natCast]
    exact inv_anti₀ (by positivity) cast

theorem decimalExponent_le {numerator denominator : Nat} (top : 0 < numerator) (bottom : 0 < denominator)
    (least : -1100 < binaryExponent numerator denominator)
    (most : binaryExponent numerator denominator < 1100) :
    (10 : ℚ) ^ decimalExponent numerator denominator ≤ numerator / denominator := by
  have below : (0 : ℚ) < denominator := by exact_mod_cast bottom
  let estimate := (binaryExponent numerator denominator * 30103).fdiv 100000 - 1
  let reached (e : Int) : Bool :=
    decide ((scale 10 1 1 e).1 * denominator ≤ numerator * (scale 10 1 1 e).2)
  have le_of_reached {e : Int} (holds : reached e = true) :
      (10 : ℚ) ^ e ≤ numerator / denominator := by
    have unit : (0 : ℚ) < (scale 10 1 1 e).2 := by exact_mod_cast scale_pos e (by decide) (by decide)
    have crossed : ((scale 10 1 1 e).1 : ℚ) * denominator ≤ numerator * (scale 10 1 1 e).2 := by
      exact_mod_cast of_decide_eq_true holds
    have power := scale_eq 1 1 e (by decide : 0 < 10)
    rw [← div_le_div_iff₀ unit below, power] at crossed
    simpa using crossed
  change (10 : ℚ) ^ ((([3, 2, 1].map (estimate + ·)).find? reached).getD estimate) ≤ _
  cases found : ([3, 2, 1].map (estimate + ·)).find? reached with
  | some e => exact le_of_reached (List.find?_some found)
  | none => exact (estimate_le least most).trans (binaryExponent_spec top bottom).1

theorem magnitude_eq (mantissa : Nat) (exponent : Int) :
    ((scale 2 mantissa 1 exponent).1 : ℚ) / (scale 2 mantissa 1 exponent).2 =
      mantissa * 2 ^ exponent := by
  simpa using scale_eq mantissa 1 exponent (by decide : 0 < 2)

private theorem IsProper.bounds {mantissa : Nat} {exponent : Int} (proper : IsProper mantissa exponent)
    (positive : 0 < mantissa) :
    (2 : ℚ) ^ (-1074 : Int) ≤ mantissa * 2 ^ exponent ∧
      (mantissa : ℚ) * 2 ^ exponent < 2 ^ (1024 : Int) := by
  have two : (1 : ℚ) ≤ 2 := by norm_num
  have least : (1 : ℚ) ≤ mantissa := by exact_mod_cast positive
  have most : (mantissa : ℚ) < 2 ^ (53 : Int) := by exact_mod_cast proper.short
  constructor
  · calc (2 : ℚ) ^ (-1074 : Int) ≤ 2 ^ exponent := zpow_le_zpow_right₀ two proper.least
      _ = 1 * 2 ^ exponent := (one_mul _).symm
      _ ≤ mantissa * 2 ^ exponent := by gcongr
  · calc (mantissa : ℚ) * 2 ^ exponent < 2 ^ (53 : Int) * 2 ^ exponent := by gcongr
      _ = 2 ^ (53 + exponent) := (zpow_add₀ (by norm_num) _ _).symm
      _ ≤ 2 ^ (1024 : Int) := zpow_le_zpow_right₀ two (by have := proper.most; omega)

private theorem largest_lt : (2 : ℚ) * 2 ^ (1024 : Int) < 10 ^ (400 : Int) := by
  have whole : 2 * 2 ^ 1024 < 10 ^ 400 := by decide +kernel
  have cast : ((2 * 2 ^ 1024 : Nat) : ℚ) < (10 ^ 400 : Nat) := Nat.cast_lt.mpr whole
  rw [Nat.cast_mul, Nat.cast_pow, Nat.cast_pow] at cast
  exact cast

private theorem lt_smallest : (10 : ℚ) ^ (-400 : Int) < 2 ^ (-1074 : Int) / 2 := by
  have whole : 2 * 2 ^ 1074 < 10 ^ 400 := by decide +kernel
  have cast : ((2 * 2 ^ 1074 : Nat) : ℚ) < (10 ^ 400 : Nat) := Nat.cast_lt.mpr whole
  rw [Nat.cast_mul, Nat.cast_pow, Nat.cast_pow] at cast
  have inverted := inv_strictAnti₀ (by positivity) cast
  rw [mul_inv] at inverted
  rw [zpow_neg, zpow_neg, div_eq_mul_inv, mul_comm]
  exact inverted

/-- A decimal is between powers of ten by the number of its digits. -/
private theorem toDigits_bounds {digits : Nat} (positive : 0 < digits) (power : Int) :
    (10 : ℚ) ^ (power + (Nat.toDigits 10 digits).length - 1) ≤ digits * 10 ^ power ∧
      digits * (10 : ℚ) ^ power < 10 ^ (power + (Nat.toDigits 10 digits).length - 1 + 1) := by
  have ten : (10 : ℚ) ≠ 0 := by norm_num
  have present : 0 < (Nat.toDigits 10 digits).length := Nat.length_toDigits_pos
  generalize lengthOf : (Nat.toDigits 10 digits).length = length at present ⊢
  have most : digits < 10 ^ length :=
    (Nat.length_toDigits_le_iff (by decide) present).mp (Nat.le_of_eq lengthOf)
  have least : 10 ^ (length - 1) ≤ digits := by
    rcases Nat.eq_or_lt_of_le present with one | more
    · rw [← one]
      exact positive
    · refine Nat.le_of_not_lt fun fewer => ?_
      have := (Nat.length_toDigits_le_iff (b := 10) (n := digits) (by decide) (by omega)).mpr fewer
      omega
  have least' : (10 : ℚ) ^ ((length - 1 : Nat) : Int) ≤ digits := by exact_mod_cast least
  have most' : (digits : ℚ) < 10 ^ (length : Int) := by exact_mod_cast most
  constructor
  · calc (10 : ℚ) ^ (power + length - 1) = 10 ^ (((length - 1 : Nat) : Int) + power) := by
          congr 1
          omega
      _ = 10 ^ ((length - 1 : Nat) : Int) * 10 ^ power := zpow_add₀ ten _ _
      _ ≤ digits * 10 ^ power := by gcongr
  · calc digits * (10 : ℚ) ^ power < 10 ^ (length : Int) * 10 ^ power := by gcongr
      _ = 10 ^ ((length : Int) + power) := (zpow_add₀ ten _ _).symm
      _ = 10 ^ (power + length - 1 + 1) := by
          congr 1
          omega

theorem ofDecimal_congr (negative : Bool) {digits digits' : Nat} {power power' : Int}
    (positive : 0 < digits) (positive' : 0 < digits')
    (same : (digits : ℚ) * 10 ^ power = digits' * 10 ^ power') :
    ofDecimal negative digits power = ofDecimal negative digits' power' := by
  obtain ⟨low, high⟩ := toDigits_bounds positive power
  obtain ⟨low', high'⟩ := toDigits_bounds positive' power'
  rw [← same] at low' high'
  have size := exponent_unique (by norm_num) low high low' high'
  have magnitude : power + ((Nat.toDigits 10 digits).length : Int) =
      power' + ((Nat.toDigits 10 digits').length : Int) := by omega
  have value := ofFraction_congr negative (a := (scale 10 digits 1 power).1)
    (c := (scale 10 digits' 1 power').1) (scale_pos power (by decide : 0 < 10) (by decide : 0 < 1))
    (scale_pos power' (by decide : 0 < 10) (by decide : 0 < 1)) (by
      rw [scale_eq _ _ _ (by decide), scale_eq _ _ _ (by decide)]
      simpa using same)
  simp only [ofDecimal, beq_eq_false_iff_ne.mpr (Nat.pos_iff_ne_zero.mp positive),
    beq_eq_false_iff_ne.mpr (Nat.pos_iff_ne_zero.mp positive'), magnitude, value]

/-- A proper number is read off digits that are near to it. -/
private theorem ofDecimal_near {mantissa digits : Nat} {exponent power : Int}
    (proper : IsProper mantissa exponent) (positive : 0 < mantissa)
    (near : IsNear (digits * 10 ^ power) mantissa exponent) :
    ofDecimal false digits power = finite false mantissa exponent := by
  obtain ⟨low, high⟩ := proper.bounds positive
  have above : (0 : ℚ) < mantissa * 2 ^ exponent := lt_of_lt_of_le (zpow_pos (by norm_num) _) low
  have close : |(digits : ℚ) * 10 ^ power - mantissa * 2 ^ exponent| ≤ mantissa * 2 ^ exponent / 2 := by
    refine le_trans ?_ near
    exact le_mul_of_one_le_right (abs_nonneg _) (by norm_num)
  have larger := largest_lt
  have smaller := lt_smallest
  obtain ⟨under, above⟩ := abs_le.mp close
  have most : (digits : ℚ) * 10 ^ power < 10 ^ (400 : Int) := by
    generalize (2 : ℚ) ^ (1024 : Int) = limit at high larger
    generalize (10 : ℚ) ^ (400 : Int) = bound at larger ⊢
    linarith
  have least : (10 : ℚ) ^ (-400 : Int) < digits * 10 ^ power := by
    generalize (2 : ℚ) ^ (-1074 : Int) = limit at low smaller
    generalize (10 : ℚ) ^ (-400 : Int) = bound at smaller ⊢
    linarith
  have some : 0 < digits := by
    rcases Nat.eq_zero_or_pos digits with rfl | some
    · simp only [Nat.cast_zero, zero_mul, zero_sub] at under
      linarith
    · exact some
  obtain ⟨atLeast, atMost⟩ := toDigits_bounds some power
  have notLong := (zpow_lt_zpow_iff_right₀ (by norm_num : (1 : ℚ) < 10)).mp (atLeast.trans_lt most)
  have notShort := (zpow_lt_zpow_iff_right₀ (by norm_num : (1 : ℚ) < 10)).mp (least.trans atMost)
  have read : ofFraction false (scale 10 digits 1 power).1 (scale 10 digits 1 power).2 =
      finite false mantissa exponent := by
    refine ofFraction_near false (scale_top_pos _ _ (by decide) some)
      (scale_pos _ (by decide) (by decide)) proper ?_
    rw [scale_eq _ _ _ (by decide)]
    simpa using near
  have inRange : (digits == 0 || decide (power + ((Nat.toDigits 10 digits).length : Int) < -400)) =
      false := by
    simp
    omega
  have below : ¬400 < power + ((Nat.toDigits 10 digits).length : Int) := by omega
  simp only [ofDecimal, inRange, below, Bool.false_eq_true, ↓reduceIte]
  exact read

/-- Half of a unit is the most that rounding changes. -/
private theorem roundFraction_near (numerator : Nat) {denominator : Nat} (bottom : 0 < denominator) :
    |(roundFraction numerator denominator : ℚ) - numerator / denominator| ≤ 1 / 2 := by
  obtain ⟨part, same, least, most, short, long⟩ := exists_part numerator bottom
  rw [same]
  unfold roundFraction
  generalize numerator / denominator = quotient
  have down (small : part ≤ 1 / 2) : |(quotient : ℚ) - (quotient + part)| ≤ 1 / 2 := by
    rw [abs_le]
    constructor <;> linarith
  have up (large : 1 / 2 ≤ part) : |((quotient + 1 : Nat) : ℚ) - (quotient + part)| ≤ 1 / 2 := by
    rw [abs_le]
    push_cast
    constructor <;> linarith
  simp only [short, long]
  split
  · exact down (by linarith)
  · split
    · exact up (by linarith)
    · split
      · exact down (by linarith)
      · exact up (by linarith)

/-- Of the decimals of a number, the nearest one is tried first. -/
private theorem decimalOf?_eq (mantissa : Nat) (exponent : Int) (count : Nat) :
    ∃ far,
      let fraction := scale 2 mantissa 1 exponent
      let power := decimalExponent fraction.1 fraction.2 - (count - 1 : Nat)
      let value := scale 10 fraction.1 fraction.2 (-power)
      let near := roundFraction value.1 value.2
      decimalOf? mantissa exponent count =
        if ofDecimal false near power == finite false mantissa exponent then some (near, power)
        else if ofDecimal false far power == finite false mantissa exponent then some (far, power)
        else none := by
  simp only [decimalOf?]
  generalize decimalExponent _ _ - _ = power
  generalize scale 10 _ _ _ = value
  obtain ⟨top, bottom⟩ := value
  simp only [roundFraction]
  generalize 2 * (top % bottom) = rest
  generalize top / bottom = down
  rcases Nat.lt_trichotomy rest bottom with less | same | more
  · exact ⟨down + 1, by simp [less]⟩
  · by_cases even : down % 2 = 0
    · exact ⟨down + 1, by simp [same, even]⟩
    · exact ⟨down, by simp [same, even]⟩
  · have notLess : ¬rest < bottom := by omega
    have unlike : rest ≠ bottom := by omega
    exact ⟨down, by simp [more, notLess, unlike]⟩

private theorem decimalOf?_reads {mantissa count : Nat} {exponent : Int} {decimal : Nat × Int}
    (found : decimalOf? mantissa exponent count = some decimal) :
    ofDecimal false decimal.1 decimal.2 = finite false mantissa exponent := by
  obtain ⟨far, tried⟩ := decimalOf?_eq mantissa exponent count
  rw [found] at tried
  dsimp only at tried
  split at tried
  · rename_i reads
    rw [Option.some.inj tried]
    exact beq_iff_eq.mp reads
  · split at tried
    · rename_i reads
      rw [Option.some.inj tried]
      exact beq_iff_eq.mp reads
    · cases tried

/-- Seventeen digits tell a number from all others. -/
theorem decimalOf?_seventeen {mantissa : Nat} {exponent : Int} (proper : IsProper mantissa exponent)
    (positive : 0 < mantissa) : (decimalOf? mantissa exponent 17).isSome = true := by
  obtain ⟨far, tried⟩ := decimalOf?_eq mantissa exponent 17
  have size := magnitude_eq mantissa exponent
  have top : 0 < (scale 2 mantissa 1 exponent).1 := scale_top_pos _ _ (by decide) positive
  have bottom : 0 < (scale 2 mantissa 1 exponent).2 := scale_pos _ (by decide) (by decide)
  generalize scale 2 mantissa 1 exponent = fraction at tried size top bottom
  obtain ⟨low, high⟩ := proper.bounds positive
  obtain ⟨reached, passed⟩ := binaryExponent_spec top bottom
  rw [size] at reached passed
  have least := (zpow_lt_zpow_iff_right₀ (by norm_num : (1 : ℚ) < 2)).mp (low.trans_lt passed)
  have most := (zpow_lt_zpow_iff_right₀ (by norm_num : (1 : ℚ) < 2)).mp (reached.trans_lt high)
  have enough := decimalExponent_le top bottom (by omega) (by omega)
  rw [size] at enough
  dsimp only at tried
  generalize decimalExponent fraction.1 fraction.2 = places at tried enough
  have value := scale_eq fraction.1 fraction.2 (-(places - (17 - 1 : Nat))) (by decide : 0 < 10)
  have below : 0 < (scale 10 fraction.1 fraction.2 (-(places - (17 - 1 : Nat)))).2 :=
    scale_pos _ (by decide) bottom
  have close := roundFraction_near (scale 10 fraction.1 fraction.2 (-(places - (17 - 1 : Nat)))).1 below
  rw [value, size] at close
  generalize roundFraction _ _ = digits at close tried
  have ten : (10 : ℚ) ≠ 0 := by norm_num
  have unit : (0 : ℚ) < 10 ^ (places - (17 - 1 : Nat)) := zpow_pos (by norm_num) _
  have wide : (10 : ℚ) ^ (places - (17 - 1 : Nat)) * 10 ^ 16 = 10 ^ places := by
    rw [← zpow_natCast, ← zpow_add₀ ten]
    congr 1
    omega
  generalize hpower : places - (17 - 1 : Nat) = power at *
  have near : IsNear (digits * 10 ^ power) mantissa exponent := by
    have split : (digits : ℚ) * 10 ^ power - mantissa * 2 ^ exponent =
        (digits - mantissa * 2 ^ exponent * 10 ^ (-power)) * 10 ^ power := by
      rw [sub_mul, mul_assoc _ ((10 : ℚ) ^ (-power)), ← zpow_add₀ ten, neg_add_cancel, zpow_zero, mul_one]
    rw [IsNear, split, abs_mul, abs_of_pos unit]
    calc |(digits : ℚ) - mantissa * 2 ^ exponent * 10 ^ (-power)| * 10 ^ power * 10 ^ 16
        ≤ 1 / 2 * 10 ^ power * 10 ^ 16 := by gcongr; exact_mod_cast close
      _ = 10 ^ places / 2 := by rw [← wide]; ring
      _ ≤ mantissa * 2 ^ exponent / 2 := by linarith
  rw [tried, ofDecimal_near proper positive near]
  simp

/-- The fewest digits of a number are read as that number. -/
theorem ofDecimal_shortest {mantissa : Nat} {exponent : Int} (proper : IsProper mantissa exponent)
    (positive : 0 < mantissa) :
    ofDecimal false (shortest mantissa exponent).1 (shortest mantissa exponent).2 =
      finite false mantissa exponent := by
  have found : ((List.range 17).findSome? fun n => decimalOf? mantissa exponent (n + 1)).isSome = true := by
    rw [List.findSome?_isSome_iff]
    exact ⟨16, by simp, decimalOf?_seventeen proper positive⟩
  obtain ⟨decimal, found⟩ := Option.isSome_iff_exists.mp found
  obtain ⟨n, -, here⟩ := List.exists_of_findSome?_eq_some found
  rw [shortest, found]
  exact decimalOf?_reads here

end UnitLift.Binary64
