import UnitLift.Data.Value
import UnitLift.Proofs.Number.Binary64
import UnitLift.Yaml.Number

namespace UnitLift.Binary64

private theorem isProper_zero : IsProper 0 (-1074) := ⟨by decide, by decide, by decide, .inr rfl⟩

private theorem roundFraction_le (numerator denominator : Nat) :
    numerator / denominator ≤ roundFraction numerator denominator ∧
      roundFraction numerator denominator ≤ numerator / denominator + 1 := by
  unfold roundFraction
  dsimp only
  split_ifs
  all_goals omega

/-- The unit that a fraction is rounded in is small enough for 53 bits, and large enough for no more. -/
private theorem roundFraction_bounds {numerator denominator : Nat} (top : 0 < numerator)
    (bottom : 0 < denominator) {exponent : Int}
    (unit : exponent = max (binaryExponent numerator denominator - 52) (-1074)) :
    let scaled := scale 2 numerator denominator (-exponent)
    roundFraction scaled.1 scaled.2 ≤ 2 ^ 53 ∧
      (2 ^ 52 ≤ roundFraction scaled.1 scaled.2 ∨ exponent = -1074) := by
  intro scaled
  have below : 0 < scaled.2 := scale_pos _ (by decide) bottom
  have two : (1 : ℚ) ≤ 2 := by norm_num
  have value : (scaled.1 : ℚ) / scaled.2 = numerator / denominator * 2 ^ (-exponent) :=
    scale_eq _ _ _ (by decide)
  obtain ⟨least, most⟩ := binaryExponent_spec top bottom
  generalize binaryExponent numerator denominator = size at *
  have unitPositive : (0 : ℚ) < 2 ^ (-exponent) := zpow_pos (by norm_num) _
  have short : scaled.1 / scaled.2 < 2 ^ 53 := by
    rw [Nat.div_lt_iff_lt_mul below]
    have small : (scaled.1 : ℚ) / scaled.2 < 2 ^ (53 : Int) := by
      calc (scaled.1 : ℚ) / scaled.2 = numerator / denominator * 2 ^ (-exponent) := value
        _ < 2 ^ (size + 1) * 2 ^ (-exponent) := by gcongr
        _ = 2 ^ (size + 1 + -exponent) := (zpow_add₀ (by norm_num) _ _).symm
        _ ≤ 2 ^ (53 : Int) := zpow_le_zpow_right₀ two (by omega)
    rw [div_lt_iff₀ (by exact_mod_cast below)] at small
    exact_mod_cast small
  have full : 2 ^ 52 ≤ scaled.1 / scaled.2 ∨ exponent = -1074 := by
    refine Classical.or_iff_not_imp_right.mpr fun large => ?_
    rw [Nat.le_div_iff_mul_le below]
    have enough : (2 : ℚ) ^ (52 : Int) ≤ (scaled.1 : ℚ) / scaled.2 := by
      calc (2 : ℚ) ^ (52 : Int) = 2 ^ (size + -exponent) := by congr 1; omega
        _ = 2 ^ size * 2 ^ (-exponent) := zpow_add₀ (by norm_num) _ _
        _ ≤ numerator / denominator * 2 ^ (-exponent) := by gcongr
        _ = (scaled.1 : ℚ) / scaled.2 := value.symm
    rw [le_div_iff₀ (by exact_mod_cast below)] at enough
    exact_mod_cast enough
  obtain ⟨down, up⟩ := roundFraction_le scaled.1 scaled.2
  exact ⟨by omega, full.imp_left fun enough => enough.trans down⟩

theorem isWellFormed_ofFraction (negative : Bool) (numerator : Nat) {denominator : Nat}
    (bottom : 0 < denominator) : (ofFraction negative numerator denominator).IsWellFormed := by
  unfold ofFraction
  split
  · exact isProper_zero
  · rename_i nonzero
    have top : 0 < numerator := Nat.pos_of_ne_zero (by simpa using nonzero)
    dsimp only
    generalize unit : max (binaryExponent numerator denominator - 52) (-1074) = exponent
    obtain ⟨short, full⟩ := roundFraction_bounds top bottom unit.symm
    have least : -1074 ≤ exponent := unit ▸ le_max_right _ _
    generalize roundFraction _ _ = mantissa at short full ⊢
    by_cases carries : mantissa = 2 ^ 53
    · simp only [carries, Nat.pow_eq, beq_self_eq_true, ↓reduceIte]
      split
      · trivial
      · exact ⟨by norm_num, by omega, by omega, .inl le_rfl⟩
    · have kept : (mantissa == Nat.pow 2 53) = false := by simpa using carries
      simp only [kept, Bool.false_eq_true, ↓reduceIte]
      split
      · trivial
      · exact ⟨by omega, least, by omega, full⟩

theorem isWellFormed_ofDecimal (negative : Bool) (digits : Nat) (exponent : Int) :
    (ofDecimal negative digits exponent).IsWellFormed := by
  unfold ofDecimal
  dsimp only
  split
  · exact isProper_zero
  · split
    · trivial
    · exact isWellFormed_ofFraction _ _ (scale_pos _ (by decide) (by decide))

theorem isWellFormed_ofNat (n : Nat) : (ofNat n).IsWellFormed := isWellFormed_ofFraction _ _ (by decide)

private theorem magnitude_pos (value : Binary64) : 0 < value.magnitude.2 := by
  cases value with
  | finite => exact scale_pos _ (by decide) (by decide)
  | _ => exact Nat.one_pos

theorem isWellFormed_add (a b : Binary64) : (a.add b).IsWellFormed := by
  unfold add
  split
  case h_6 sign mantissa exponent sign' mantissa' exponent' =>
    dsimp only
    split
    · exact isProper_zero
    · exact isWellFormed_ofFraction _ _ (Nat.mul_pos (magnitude_pos (finite sign mantissa exponent))
        (magnitude_pos (finite sign' mantissa' exponent')))
  case h_3 =>
    split
    · trivial
    · trivial
  all_goals trivial

theorem isWellFormed_negate {value : Binary64} (wellFormed : value.IsWellFormed) :
    value.negate.IsWellFormed := by
  cases value with
  | finite => exact wellFormed
  | _ => trivial

end UnitLift.Binary64

/-! ## Reading -/

namespace UnitLift.Text

private theorem isWellFormed_readUnsigned {text : List Char} {value : Binary64}
    (read : readUnsigned? text = some value) : value.IsWellFormed := by
  have rounded {exponent : Option Int} {digits : Option Nat} {places : Int}
      (read : (exponent.bind fun exponent => digits.bind fun digits =>
        some (Binary64.ofDecimal false digits (exponent - places))) = some value) :
      value.IsWellFormed := by
    obtain ⟨_, -, read⟩ := Option.bind_eq_some_iff.mp read
    obtain ⟨_, -, read⟩ := Option.bind_eq_some_iff.mp read
    cases read
    exact Binary64.isWellFormed_ofDecimal _ _ _
  dsimp only [readUnsigned?, Option.bind_eq_bind, Option.pure_def] at read
  split at read
  · exact rounded read
  · split at read
    · exact rounded read
    · exact rounded read

theorem isWellFormed_readFraction {text : List Char} {value : Binary64}
    (read : readFraction? text = some value) : value.IsWellFormed := by
  unfold readFraction? at read
  generalize takeSign (unpadded text) = signed at read
  obtain ⟨size, found, rfl⟩ := Option.map_eq_some_iff.mp read
  have proper : size.IsWellFormed := by
    split at found
    · cases found
      trivial
    · split at found
      · cases found
        trivial
      · exact isWellFormed_readUnsigned found
  split
  · exact Binary64.isWellFormed_negate proper
  · exact proper

end UnitLift.Text

namespace UnitLift.Yaml.Number

private theorem isWellFormed_sumSixtieths {above : Nat} {sum value : Binary64} {parts : List Binary64}
    (proper : sum.IsWellFormed) (found : sumSixtieths above sum parts = .ok value) :
    value.IsWellFormed := by
  induction parts generalizing above sum with
  | nil =>
    cases found
    exact proper
  | cons part rest ih =>
    rw [sumSixtieths] at found
    cases scaled : sixtiethsOf above with
    | error flaw =>
      rw [scaled] at found
      cases found
    | ok sixtieths =>
      rw [scaled] at found
      exact ih (Binary64.isWellFormed_add _ _) found

private theorem isWellFormed_fraction {digits : List Char} {value : Binary64}
    (read : fraction digits = .ok value) : value.IsWellFormed := by
  unfold fraction at read
  split at read
  · cases read
    trivial
  · split at read
    · cases read
      trivial
    · split at read
      · cases found : (colonParts digits).mapM fun part => number (Text.readFraction? part) with
        | error flaw =>
          rw [found] at read
          cases read
        | ok parts =>
          rw [found] at read
          exact isWellFormed_sumSixtieths (Binary64.isWellFormed_ofNat 0) read
      · cases found : Text.readFraction? digits with
        | none =>
          rw [found] at read
          cases read
        | some number =>
          rw [found] at read
          cases read
          exact Text.isWellFormed_readFraction found

theorem isWellFormed_float {text : List Char} {value : Binary64} (read : float text = .ok value) :
    value.IsWellFormed := by
  unfold float at read
  cases signed : withoutSign (text.map Char.toLower) with
  | error flaw =>
    rw [signed] at read
    cases read
  | ok parts =>
    rw [signed] at read
    cases size : fraction parts.2 with
    | error flaw =>
      simp only [size, bind, Except.bind] at read
      cases read
    | ok number =>
      simp only [size, bind, Except.bind, pure, Except.pure] at read
      obtain rfl := Except.ok.inj read
      split
      · exact Binary64.isWellFormed_negate (isWellFormed_fraction size)
      · exact isWellFormed_fraction size

end UnitLift.Yaml.Number

namespace UnitLift

/-- A scalar of which the number, if it is one with a fraction, is in the form in which all numbers are. -/
def Scalar.IsProper : Scalar → Prop
  | .real value => value.IsWellFormed
  | _ => True

end UnitLift
