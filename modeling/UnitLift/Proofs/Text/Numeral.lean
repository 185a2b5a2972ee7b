import UnitLift.Text.Numeral

namespace UnitLift.Text

theorem digitValue?_of_isDigit {c : Char} (digit : c.isDigit = true) :
    digitValue? c = some (c.toNat - 48) := by
  have bound : c.toNat < 128 := by
    have range : 48 ≤ c.toNat ∧ c.toNat ≤ 57 := by
      simpa [Char.isDigit, UInt32.le_iff_toNat_le] using digit
    omega
  simp [digitValue?, bound, digit]

theorem isDecimalDigit_of_mem_toDigits {number : Nat} {c : Char}
    (member : c ∈ Nat.toDigits 10 number) : isDecimalDigit c = true := by
  have digit := Nat.isDigit_of_mem_toDigits (by decide) (by decide) member
  rw [isDecimalDigit, digitValue?_of_isDigit digit]
  rfl

private theorem digitsValue_eq_ofDigitChars {digits : List Char}
    (decimal : ∀ c ∈ digits, c.isDigit = true) :
    digitsValue digits = Nat.ofDigitChars 10 digits 0 := by
  have each (start : Nat) :
      digits.foldl (fun value c => value * 10 + (digitValue? c).getD 0) start =
        Nat.ofDigitChars 10 digits start := by
    induction digits generalizing start with
    | nil => simp
    | cons c rest ih =>
      have digit := digitValue?_of_isDigit (decimal c (by simp))
      rw [List.foldl_cons, ih fun c member => decimal c (by simp [member]),
        Nat.ofDigitChars_cons, digit, Nat.mul_comm]
      rfl
  exact each 0

theorem lt_unreadable {number : Nat} (few : number ≤ maxDigits) : number < unreadable :=
  Nat.lt_of_le_of_lt few (Nat.lt_pow_self (by decide))

theorem length_toDigits_le_iff {number : Nat} :
    (Nat.toDigits 10 number).length ≤ maxDigits ↔ number < unreadable :=
  Nat.length_toDigits_le_iff (by decide) (by decide)

theorem digitsValue_toDigits (number : Nat) : digitsValue (Nat.toDigits 10 number) = number := by
  rw [digitsValue_eq_ofDigitChars fun c member =>
    Nat.isDigit_of_mem_toDigits (by decide) (by decide) member]
  exact Nat.ofDigitChars_ten_toDigits

/-- A number is read back from its numeral unless that is too long. -/
theorem readDigits?_toDigits_eq (number : Nat) :
    readDigits? (Nat.toDigits 10 number) = if number < unreadable then some number else none := by
  simp only [readDigits?, length_toDigits_le_iff, digitsValue_toDigits]

theorem readDigits?_toDigits {number : Nat} (short : number < unreadable) :
    readDigits? (Nat.toDigits 10 number) = some number := by
  rw [readDigits?_toDigits_eq, if_pos short]

theorem notMem_toDigits {c : Char} (other : c.isDigit = false) (number : Nat) :
    c ∉ Nat.toDigits 10 number := by
  intro member
  cases other.symm.trans (Nat.isDigit_of_mem_toDigits (by decide) (by decide) member)

theorem toList_toString (number : Int) : (toString number).toList =
    (if number < 0 then ['-'] else []) ++ Nat.toDigits 10 number.natAbs := by
  cases number with
  | ofNat value =>
    rw [if_neg (by simp)]
    exact Nat.toList_repr
  | negSucc value =>
    have written : toString (Int.negSucc value) = "-" ++ (value + 1).repr := rfl
    rw [written, if_pos (Int.negSucc_lt_zero value), String.toList_append, Nat.toList_repr]
    rfl

/-- No two integers are written alike. -/
theorem toString_inj {first second : Int} (same : toString first = toString second) :
    first = second := by
  have digits {rest : List Char}
      (same : rest ++ Nat.toDigits 10 first.natAbs = rest ++ Nat.toDigits 10 second.natAbs) :
      first.natAbs = second.natAbs :=
    calc
      first.natAbs = Nat.ofDigitChars 10 (Nat.toDigits 10 first.natAbs) 0 :=
        Nat.ofDigitChars_ten_toDigits.symm
      _ = second.natAbs := by rw [List.append_cancel_left same, Nat.ofDigitChars_ten_toDigits]
  -- only a negative number starts with a sign
  have unsigned (number : Nat) (rest : List Char) : Nat.toDigits 10 number ≠ '-' :: rest :=
    fun signed => notMem_toDigits (by decide) number (signed ▸ List.mem_cons_self)
  have texts := congrArg String.toList same
  rw [toList_toString, toList_toString] at texts
  split at texts
  · split at texts
    · have size := digits texts
      omega
    · exact (unsigned _ _ texts.symm).elim
  · split at texts
    · exact (unsigned _ _ texts).elim
    · have size := digits texts
      omega

end UnitLift.Text
