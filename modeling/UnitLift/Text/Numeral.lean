import UnitLift.Text.Blank

namespace UnitLift.Text

/-- The zeros of the decimal digits; the other nine digits follow each of them. -/
def digitZeros : List Nat :=
  [
    0x30, 0x660, 0x6f0, 0x7c0, 0x966, 0x9e6, 0xa66, 0xae6, 0xb66, 0xbe6,
    0xc66, 0xce6, 0xd66, 0xde6, 0xe50, 0xed0, 0xf20, 0x1040, 0x1090, 0x17e0,
    0x1810, 0x1946, 0x19d0, 0x1a80, 0x1a90, 0x1b50, 0x1bb0, 0x1c40, 0x1c50, 0xa620,
    0xa8d0, 0xa900, 0xa9d0, 0xa9f0, 0xaa50, 0xabf0, 0xff10, 0x104a0, 0x10d30, 0x11066,
    0x110f0, 0x11136, 0x111d0, 0x112f0, 0x11450, 0x114d0, 0x11650, 0x116c0, 0x11730, 0x118e0,
    0x11950, 0x11c50, 0x11d50, 0x11da0, 0x16a60, 0x16ac0, 0x16b50, 0x1d7ce, 0x1d7d8, 0x1d7e2,
    0x1d7ec, 0x1d7f6, 0x1e140, 0x1e2f0, 0x1e950, 0x1fbf0]

/-- The value of a decimal digit of any script. -/
def digitValue? (c : Char) : Option Nat :=
  if c.toNat < 128 then if c.isDigit then some (c.toNat - 48) else none
  else (digitZeros.find? fun start => start ≤ c.toNat && c.toNat < start + 10).map (c.toNat - ·)

def isDecimalDigit (c : Char) : Bool := (digitValue? c).isSome

/-- The most digits of a numeral that is read as a number. -/
def maxDigits : Nat := 4300

/-- The first number whose numeral is too long to be read. -/
def unreadable : Nat := Nat.pow 10 maxDigits

/-- The number that a run of digits stands for; other characters count as zero. -/
def digitsValue (digits : List Char) : Nat :=
  digits.foldl (fun value c => value * 10 + (digitValue? c).getD 0) 0

/-- The number that a run of digits stands for, unless it is too long to be read. -/
def readDigits? (digits : List Char) : Option Nat :=
  if digits.length ≤ maxDigits then some (digitsValue digits) else none

/-- The digits of a numeral whose digits may be grouped by single underscores. -/
private def ungroup : List Char → Option (List Char)
  | [] => none
  | [c] => if isDecimalDigit c then some [c] else none
  | c :: '_' :: rest => if isDecimalDigit c then (ungroup rest).map (c :: ·) else none
  | c :: rest => if isDecimalDigit c then (ungroup rest).map (c :: ·) else none

/-- A blank that may stand around a number: any but the four ASCII separators. -/
def isNumeralBlank (c : Char) : Bool := isBlank c && !(28 ≤ c.toNat && c.toNat ≤ 31)

/-- The text without the blanks that may stand around a number. -/
def unpadded (text : List Char) : List Char :=
  ((text.dropWhile isNumeralBlank).reverse.dropWhile isNumeralBlank).reverse

/-- A whole number: blanks around it, a sign before it and single underscores between its digits
are allowed. -/
def readInteger? (text : List Char) : Option Int :=
  match unpadded text with
  | '-' :: rest => ((ungroup rest).bind readDigits?).map fun value => -(value : Int)
  | '+' :: rest => ((ungroup rest).bind readDigits?).map Int.ofNat
  | rest => ((ungroup rest).bind readDigits?).map Int.ofNat

/-- A sign taken off a text: whether it is a minus sign, and what follows it. -/
def takeSign : List Char → Bool × List Char
  | '-' :: rest => (true, rest)
  | '+' :: rest => (false, rest)
  | rest => (false, rest)

/-- The value of a digit, of which those above nine are letters. -/
def anyDigitValue? (c : Char) : Option Nat :=
  if 'a' ≤ c && c ≤ 'f' then some (c.toNat - 87)
  else if 'A' ≤ c && c ≤ 'F' then some (c.toNat - 55)
  else digitValue? c

/-- The number that digits to a base stand for. -/
def ofDigits? (base : Nat) (digits : List Char) : Option Nat :=
  if digits.isEmpty then none
  else digits.foldl (fun value c => do
    let digit ← anyDigitValue? c
    if digit < base then some ((← value) * base + digit) else none) (some 0)

/-- The letter that may stand behind a zero before digits to a base. -/
def baseLetter? : Nat → Option Char
  | 2 => some 'b'
  | 8 => some 'o'
  | 16 => some 'x'
  | _ => none

/-- The digits of a numeral to a base behind its mark, if it has one. -/
def withoutBaseMark (base : Nat) : List Char → List Char
  | '0' :: c :: rest => if some c.toLower == baseLetter? base then rest else '0' :: c :: rest
  | digits => digits

/-- A whole number to a base that may have blanks around it, a sign and a mark of its base, but has no
groups. A decimal one may not be too long. -/
def readInBase? (base : Nat) (text : List Char) : Option Int :=
  let (negative, rest) := takeSign (unpadded text)
  let digits := withoutBaseMark base rest
  if base == 10 && maxDigits < digits.length then none
  else (ofDigits? base digits).map fun n => if negative then -(n : Int) else n

end UnitLift.Text
