import UnitLift.Number.Binary64
import UnitLift.Text.Numeral

namespace UnitLift.Text

/-- An exponent after its letter. -/
def readExponent? (text : List Char) : Option Int :=
  let (negative, digits) := takeSign text
  (ofDigits? 10 digits).map fun n => if negative then -(n : Int) else n

/-- The number nearest to a decimal fraction without a sign. -/
def readUnsigned? (text : List Char) : Option Binary64 := do
  let whole := text.takeWhile isDecimalDigit
  let rest := text.dropWhile isDecimalDigit
  let (part, rest) := match rest with
    | '.' :: rest => (rest.takeWhile isDecimalDigit, rest.dropWhile isDecimalDigit)
    | rest => ([], rest)
  let exponent ← match rest with
    | [] => some 0
    | c :: rest => if c == 'e' || c == 'E' then readExponent? rest else none
  let digits ← ofDigits? 10 (whole ++ part)
  return Binary64.ofDecimal false digits (exponent - part.length)

/-- The number nearest to a decimal fraction. Blanks around it and a sign are allowed, and so are the
words for what is infinite and for what is no number, in letters of either case. -/
def readFraction? (text : List Char) : Option Binary64 :=
  let (negative, rest) := takeSign (unpadded text)
  let word := rest.map Char.toLower
  let size : Option Binary64 :=
    if word == "inf".toList || word == "infinity".toList then some (.infinite false)
    else if word == "nan".toList then some .notANumber
    else readUnsigned? rest
  size.map fun value => if negative then value.negate else value

end UnitLift.Text
