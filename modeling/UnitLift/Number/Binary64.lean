/-!
Floating-point numbers of 64 bits as exact data: a whole number times a power of two. Reading a
decimal fraction gives the nearest such number, and of two equally near ones that with the even
mantissa.
-/

namespace UnitLift

/-- A floating-point number of 64 bits. -/
inductive Binary64 where
  /-- `mantissa * 2 ^ exponent`; the mantissa has at most 53 bits, and 53 unless the exponent is the
  least one, `-1074`. -/
  | finite (negative : Bool) (mantissa : Nat) (exponent : Int)
  | infinite (negative : Bool)
  | notANumber
deriving DecidableEq, Repr, Inhabited

namespace Binary64

/-- A positive fraction `numerator / denominator` times `base ^ exponent`, as a plain fraction. -/
def scale (base numerator denominator : Nat) (exponent : Int) : Nat × Nat :=
  if 0 ≤ exponent then (numerator * Nat.pow base exponent.toNat, denominator)
  else (numerator, denominator * Nat.pow base (-exponent).toNat)

/-- The whole number nearest to a fraction, the even one if two are equally near. -/
def roundFraction (numerator denominator : Nat) : Nat :=
  let down := numerator / denominator
  let rest := 2 * (numerator % denominator)
  if rest < denominator then down
  else if denominator < rest then down + 1
  else if down % 2 == 0 then down else down + 1

/-- The greatest `e` with `2 ^ e ≤ numerator / denominator`, for a positive fraction. -/
def binaryExponent (numerator denominator : Nat) : Int :=
  let estimate : Int := (Nat.log2 numerator : Int) - (Nat.log2 denominator : Int)
  let (scaled, unit) := scale 2 denominator 1 estimate
  if scaled ≤ numerator * unit then estimate else estimate - 1

/-- The number nearest to a fraction. -/
def ofFraction (negative : Bool) (numerator denominator : Nat) : Binary64 :=
  if numerator == 0 then finite negative 0 (-1074)
  else
    let exponent := max (binaryExponent numerator denominator - 52) (-1074)
    let (top, bottom) := scale 2 numerator denominator (-exponent)
    let mantissa := roundFraction top bottom
    let (mantissa, exponent) :=
      if mantissa == Nat.pow 2 53 then (Nat.pow 2 52, exponent + 1) else (mantissa, exponent)
    if 971 < exponent then infinite negative else finite negative mantissa exponent

/-- The number nearest to `digits * 10 ^ exponent`. -/
def ofDecimal (negative : Bool) (digits : Nat) (exponent : Int) : Binary64 :=
  let magnitude : Int := exponent + (Nat.toDigits 10 digits).length
  if digits == 0 || magnitude < -400 then finite negative 0 (-1074)
  else if 400 < magnitude then infinite negative
  else
    let (top, bottom) := scale 10 digits 1 exponent
    ofFraction negative top bottom

/-- The size of a number as a fraction; of what has none, zero. -/
def magnitude : Binary64 → Nat × Nat
  | finite _ mantissa exponent => scale 2 mantissa 1 exponent
  | _ => (0, 1)

/-- Whether a number has a minus sign. -/
def isNegative : Binary64 → Bool
  | finite negative _ _ => negative
  | infinite negative => negative
  | notANumber => false

/-- The number nearest to a whole number. -/
def ofNat (n : Nat) : Binary64 := ofFraction false n 1

/-- The number nearest to a fraction that is not zero. -/
private def ofSignedFraction (numerator : Int) (denominator : Nat) : Binary64 :=
  ofFraction (decide (numerator < 0)) numerator.natAbs denominator

/-- The value of a finite number as a whole number over another; of what has none, zero. -/
def signedFraction (value : Binary64) : Int × Nat :=
  let (top, bottom) := value.magnitude
  (if value.isNegative then -(top : Int) else top, bottom)

/-- The sum of two numbers, rounded. A sum of zero is only negative if both parts are. -/
def add (a b : Binary64) : Binary64 :=
  match a, b with
  | notANumber, _ => notANumber
  | _, notANumber => notANumber
  | infinite negative, infinite other => if negative == other then infinite negative else notANumber
  | infinite negative, finite .. => infinite negative
  | finite .., infinite negative => infinite negative
  | finite .., finite .. =>
    let (top, bottom) := a.signedFraction
    let (otherTop, otherBottom) := b.signedFraction
    let sum := top * otherBottom + otherTop * bottom
    if sum == 0 then finite (a.isNegative && b.isNegative) 0 (-1074)
    else ofSignedFraction sum (bottom * otherBottom)

/-- The product of two numbers, rounded. -/
def multiply (a b : Binary64) : Binary64 :=
  let negative := a.isNegative != b.isNegative
  match a, b with
  | notANumber, _ => notANumber
  | _, notANumber => notANumber
  | infinite _, infinite _ => infinite negative
  | infinite _, finite _ mantissa _ => if mantissa == 0 then notANumber else infinite negative
  | finite _ mantissa _, infinite _ => if mantissa == 0 then notANumber else infinite negative
  | finite .., finite .. =>
    let (top, bottom) := a.magnitude
    let (otherTop, otherBottom) := b.magnitude
    ofFraction negative (top * otherTop) (bottom * otherBottom)

/-- A number with its sign changed. -/
def negate : Binary64 → Binary64
  | finite negative mantissa exponent => finite (!negative) mantissa exponent
  | infinite negative => infinite (!negative)
  | notANumber => notANumber

/-- The whole number that a number is, if it is one. -/
def toInt? : Binary64 → Option Int
  | value@(finite negative _ _) =>
    let (top, bottom) := value.magnitude
    if top % bottom == 0 then
      some (if negative then -((top / bottom : Nat) : Int) else ((top / bottom : Nat) : Int))
    else none
  | _ => none

/-- The greatest `e` with `10 ^ e ≤ numerator / denominator`, for a positive fraction. -/
def decimalExponent (numerator denominator : Nat) : Int :=
  let least := (binaryExponent numerator denominator * 30103).fdiv 100000 - 1
  let reached (e : Int) : Bool :=
    let (top, bottom) := scale 10 1 1 e
    decide (top * denominator ≤ numerator * bottom)
  ([3, 2, 1].map (least + ·)).find? reached |>.getD least

/-- The decimal of `count` digits that reads back as `mantissa * 2 ^ exponent` and is nearest to it,
as digits and a power of ten. -/
def decimalOf? (mantissa : Nat) (exponent : Int) (count : Nat) : Option (Nat × Int) :=
  let (top, bottom) := scale 2 mantissa 1 exponent
  let power := decimalExponent top bottom - (count - 1 : Nat)
  let (valueTop, valueBottom) := scale 10 top bottom (-power)
  let readsBack (digits : Nat) : Bool :=
    ofDecimal false digits power == finite false mantissa exponent
  let down := valueTop / valueBottom
  let rest := 2 * (valueTop % valueBottom)
  let nearDown := rest < valueBottom || (rest == valueBottom && down % 2 == 0)
  let (near, far) := if nearDown then (down, down + 1) else (down + 1, down)
  if readsBack near then some (near, power)
  else if readsBack far then some (far, power)
  else none

/-- The fewest decimal digits that read back as `mantissa * 2 ^ exponent`, and the power of ten that
the last of them stands for. -/
def shortest (mantissa : Nat) (exponent : Int) : Nat × Int :=
  ((List.range 17).findSome? fun n => decimalOf? mantissa exponent (n + 1)).getD (0, 0)

/-- Digits and the power of ten of the last one, without zeros at the end. -/
def dropZeros (digits : List Char) (power : Int) : List Char × Int :=
  let zeros := (digits.reverse.takeWhile (· == '0')).length
  (digits.take (digits.length - zeros), power + zeros)

/-- Digits with a decimal point after the first `point` of them. Positional notation is used from
`0.0001` up to sixteen digits before the point, with `.0` after a whole number; other numbers have
one digit before the point and an exponent with a sign and at least two digits. -/
def layout (digits : List Char) (point : Int) : List Char :=
  if -4 < point && point ≤ 16 then
    if point ≤ 0 then '0' :: '.' :: (List.replicate (-point).toNat '0' ++ digits)
    else if digits.length ≤ point.toNat then
      digits ++ List.replicate (point.toNat - digits.length) '0' ++ ['.', '0']
    else digits.take point.toNat ++ '.' :: digits.drop point.toNat
  else
    let exponent := point - 1
    let mark := if exponent < 0 then ['e', '-'] else ['e', '+']
    let power := Nat.toDigits 10 exponent.natAbs
    let power := if power.length < 2 then '0' :: power else power
    match digits with
    | [] => []
    | [d] => d :: mark ++ power
    | d :: more => d :: '.' :: more ++ mark ++ power

/-- A number in the fewest digits that read back as the same number. -/
def text : Binary64 → String
  | notANumber => "nan"
  | infinite negative => if negative then "-inf" else "inf"
  | finite negative mantissa exponent =>
    let sign := if negative then "-" else ""
    if mantissa == 0 then sign ++ "0.0"
    else
      let (value, power) := shortest mantissa exponent
      let (digits, power) := dropZeros (Nat.toDigits 10 value) power
      sign ++ String.ofList (layout digits (digits.length + power))

end Binary64

end UnitLift
