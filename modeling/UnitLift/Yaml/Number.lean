import UnitLift.Text.Fraction
import UnitLift.Yaml.Flaw

namespace UnitLift.Yaml.Number

/-- A numeral without its underscores and its sign, and whether it is negative. -/
def withoutSign (text : List Char) : Except Flaw (Bool × List Char) :=
  let text := text.filter (· != '_')
  if text.isEmpty then .error .emptyNumeral else .ok (Text.takeSign text)

def number {α : Type} (read : Option α) : Except Flaw α := read.elim (.error .badNumeral) .ok

/-- The parts of a numeral between colons. -/
def colonParts (text : List Char) : List (List Char) :=
  text.foldr (fun c parts => match c, parts with
    | ':', parts => [] :: parts
    | c, part :: parts => (c :: part) :: parts
    | c, [] => [[c]]) [[]]

/-- The size of a whole number; what looks like an octal number has to be one. -/
def size : List Char → Except Flaw Int
  | [] => .error .emptyNumeral
  | ['0'] => .ok 0
  | '0' :: 'b' :: digits => number (Text.readInBase? 2 digits)
  | '0' :: 'x' :: digits => number (Text.readInBase? 16 digits)
  | '0' :: digits => number (Text.readInBase? 8 ('0' :: digits))
  | digits => do
    let parts ← (colonParts digits).mapM fun part => number (Text.readInBase? 10 part)
    return parts.foldl (fun value part => value * 60 + part) 0

/-- The whole number that a scalar stands for. -/
def int (text : List Char) : Except Flaw Int := do
  let (negative, digits) ← withoutSign text
  let value ← size digits
  return if negative then -value else value

/-- The number of sixtieths that a part with `above` parts behind it counts for. -/
def sixtiethsOf (above : Nat) : Except Flaw Binary64 :=
  match Binary64.ofNat (Nat.pow 60 above) with
  | .infinite _ => .error .numeralTooLarge
  | value => .ok value

/-- The sum of parts from the `above`-th last one on, the last one first. Each sum is rounded. -/
def sumSixtieths (above : Nat) (sum : Binary64) : List Binary64 → Except Flaw Binary64
  | [] => .ok sum
  | part :: rest => do
    sumSixtieths (above + 1) (sum.add (part.multiply (← sixtiethsOf above))) rest

def fraction (digits : List Char) : Except Flaw Binary64 := do
  if digits == ".inf".toList then return .infinite false
  else if digits == ".nan".toList then return .notANumber
  else if digits.contains ':' then
    let parts ← (colonParts digits).mapM fun part => number (Text.readFraction? part)
    sumSixtieths 0 (.ofNat 0) parts.reverse
  else number (Text.readFraction? digits)

/-- The fraction that a scalar stands for. -/
def float (text : List Char) : Except Flaw Binary64 := do
  let (negative, digits) ← withoutSign (text.map Char.toLower)
  let value ← fraction digits
  return if negative then value.negate else value

end UnitLift.Yaml.Number
