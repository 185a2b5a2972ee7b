import UnitLift.Text.Numeral
import UnitLift.Yaml.Character
import UnitLift.Yaml.ScalarKind

namespace UnitLift.Yaml

/-- A time of the day. -/
structure Clock where
  hour : Nat
  minute : Nat
  second : Nat
  /-- The distance to the reference time, in minutes. -/
  offset : Nat
deriving DecidableEq, Repr

/-- A date, with a time of that day or none. -/
structure Moment where
  year : Nat
  month : Nat
  day : Nat
  clock : Option Clock
deriving DecidableEq, Repr

namespace Moment

/-- The number that at least `least` and at most `most` digits stand for, and what follows. -/
def takeNumber? (least most : Nat) (text : List Char) : Option (Nat × List Char) :=
  let digits := (text.take most).takeWhile Char.isDigit
  if digits.length < least then none
  else some (Text.digitsValue digits, text.drop digits.length)

/-- Takes a certain character off a text. -/
def take? (c : Char) : List Char → Option (List Char)
  | d :: rest => if d == c then some rest else none
  | [] => none

/-- The distance to the reference time in minutes, at the end of a text. -/
def readOffset? (text : List Char) : Option Nat :=
  match text.dropWhile isBlank with
  | [] => if text.isEmpty then some 0 else none
  | ['Z'] => some 0
  | sign :: rest => do
    if sign != '+' && sign != '-' then none
    let (hours, rest) ← takeNumber? 1 2 rest
    match rest with
    | [] => some (60 * hours)
    | rest => do
      let (minutes, rest) ← takeNumber? 2 2 (← take? ':' rest)
      if rest.isEmpty then some (60 * hours + minutes) else none

/-- A time of the day at the end of a text. -/
def readClock? (text : List Char) : Option Clock := do
  let (hour, rest) ← takeNumber? 1 2 text
  let (minute, rest) ← takeNumber? 2 2 (← take? ':' rest)
  let (second, rest) ← takeNumber? 2 2 (← take? ':' rest)
  let rest := match rest with
    | '.' :: rest => rest.dropWhile Char.isDigit
    | rest => rest
  return ⟨hour, minute, second, ← readOffset? rest⟩

def read? (text : List Char) : Option Moment := do
  let (year, rest) ← takeNumber? 4 4 text
  let (month, rest) ← takeNumber? 1 2 (← take? '-' rest)
  let (day, rest) ← takeNumber? 1 2 (← take? '-' rest)
  match rest with
  | [] => return ⟨year, month, day, none⟩
  | c :: rest =>
    if c == 'T' || c == 't' then return ⟨year, month, day, some (← readClock? rest)⟩
    else if isBlank c then
      return ⟨year, month, day, some (← readClock? (rest.dropWhile isBlank))⟩
    else none

def daysOf (year month : Nat) : Nat :=
  if month == 2 then
    if year % 4 == 0 && (year % 100 != 0 || year % 400 == 0) then 29 else 28
  else if [4, 6, 9, 11].contains month then 30
  else 31

/-- Whether a calendar and a clock can show a moment. -/
def isPossible (moment : Moment) : Bool :=
  1 ≤ moment.year && 1 ≤ moment.month && moment.month ≤ 12 && 1 ≤ moment.day &&
    moment.day ≤ daysOf moment.year moment.month &&
    moment.clock.all fun clock =>
      clock.hour < 24 && clock.minute < 60 && clock.second < 60 && clock.offset < 24 * 60

/-- The moment that a scalar stands for. -/
def ofText (text : String) : Except Flaw Moment :=
  match read? (ScalarKind.withoutLastFeed text.toList) with
  | none => .error .noDate
  | some moment => if moment.isPossible then .ok moment else .error .impossibleDate

end Moment

end UnitLift.Yaml
