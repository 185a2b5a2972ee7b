import UnitLift.Data.Value
import UnitLift.Text.Fraction
import UnitLift.Yaml.Character

/-!
Reading plain values from JSON. A number with a point or an exponent is a fraction; the members of an
object keep their order, and of members with one name the last one counts, in the place of the first.
-/

namespace UnitLift.JsonText

/-- What is left to read; what is not well-formed has no value. -/
abbrev Reader (α : Type) := StateT (List Char) Option α

namespace Reader

def skipBlanks : Reader Unit :=
  modify fun text => text.dropWhile fun c => c == ' ' || c == '\t' || c == '\n' || c == '\r'

/-- Takes a character off if it comes next. -/
def takes (c : Char) : Reader Bool := do
  match ← get with
  | d :: rest =>
    if d == c then
      set rest
      return true
    return false
  | [] => return false

/-- Takes a character that has to come next, and the blanks behind it. -/
def expect (c : Char) : Reader Unit := do
  if !(← takes c) then failure
  skipBlanks

/-- The number that four hexadecimal digits stand for. -/
def unit : Reader Nat := do
  let digits := (← get).take 4
  if digits.length < 4 then failure
  modify (List.drop 4)
  digits.foldlM (fun value c => do
    match Yaml.hexValue? c with
    | some digit => return value * 16 + digit
    | none => failure) 0

/-- The character that an escape stands for. A character beyond the first 65536 has an escape of two
parts. -/
def escape : Reader Char := do
  match ← get with
  | 'u' :: rest =>
    set rest
    let high ← unit
    if 0xd800 ≤ high && high < 0xdc00 then
      match ← get with
      | '\\' :: 'u' :: rest =>
        set rest
        let low ← unit
        return Char.ofNat (0x10000 + (high - 0xd800) * 0x400 + (low - 0xdc00))
      | _ => return Char.ofNat 0xfffd
    return Char.ofNat high
  | c :: rest =>
    set rest
    match [('n', '\n'), ('t', '\t'), ('r', '\r'), ('b', '\x08'), ('f', '\x0c')].lookup c with
    | some meant => return meant
    | none => return c
  | [] => failure

/-- The characters of a text up to its closing quote, the last one first, behind those in `before`. -/
def characters (before : List Char) : Nat → Reader (List Char)
  | 0 => failure
  | fuel + 1 => do
    match ← get with
    | '"' :: rest =>
      set rest
      return before
    | '\\' :: rest =>
      set rest
      let c ← escape
      characters (c :: before) fuel
    | c :: rest =>
      set rest
      characters (c :: before) fuel
    | [] => failure

def text : Reader String := do
  if !(← takes '"') then failure
  let text ← characters [] ((← get).length + 1)
  return String.ofList text.reverse

/-- The scalar that a word or a numeral stands for. -/
def scalarOf? (word : List Char) : Option Scalar :=
  match String.ofList word with
  | "null" => some .null
  | "true" => some (.bool true)
  | "false" => some (.bool false)
  | "NaN" => some (.real .notANumber)
  | "Infinity" => some (.real (.infinite false))
  | "-Infinity" => some (.real (.infinite true))
  | _ =>
    if word.any fun c => c == '.' || c == 'e' || c == 'E' then
      (Text.readFraction? word).map .real
    else
      let (negative, digits) := Text.takeSign word
      (Text.ofDigits? 10 digits).map fun n => .int (if negative then -(n : Int) else n)

/-- A scalar without quotes. -/
def bare : Reader Value := do
  let isPart (c : Char) : Bool := c.isAlphanum || c == '-' || c == '+' || c == '.'
  let word := (← get).takeWhile isPart
  modify (List.dropWhile isPart)
  match scalarOf? word with
  | some scalar => return .scalar scalar
  | none => failure

/-- Writes a member: under a name that is there already the value is replaced. -/
def write (name : String) (value : Value) (members : List (Scalar × Value)) :
    List (Scalar × Value) :=
  if members.any fun member => member.1 == .text name then
    members.map fun member => if member.1 == .text name then (member.1, value) else member
  else members ++ [(.text name, value)]

mutual

/-- A value, with the blanks behind it. -/
def value : Nat → Reader Value
  | 0 => failure
  | fuel + 1 => do
    let result ← (do
      match ← get with
      | '"' :: _ => return .text (← text)
      | '[' :: _ =>
        expect '['
        if ← takes ']' then return .list []
        return .list (← items fuel)
      | '\x7b' :: _ =>
        expect '\x7b'
        if ← takes '\x7d' then return .mapping []
        return .mapping (← members [] fuel)
      | _ => bare)
    skipBlanks
    return result

def items : Nat → Reader (List Value)
  | 0 => failure
  | fuel + 1 => do
    let item ← value fuel
    if ← takes ']' then return [item]
    expect ','
    return item :: (← items fuel)

/-- The members of an object up to its end, behind those in `before`. -/
def members (before : List (Scalar × Value)) : Nat → Reader (List (Scalar × Value))
  | 0 => failure
  | fuel + 1 => do
    let name ← text
    skipBlanks
    expect ':'
    let content ← value fuel
    let all := write name content before
    if ← takes '\x7d' then return all
    expect ','
    members all fuel

end

end Reader

end JsonText

def Value.ofJson? (text : String) : Option Value := do
  let start := text.toList
  match ← (JsonText.Reader.skipBlanks *> JsonText.Reader.value (start.length + 1)).run start with
  | (value, []) => some value
  | _ => none

end UnitLift
