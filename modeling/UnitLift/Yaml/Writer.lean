import UnitLift.Text.Numeral
import UnitLift.Yaml.WrittenScalar

/-!
Values as documents. The entries of a mapping and the items of a list stand below each other, those of
a mapping sorted by their keys if keys of one sort can be; a list in a mapping is not indented.
-/

namespace UnitLift.Yaml

/-- A number as a fraction with a positive denominator; what is infinite is none. -/
def fractionOf? : Scalar → Option (Int × Nat)
  | .bool value => some (if value then 1 else 0, 1)
  | .int value => some (value, 1)
  | .real value@(.finite ..) => some value.signedFraction
  | _ => none

/-- Whether a key comes before another of its sort. What is no number comes before nothing, and nothing
before it. -/
def comesBefore (a b : Scalar) : Bool :=
  match a, b with
  | .text a, .text b => a < b
  | .real .notANumber, _ => false
  | _, .real .notANumber => false
  | .real (.infinite negative), other => negative && other != .real (.infinite true)
  | other, .real (.infinite negative) => !negative && other != .real (.infinite false)
  | a, b =>
    match fractionOf? a, fractionOf? b with
    | some (top, bottom), some (otherTop, otherBottom) =>
      top * (otherBottom : Int) < otherTop * (bottom : Int)
    | _, _ => false

/-- Whether a scalar can be written: the numeral of a number must not be too long. -/
def canWriteScalar : Scalar → Bool
  | .int value => value.natAbs < Text.unreadable
  | _ => true

mutual

/-- Whether all scalars in a value can be written. -/
def canWrite : Value → Bool
  | .scalar value => canWriteScalar value
  | .list items => canWriteItems items
  | .mapping entries => canWriteEntries entries

def canWriteItems : List Value → Bool
  | [] => true
  | value :: rest => canWrite value && canWriteItems rest

def canWriteEntries : List (Scalar × Value) → Bool
  | [] => true
  | (key, value) :: rest => canWriteScalar key && canWrite value && canWriteEntries rest

end

def isText : Scalar → Bool
  | .text _ => true
  | _ => false

/-- Puts an entry in among sorted ones, behind all that it does not come before as far as halving finds
them. The place is among the `width` ones from the `low`-th on. -/
def insertEntry {α : Type} (entry : Scalar × α) (sorted : List (Scalar × α)) (low width : Nat) :
    List (Scalar × α) :=
  match width with
  | 0 => sorted.insertIdx low entry
  | width + 1 =>
    let half := (width + 1) / 2
    match sorted[low + half]? with
    | some middle =>
      if comesBefore entry.1 middle.1 then insertEntry entry sorted low half
      else insertEntry entry sorted (low + half + 1) (width - half)
    | none => sorted.insertIdx low entry
termination_by width
decreasing_by all_goals omega

/-- The length of the run that entries start with after `last`: each one is before the next one if
`rises`, and behind it otherwise. -/
def runLength {α : Type} (rises : Bool) (last : Scalar) : List (Scalar × α) → Nat
  | [] => 0
  | (key, _) :: rest => if comesBefore key last == rises then 0 else runLength rises key rest + 1

/-- Entries that may have keys without an order, sorted by putting one after the other in behind the
run that they start with. -/
def sortByInsertion {α : Type} : List (Scalar × α) → List (Scalar × α)
  | first :: second :: rest =>
    let falls := comesBefore second.1 first.1
    let run := runLength (!falls) second.1 rest + 2
    let entries := first :: second :: rest
    let start := if falls then (entries.take run).reverse else entries.take run
    (entries.drop run).foldl (fun sorted entry => insertEntry entry sorted 0 sorted.length) start
  | entries => entries

/-- The entries of a mapping in the order in which they are written. Texts and numbers among the keys
of one mapping have no order. -/
def sortEntries {α : Type} (entries : List (Scalar × α)) : List (Scalar × α) :=
  if entries.any (·.1 == .real .notANumber) && !entries.any (isText ·.1) then
    sortByInsertion entries
  else if entries.all (isText ·.1) || !entries.any (isText ·.1) then
    entries.mergeSort fun a b => !comesBefore b.1 a.1
  else entries

def tagLength (scalar : Scalar) : Nat :=
  match kindOfScalar scalar with
  | .bool => 6
  | .null => 6
  | .float => 7
  | _ => 5

/-- Whether a key may be followed by its colon: it is neither empty nor long, and in one line. -/
def isSimpleKey (key : Scalar) : Bool :=
  let text := (scalarText key).toList
  tagLength key + text.length < 128 && !text.isEmpty && !text.any TextTraits.isLineEnd

/-- What a value follows, which decides where its parts begin. -/
inductive Lead where
  /-- A key and its colon: the parts begin in a new line. -/
  | key
  /-- A dash, or a colon at the start of a line: the first part follows at once. -/
  | sign
deriving DecidableEq, Repr

/-- The line end and the spaces before a part of a value. -/
def newLine (indent : Nat) : List Char := '\n' :: List.replicate indent ' '

/-- What stands before the first part of a value. -/
def Lead.first (lead : Lead) (indent : Nat) : List Char :=
  match lead with
  | key => newLine indent
  | sign => [' ']

/-- A key as it is written before its value. -/
structure WrittenKey where
  text : List Char
  /-- What the value follows, and the column where that ends. -/
  lead : Lead
  column : Nat

/-- A key of a mapping at `indent`, with its colon. -/
def writeKey (indent : Nat) (key : Scalar) : WrittenKey :=
  if isSimpleKey key then
    let name := writtenScalar true (indent + 2) indent key
    ⟨name ++ [':'], .key, indent + name.length + 1⟩
  else
    ⟨'?' :: ' ' :: writtenScalar false (indent + 2) (indent + 2) key ++ newLine indent ++ [':'],
      .sign, indent + 1⟩

/-- Written entries in the order of their keys, the first one behind `first`. -/
def joinEntries (first : List Char) (indent : Nat) (entries : List (Scalar × List Char)) :
    List Char :=
  first ++ List.intercalate (newLine indent) ((sortEntries entries).map (·.2))

mutual

/-- A value behind its lead, which ends at `column` and is a part of something at `indent`. -/
def writeValue (lead : Lead) (indent column : Nat) : Value → List Char
  | .scalar value => ' ' :: writtenScalar false (indent + 2) (column + 1) value
  | .list items =>
    if items.isEmpty then " []".toList
    else
      let indent := if lead == .key then indent else indent + 2
      writeItems (lead.first indent) indent items
  | .mapping entries =>
    if entries.isEmpty then " \x7b\x7d".toList
    else joinEntries (lead.first (indent + 2)) (indent + 2) (writeEntries (indent + 2) entries)

/-- The items of a list, the first one behind `before`. -/
def writeItems (before : List Char) (indent : Nat) : List Value → List Char
  | [] => []
  | item :: rest =>
    before ++ '-' :: writeValue .sign indent (indent + 1) item ++
      writeItems (newLine indent) indent rest

def writeEntries (indent : Nat) : List (Scalar × Value) → List (Scalar × List Char)
  | [] => []
  | (key, value) :: rest =>
    let written := writeKey indent key
    (key, written.text ++ writeValue written.lead indent written.column value) ::
      writeEntries indent rest

end

def writeDocument (entries : List (Scalar × Value)) : String :=
  String.ofList (joinEntries [] 0 (writeEntries 0 entries) ++ ['\n'])

end UnitLift.Yaml
