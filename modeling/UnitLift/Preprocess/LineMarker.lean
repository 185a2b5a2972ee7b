import UnitLift.Failure
import UnitLift.Text.Numeral

/-!
Line markers: the lines `# 12 "file" 1 3` by which a preprocessor says where the lines after them
come from. In the name of the file a backslash stands before each backslash and each quote.
-/

namespace UnitLift

/-- Where the lines that follow come from. -/
structure LineMarker where
  line : Nat
  file : String
  /-- The flags as written: `1` enters a file, `2` returns to one, `3` marks a system header. -/
  flags : List String
deriving DecidableEq, Repr

namespace LineMarker

/-- A name with a backslash before each of its backslashes and quotes. -/
def escape : List Char → List Char
  | [] => []
  | c :: rest => if c == '\\' || c == '"' then '\\' :: c :: escape rest else c :: escape rest

/-- Writes one backslash for every two of them. -/
def halveBackslashes : List Char → List Char
  | [] => []
  | '\\' :: '\\' :: rest => '\\' :: halveBackslashes rest
  | c :: rest => c :: halveBackslashes rest

/-- Drops the backslash before a quote. -/
def bareQuotes : List Char → List Char
  | [] => []
  | '\\' :: '"' :: rest => '"' :: bareQuotes rest
  | c :: rest => c :: bareQuotes rest

/-- A name as it was before it was escaped. -/
def unescape (name : List Char) : List Char := bareQuotes (halveBackslashes name)

/-- The parts of a line that is a marker, as written. -/
structure Spelling where
  numeral : List Char
  name : List Char
  flags : List (List Char)
deriving DecidableEq, Repr

/-- What follows the blanks at the start, of which there is at least one. -/
def afterBlanks? : List Char → Option (List Char)
  | [] => none
  | c :: rest => if Text.isBlank c then some (Text.trimStart rest) else none

/-- What follows the word `line`, which may be left out. -/
def afterLineWord? : List Char → Option (List Char)
  | 'l' :: 'i' :: 'n' :: 'e' :: rest => afterBlanks? rest
  | rest => some rest

/-- The characters up to the next quote without a backslash before it, and what follows it. -/
def nameAndRest? : List Char → Option (List Char × List Char)
  | [] => none
  | '"' :: rest => some ([], rest)
  | ['\\'] => none
  | '\\' :: c :: rest => (nameAndRest? rest).map fun (name, rest) => ('\\' :: c :: name, rest)
  | c :: rest => (nameAndRest? rest).map fun (name, rest) => (c :: name, rest)

/-- The flags at the end of a marker: numerals, each after a blank. -/
def flags? (rest : List Char) : Option (List (List Char)) :=
  let flags := Text.words rest
  let apart := match rest with
    | [] => true
    | c :: _ => Text.isBlank c
  if apart && flags.all (·.all Text.isDecimalDigit) then some flags else none

/-- Splits a line that is a marker into its parts. -/
def scan? : List Char → Option Spelling
  | '#' :: rest => do
    let rest ← afterLineWord? (Text.trimStart rest)
    let numeral := rest.takeWhile Text.isDecimalDigit
    if numeral.isEmpty then none
    else
      match ← afterBlanks? (rest.dropWhile Text.isDecimalDigit) with
      | '"' :: rest =>
        let (name, rest) ← nameAndRest? rest
        let flags ← flags? rest
        return ⟨numeral, name, flags⟩
      | _ => none
  | _ => none

def read (line : String) : Except Fault (Option LineMarker) :=
  match scan? line.toList with
  | none => .ok none
  | some spelling =>
    match Text.readDigits? spelling.numeral with
    | none => .error .numeralTooLong
    | some number =>
      .ok (some
        { line := number
          file := String.ofList (unescape spelling.name)
          flags := spelling.flags.map String.ofList })

def render (marker : LineMarker) : String :=
  "# " ++ toString marker.line ++ " \"" ++ String.ofList (escape marker.file.toList) ++ "\"" ++
    String.join (marker.flags.map (" " ++ ·))

def entersFile (marker : LineMarker) : Bool := marker.flags.contains "1"

def returnsToFile (marker : LineMarker) : Bool := marker.flags.contains "2"

def isSystem (marker : LineMarker) : Bool := marker.flags.contains "3"

/-- The name is none of a file, as in `<built-in>`. -/
def isPseudo (marker : LineMarker) : Bool := marker.file.toList.head? == some '<'

end LineMarker

end UnitLift
