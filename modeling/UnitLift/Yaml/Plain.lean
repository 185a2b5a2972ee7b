import UnitLift.Yaml.Character

/-!
Plain scalars: text without quotes. It ends where something else could begin, and may go on over
several lines; a line end then counts as a space, and of several the first one does not count.
-/

namespace UnitLift.Yaml.Plain

/-- A character that always has a meaning of its own in flow collections. -/
def isFlowIndicator (c : Char) : Bool :=
  c == ',' || c == '?' || c == '[' || c == ']' || c == '\x7b' || c == '\x7d'

/-- Whether a colon before `rest` ends a plain scalar. -/
def colonEnds (inFlow : Bool) (rest : List Char) : Bool :=
  startsBlank rest ||
    (inFlow && rest.head?.any fun c => isFlowIndicator c && c != '?')

/-- A run of characters of a plain scalar without blanks, and what follows. -/
def takeWord (inFlow : Bool) : List Char → List Char × List Char
  | [] => ([], [])
  | c :: rest =>
    if isBlank c || isBreak c || (c == ':' && colonEnds inFlow rest) ||
        (inFlow && isFlowIndicator c) then ([], c :: rest)
    else
      let (word, rest) := takeWord inFlow rest
      (c :: word, rest)

/-- Skips spaces and line ends from the start of a line, but stops at a marker of a document. Gives
the line ends passed, the column reached, and what follows. -/
def skipLines (column : Nat) : List Char → List Char × Nat × List Char
  | [] => ([], column, [])
  | ' ' :: rest => skipLines (column + 1) rest
  | '\r' :: '\n' :: rest =>
    if startsMarker rest then (['\n'], 0, rest)
    else
      let (breaks, column, rest) := skipLines 0 rest
      ('\n' :: breaks, column, rest)
  | c :: rest =>
    if isBreak c then
      let passed := if c == '\u2028' || c == '\u2029' then c else '\n'
      if startsMarker rest then ([passed], 0, rest)
      else
        let (breaks, column, rest) := skipLines 0 rest
        (passed :: breaks, column, rest)
    else ([], column, c :: rest)

/-- What stands between two words of a plain scalar. -/
structure Gap where
  /-- What it counts as; nothing if no further word can follow. -/
  text : List Char
  /-- The column after it, if it goes over a line end. -/
  column : Option Nat
  rest : List Char

def takeGap (text : List Char) : Gap :=
  let spaces := text.takeWhile (· == ' ')
  let rest := text.dropWhile (· == ' ')
  match takeBreak? rest with
  | none => ⟨spaces, none, rest⟩
  | some (first, rest) =>
    if startsMarker rest then ⟨[], some 0, rest⟩
    else
      let (breaks, column, rest) := skipLines 0 rest
      if column == 0 && startsMarker rest then ⟨[], some 0, rest⟩
      else if first != '\n' then ⟨first :: breaks, some column, rest⟩
      else if breaks.isEmpty then ⟨[' '], some column, rest⟩
      else ⟨breaks, some column, rest⟩

/-- Whether no word can follow a gap: it stands for nothing, a comment begins, or the text has come
out of the block. -/
def Gap.ends (inFlow : Bool) (indent : Nat) (gap : Gap) : Bool :=
  gap.text.isEmpty || gap.rest.head? == some '#' ||
    (!inFlow && gap.column.any (· < indent))

/-- A plain scalar that has been read: its text, whether a line end was passed after its last word,
and what follows. -/
structure Result where
  text : List Char
  passedBreak : Bool
  rest : List Char

/-- Reads the words of a plain scalar that are indented by at least `indent`. -/
def readFrom (inFlow : Bool) (indent : Nat) : Nat → List Char → Result
  | 0, text => ⟨[], false, text⟩
  | fuel + 1, text =>
    let (word, rest) := takeWord inFlow text
    let gap := takeGap rest
    let ended : Result := ⟨word, gap.column.isSome, gap.rest⟩
    if gap.ends inFlow indent then ended
    else
      let more := readFrom inFlow indent fuel gap.rest
      if more.text.isEmpty then ended else { more with text := word ++ gap.text ++ more.text }

def read (inFlow : Bool) (indent : Nat) (text : List Char) : Result :=
  readFrom inFlow indent text.length text

end UnitLift.Yaml.Plain
