import UnitLift.Yaml.Character

/-!
Blocks of text: scalars that take up the indented lines after their header. A literal block keeps its
line ends; in a folded one a line end between two lines that start with no blank counts as a space,
and of several the first one does not count.
-/

namespace UnitLift.Yaml.BlockText

/-- What becomes of the line ends at the end of a block. -/
inductive Chomping where
  | strip
  | clip
  | keep
deriving DecidableEq, Repr

/-- How to read a block: the line ends at its end, and its indentation if that is given. -/
structure Header where
  chomping : Chomping := .clip
  indent : Option Nat := none
deriving DecidableEq, Repr

/-- Takes a sign that says what becomes of the last line ends. -/
def takeChomping : List Char → Option Chomping × List Char
  | '+' :: rest => (some .keep, rest)
  | '-' :: rest => (some .strip, rest)
  | rest => (none, rest)

/-- Takes a digit that gives the indentation. -/
def takeIndent (text : List Char) : Except Flaw (Option Nat × List Char) :=
  match text with
  | c :: rest =>
    if c == '0' then .error .badBlockHeader
    else if c.isDigit then .ok (some (c.toNat - 48), rest)
    else .ok (none, text)
  | [] => .ok (none, [])

/-- The header of a block and the lines that follow it. -/
def takeHeader (text : List Char) : Except Flaw (Header × List Char) := do
  let (before, rest) := takeChomping text
  let (indent, rest) ← takeIndent rest
  let (chomping, rest) := if before.isNone && indent.isSome then takeChomping rest
    else (before, rest)
  if !startsGap rest then throw .badBlockHeader
  return ({ chomping := chomping.getD .clip, indent }, ← skipLineRest .badBlockHeader rest)

/-- Skips spaces and line ends: the line ends passed, the greatest column that spaces lead to, the
column reached, and what follows. -/
def measure (deepest column : Nat) : List Char → List Char × Nat × Nat × List Char
  | ' ' :: rest => measure (max deepest (column + 1)) (column + 1) rest
  | '\r' :: '\n' :: rest =>
    let (breaks, found) := measure deepest 0 rest
    ('\n' :: breaks, found)
  | c :: rest =>
    if isBreak c then
      let (breaks, found) := measure deepest 0 rest
      ((if c == '\u2028' || c == '\u2029' then c else '\n') :: breaks, found)
    else ([], deepest, column, c :: rest)
  | [] => ([], deepest, column, [])

/-- Skips line ends and up to `indent` spaces at the start of each line: the line ends passed, the
column reached, and what follows. -/
def skipLines (indent column : Nat) : List Char → List Char × Nat × List Char
  | ' ' :: rest =>
    if column < indent then skipLines indent (column + 1) rest else ([], column, ' ' :: rest)
  | '\r' :: '\n' :: rest =>
    let (breaks, found) := skipLines indent 0 rest
    ('\n' :: breaks, found)
  | c :: rest =>
    if isBreak c then
      let (breaks, found) := skipLines indent 0 rest
      ((if c == '\u2028' || c == '\u2029' then c else '\n') :: breaks, found)
    else ([], column, c :: rest)
  | [] => ([], column, [])

def isMore (line : List Char) : Bool := line.head?.any isBlank

/-- The lines of a block that have been read. -/
structure Lines where
  text : List Char
  /-- The line end after the last line. -/
  lastBreak : List Char
  /-- The line ends of the empty lines after it. -/
  trailing : List Char
  rest : List Char

/-- Reads the lines of a block from the start of one of them, after the line ends of empty lines. -/
def readLines (folded : Bool) (indent : Nat) : Nat → List Char → List Char → Lines
  | 0, breaks, text => ⟨[], [], breaks, text⟩
  | fuel + 1, breaks, text =>
    let line := text.takeWhile (!isBreak ·)
    let (lastBreak, rest) := match takeBreak? (text.dropWhile (!isBreak ·)) with
      | some (c, rest) => ([c], rest)
      | none => ([], [])
    let (next, column, rest) := skipLines indent 0 rest
    if column == indent && !rest.isEmpty then
      let glue :=
        if folded && lastBreak == ['\n'] && !isMore line && !isMore rest then
          if next.isEmpty then [' '] else []
        else lastBreak
      let more := readLines folded indent fuel next rest
      { more with text := breaks ++ line ++ glue ++ more.text }
    else ⟨breaks ++ line, lastBreak, next, rest⟩

/-- Reads a block of text after its indicator. `least` is the least indentation it can have. -/
def read (folded : Bool) (least : Nat) (text : List Char) :
    Except Flaw (List Char × List Char) := do
  let (header, rest) ← takeHeader text
  let (indent, breaks, column, rest) := match header.indent with
    | some more =>
      let indent := least + more - 1
      (indent, skipLines indent 0 rest)
    | none =>
      let (breaks, deepest, found) := measure 0 0 rest
      (max least deepest, breaks, found)
  let lines := if column == indent && !rest.isEmpty then
      readLines folded indent rest.length breaks rest
    else ⟨[], [], breaks, rest⟩
  let text := match header.chomping with
    | .strip => lines.text
    | .clip => lines.text ++ lines.lastBreak
    | .keep => lines.text ++ lines.lastBreak ++ lines.trailing
  return (text, lines.rest)

end UnitLift.Yaml.BlockText
