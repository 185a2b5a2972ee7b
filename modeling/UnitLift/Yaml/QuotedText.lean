import UnitLift.Text.Quoted
import UnitLift.Yaml.Character

/-!
Scalars in quotes. In single quotes a quote is written twice; in double quotes there are escapes. A
line end counts as a space, and of several the first one does not count.
-/

namespace UnitLift.Yaml.QuotedText

/-- What a character stands for after a backslash. -/
def simpleEscape? (c : Char) : Option Char :=
  [('0', '\x00'), ('a', '\x07'), ('b', '\x08'), ('t', '\t'), ('\t', '\t'), ('n', '\n'),
    ('v', '\x0b'), ('f', '\x0c'), ('r', '\r'), ('e', '\x1b'), (' ', ' '),
    (Text.doubleQuote, Text.doubleQuote), ('\\', '\\'), ('/', '/'), ('N', '\x85'), ('_', '\xa0'),
    ('L', '\u2028'), ('P', '\u2029')].lookup c

/-- The number of hexadecimal digits that follow a letter after a backslash. -/
def codeLength? (c : Char) : Option Nat := [('x', 2), ('u', 4), ('U', 8)].lookup c

/-- The number that hexadecimal digits stand for. -/
def hexNumber? (digits : List Char) : Option Nat :=
  digits.foldl (fun value c => do return (← value) * 16 + (← hexValue? c)) (some 0)

/-- The character with a code given by `count` hexadecimal digits, and what follows. -/
def takeCode (count : Nat) (text : List Char) : Except Flaw (Char × List Char) :=
  let digits := text.take count
  match hexNumber? digits with
  | none => .error .badEscape
  | some code =>
    if digits.length < count then .error .badEscape
    else if code.isValidChar then .ok (Char.ofNat code, text.drop count)
    else if code < 0x110000 then .error .badEscape
    else if code < 0x80000000 then .error .badNumeral
    else .error .codeOutOfRange

/-- Skips blanks and line ends from the start of a line, and gives the line ends passed and what
follows. A document must not end here. -/
def skipLines (atStart : Bool) : List Char → Except Flaw (List Char × List Char)
  | [] => .ok ([], [])
  | c :: rest =>
    if atStart && startsMarker (c :: rest) then .error .unclosedQuotes
    else if isBlank c then skipLines false rest
    else
      match c, rest with
      | '\r', '\n' :: rest => do
        let (breaks, rest) ← skipLines true rest
        return ('\n' :: breaks, rest)
      | c, rest =>
        if isBreak c then do
          let (breaks, rest) ← skipLines true rest
          return ((if c == '\u2028' || c == '\u2029' then c else '\n') :: breaks, rest)
        else .ok ([], c :: rest)

/-- Blanks and line ends inside quotes: what they count as, and what follows. -/
def takeGap (text : List Char) : Except Flaw (List Char × List Char) :=
  let blanks := text.takeWhile isBlank
  let rest := text.dropWhile isBlank
  match takeBreak? rest with
  | none => .ok (blanks, rest)
  | some (first, rest) => do
    let (breaks, rest) ← skipLines true rest
    return (if first != '\n' then first :: breaks else if breaks.isEmpty then [' '] else breaks,
      rest)

/-- What follows a backslash: what it stands for, and the rest. -/
def takeEscape : List Char → Except Flaw (List Char × List Char)
  | [] => .error .badEscape
  | c :: rest =>
    match simpleEscape? c, codeLength? c, takeBreak? (c :: rest) with
    | some meant, _, _ => .ok ([meant], rest)
    | none, some count, _ => do
      let (meant, rest) ← takeCode count rest
      return ([meant], rest)
    | none, none, some (_, rest) => skipLines true rest
    | none, none, none => .error .badEscape

/-- Reads up to the closing quote, and gives the text and what follows the quote. -/
def readFrom (double : Bool) : Nat → List Char → Except Flaw (List Char × List Char)
  | 0, _ => .error .unclosedQuotes
  | _, [] => .error .unclosedQuotes
  | fuel + 1, c :: rest =>
    let goOn (part : List Char) (rest : List Char) : Except Flaw (List Char × List Char) := do
      let (text, rest) ← readFrom double fuel rest
      return (part ++ text, rest)
    if double && c == Text.doubleQuote then .ok ([], rest)
    else if !double && c == Text.singleQuote then
      match rest with
      | next :: after => if next == Text.singleQuote then goOn [c] after else .ok ([], rest)
      | [] => .ok ([], [])
    else if isBlank c || isBreak c then do
      let (part, rest) ← takeGap (c :: rest)
      goOn part rest
    else if double && c == '\\' then do
      let (part, rest) ← takeEscape rest
      goOn part rest
    else goOn [c] rest

/-- Reads a scalar in quotes, of which the first has been taken. -/
def read (double : Bool) (text : List Char) : Except Flaw (List Char × List Char) :=
  readFrom double (text.length + 1) text

end UnitLift.Yaml.QuotedText
