import UnitLift.Yaml.Flaw

namespace UnitLift.Yaml

def isBreak (c : Char) : Bool :=
  c == '\n' || c == '\r' || c == '\x85' || c == '\u2028' || c == '\u2029'

/-- A blank inside a line. -/
def isBlank (c : Char) : Bool := c == ' ' || c == '\t'

/-- Whether a text ends, or goes on with a space or a line end. -/
def startsGap : List Char → Bool
  | [] => true
  | c :: _ => c == ' ' || isBreak c

/-- Whether a text ends, or goes on with a blank or a line end. -/
def startsBlank : List Char → Bool
  | [] => true
  | c :: _ => isBlank c || isBreak c

/-- A character of the names of anchors and directives. -/
def isNameCharacter (c : Char) : Bool := c.isAlphanum || c == '-' || c == '_'

/-- A character that may stand in a document. -/
def isAllowed (c : Char) : Bool :=
  c == '\t' || c == '\n' || c == '\r' || c == '\x85' || (' ' ≤ c && c ≤ '~') ||
    ('\xa0' ≤ c && c ≤ '\ufffd') || 0x10000 ≤ c.toNat

/-- Takes a line end off a text. Line ends of the usual kinds count as line feeds. -/
def takeBreak? : List Char → Option (Char × List Char)
  | '\r' :: '\n' :: rest => some ('\n', rest)
  | c :: rest =>
    if c == '\n' || c == '\r' || c == '\x85' then some ('\n', rest)
    else if c == '\u2028' || c == '\u2029' then some (c, rest)
    else none
  | [] => none

/-- The rest of a line that says nothing, spaces and a comment, up to the start of the next line. -/
def skipLineRest (flaw : Flaw) (text : List Char) : Except Flaw (List Char) :=
  let rest := text.dropWhile (· == ' ')
  let rest := if rest.head? == some '#' then rest.dropWhile (!isBreak ·) else rest
  match takeBreak? rest with
  | some (_, rest) => .ok rest
  | none => if rest.isEmpty then .ok [] else .error flaw

def hexValue? (c : Char) : Option Nat :=
  if c.isDigit then some (c.toNat - 48)
  else if 'a' ≤ c && c ≤ 'f' then some (c.toNat - 87)
  else if 'A' ≤ c && c ≤ 'F' then some (c.toNat - 55)
  else none

/-- Whether a line starts with a marker of the start or the end of a document. -/
def startsMarker : List Char → Bool
  | a :: b :: c :: rest =>
    (a == '-' || a == '.') && b == a && c == a && startsBlank rest
  | _ => false

end UnitLift.Yaml
