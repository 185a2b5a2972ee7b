import UnitLift.Data.Value
import UnitLift.Text.Quoted
import UnitLift.Yaml.Character
import UnitLift.Yaml.ScalarKind

/-!
How scalars are written: plain where that reads back as the same kind of scalar, else in single
quotes, and in double quotes if there is a character that needs an escape. A long text is broken at
spaces once its line has passed column 80.
-/

namespace UnitLift.Yaml

/-- What matters about a text for the way it is written. -/
structure TextTraits where
  /-- Something in it would be read as a sign of a block. -/
  hasSigns : Bool
  /-- It has a character that has to be written as an escape. -/
  hasSpecials : Bool
  hasBreaks : Bool
  /-- It starts or ends with a space or a line end. -/
  hasLooseEnds : Bool
  /-- A line in it starts with spaces. -/
  breakThenSpace : Bool
  /-- A line in it ends with spaces. -/
  spaceThenBreak : Bool
deriving DecidableEq, Repr

namespace TextTraits

/-- A character that cannot be the first one of a plain text. -/
def isLeadingSign (c : Char) : Bool :=
  "#,[]\x7b\x7d&*!|>%@".toList.contains c || c == Text.singleQuote || c == Text.doubleQuote ||
    c.toNat == 96

def isOrdinary (c : Char) : Bool := c == '\n' || (' ' ≤ c && c ≤ '~')

/-- Whether the first character of a text, or what it starts, would be read as a sign. -/
def startsWithSign (text : List Char) : Bool :=
  text.take 3 == ['-', '-', '-'] || text.take 3 == ['.', '.', '.'] ||
    match text with
    | [] => false
    | c :: rest =>
      isLeadingSign c || ((c == '?' || c == ':' || c == '-') && startsBlank rest)

/-- Whether a colon before a blank, or a hash after one, follows the character `before`. -/
def hasInnerSign (before : Char) : List Char → Bool
  | [] => false
  | c :: rest =>
    (c == ':' && startsBlank rest) || (c == '#' && startsBlank [before]) || hasInnerSign c rest

/-- Whether a character of one sort is followed by one of another. -/
def hasPair (first second : Char → Bool) : List Char → Bool
  | a :: b :: rest => (first a && second b) || hasPair first second (b :: rest)
  | _ => false

/-- A line end for the writer; a carriage return is an ordinary special character. -/
def isLineEnd (c : Char) : Bool := isBreak c && c != '\r'

def of (text : List Char) : TextTraits :=
  let isSpace (c : Char) : Bool := c == ' '
  let isLoose (c : Char) : Bool := isSpace c || isLineEnd c
  { hasSigns := startsWithSign text || hasInnerSign (text.headD ' ') (text.drop 1)
    hasSpecials := !text.all isOrdinary
    hasBreaks := text.any isLineEnd
    hasLooseEnds := text.head?.any isLoose || text.getLast?.any isLoose
    breakThenSpace := hasPair isLineEnd isSpace text
    spaceThenBreak := hasPair isSpace isLineEnd text }

end TextTraits

inductive TextStyle where
  | plain
  | single
  | double
deriving DecidableEq, Repr

/-- The way to write a text; `readsBack` says whether it would be the same scalar without quotes. A
key that is followed by its colon is in one line. -/
def TextStyle.of (readsBack asKey : Bool) (text : List Char) : TextStyle :=
  if text.isEmpty then if readsBack && !asKey then .plain else .single
  else
    let traits := TextTraits.of text
    let needsDouble := traits.hasSpecials || traits.spaceThenBreak || traits.breakThenSpace
    if readsBack && !traits.hasSigns && !traits.hasBreaks && !traits.hasLooseEnds && !needsDouble
    then .plain
    else if needsDouble || (asKey && traits.hasBreaks) then .double
    else .single

/-- The column after which lines are broken. -/
def lineWidth : Nat := 80

/-- Where lines are broken and go on: not at all in a key that is followed by its colon. -/
structure LineBreaking where
  /-- Whether lines may be broken. -/
  allowed : Bool
  /-- The number of spaces before what goes on in a new line. -/
  indent : Nat
deriving DecidableEq, Repr

namespace LineBreaking

/-- Spaces before what goes on in a new line. -/
def spaces (breaking : LineBreaking) : List Char := List.replicate breaking.indent ' '

/-- A text from a column on, each character of it as `encode` gives it. A single space is left out
where a line is broken. A run of line ends is written with one line end more; `inRun` says whether one
has come just before. -/
def fold (breaking : LineBreaking) (encode : Char → List Char) (inRun : Bool) (column : Nat) :
    List Char → List Char
  | [] => []
  | '\n' :: rest =>
    let first := if inRun then [] else ['\n']
    let last := if rest.head? == some '\n' then [] else breaking.spaces
    first ++ '\n' :: last ++ breaking.fold encode true breaking.indent rest
  | a :: ' ' :: b :: rest =>
    let column := column + (encode a).length
    if breaking.allowed && a != ' ' && b != ' ' && lineWidth < column then
      encode a ++ '\n' :: breaking.spaces ++ breaking.fold encode false breaking.indent (b :: rest)
    else encode a ++ breaking.fold encode false column (' ' :: b :: rest)
  | a :: rest => encode a ++ breaking.fold encode false (column + (encode a).length) rest

/-- The letter that stands for a character after a backslash. -/
def letter? (c : Char) : Option Char :=
  [('\x00', '0'), ('\x07', 'a'), ('\x08', 'b'), ('\t', 't'), ('\n', 'n'), ('\x0b', 'v'),
    ('\x0c', 'f'), ('\r', 'r'), ('\x1b', 'e'), (Text.doubleQuote, Text.doubleQuote), ('\\', '\\'),
    ('\x85', 'N'), ('\xa0', '_'), ('\u2028', 'L'), ('\u2029', 'P')].lookup c

/-- A code in upper-case hexadecimal digits. -/
def code (width : Nat) (c : Char) : List Char :=
  (Text.hexPadded width c.toNat).map Char.toUpper

/-- The escape that a character is written as in double quotes, if it needs one. -/
def escape? (c : Char) : Option (List Char) :=
  if ' ' ≤ c && c ≤ '~' && c != Text.doubleQuote && c != '\\' then none
  else match letter? c with
    | some letter => some ['\\', letter]
    | none =>
      if c.toNat < 0x100 then some ('\\' :: 'x' :: code 2 c)
      else if c.toNat < 0x10000 then some ('\\' :: 'u' :: code 4 c)
      else some ('\\' :: 'U' :: code 8 c)

/-- A text in double quotes from a column on. Where a line is broken it ends with a backslash, and a
space at the start of the next line has one before it. A line may be broken before a space, and before
and after an escape; `afterEscape` says whether one has come just before. -/
def escaped (breaking : LineBreaking) (first afterEscape : Bool) (column : Nat) :
    List Char → List Char
  | [] => []
  | c :: rest =>
    let mayBreak := breaking.allowed && !first && !rest.isEmpty
    match escape? c with
    | some escape =>
      let column := column + escape.length
      if mayBreak && lineWidth + 1 < column then
        let mark := if rest.head? == some ' ' then ['\\'] else []
        escape ++ '\\' :: '\n' :: breaking.spaces ++ mark ++
          breaking.escaped false true (breaking.indent + mark.length) rest
      else escape ++ breaking.escaped false true column rest
    | none =>
      if mayBreak && (c == ' ' || afterEscape) && lineWidth < column then
        let mark := if c == ' ' then ['\\'] else []
        '\\' :: '\n' :: breaking.spaces ++ mark ++
          c :: breaking.escaped false false (breaking.indent + mark.length + 1) rest
      else c :: breaking.escaped false false (column + 1) rest

def write (breaking : LineBreaking) (style : TextStyle) (column : Nat) (text : List Char) :
    List Char :=
  match style with
  | .plain => breaking.fold (fun c => [c]) false column text
  | .single =>
    let encode (c : Char) : List Char := if c == Text.singleQuote then [c, c] else [c]
    Text.singleQuote :: breaking.fold encode false (column + 1) text ++ [Text.singleQuote]
  | .double =>
    Text.doubleQuote :: breaking.escaped true false (column + 1) text ++ [Text.doubleQuote]

end LineBreaking

/-- A number as it is written; one with an exponent has a point as well. -/
def writtenReal : Binary64 → String
  | .notANumber => ".nan"
  | .infinite negative => if negative then "-.inf" else ".inf"
  | value =>
    let text := value.text
    if text.toList.contains 'e' && !text.toList.contains '.' then
      String.ofList (text.toList.flatMap fun c => if c == 'e' then ['.', '0', 'e'] else [c])
    else text

def kindOfScalar : Scalar → ScalarKind
  | .null => .null
  | .bool _ => .bool
  | .int _ => .int
  | .real _ => .float
  | .text _ => .text

/-- The characters of a scalar, before it is put in quotes. -/
def scalarText : Scalar → String
  | .null => "null"
  | .bool value => if value then "true" else "false"
  | .int value => toString value
  | .real value => writtenReal value
  | .text value => value

/-- A scalar from a column on; `asKey` says whether it is a key that is followed by its colon. -/
def writtenScalar (asKey : Bool) (indent column : Nat) (scalar : Scalar) : List Char :=
  let text := (scalarText scalar).toList
  let readsBack := ScalarKind.written text == kindOfScalar scalar
  LineBreaking.write ⟨!asKey, indent⟩ (TextStyle.of readsBack asKey text) column text

end UnitLift.Yaml
