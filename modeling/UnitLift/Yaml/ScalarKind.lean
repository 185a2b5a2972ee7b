import UnitLift.Text.Pattern

/-!
What kind of scalar a plain text is. Readers and writers need not agree on this: the reader also takes
numbers with an exponent but without a point for fractions, and knows no dates.
-/

namespace UnitLift.Yaml

inductive ScalarKind where
  | null
  | bool
  | int
  | float
  | text
  /-- The key under which a mapping is merged into the one around it. -/
  | merge
  /-- The key that stands for the value of the mapping itself. -/
  | value
  | date
  /-- A sign of the notation itself, which stands for no value. -/
  | sign
deriving DecidableEq, Repr

namespace ScalarKind

open UnitLift.Text (Pattern)

def tag : ScalarKind → String
  | null => "tag:yaml.org,2002:null"
  | bool => "tag:yaml.org,2002:bool"
  | int => "tag:yaml.org,2002:int"
  | float => "tag:yaml.org,2002:float"
  | text => "tag:yaml.org,2002:str"
  | merge => "tag:yaml.org,2002:merge"
  | value => "tag:yaml.org,2002:value"
  | date => "tag:yaml.org,2002:timestamp"
  | sign => "tag:yaml.org,2002:yaml"

def digit : Pattern Char := .one Char.isDigit

def grouped (test : Char → Bool) : Pattern Char := .one fun c => test c || c == '_'

/-- A character between two others. -/
def among (first last : Char) : Pattern Char := .one fun c => first ≤ c && c ≤ last

def plusOrMinus : Pattern Char := .oneOf "+-"

def optionalSign : Pattern Char := .optional plusOrMinus

/-- Digits, of which all but the first may be underscores. -/
def digits : Pattern Char := digit ++ .many (grouped Char.isDigit)

/-- Colons, each before a number below sixty. -/
def sixtieths : Pattern Char :=
  .some (.character ':' ++ .optional (among '0' '5') ++ digit)

/-- An exponent; `sign` says how its sign may be written. -/
def exponent (sign : Pattern Char) : Pattern Char := .oneOf "eE" ++ sign ++ .some digit

def nullPattern : Pattern Char := .anyWord ["~", "null", "Null", "NULL", ""]

def boolPattern : Pattern Char :=
  .anyWord ["yes", "Yes", "YES", "no", "No", "NO", "true", "True", "TRUE", "false", "False", "FALSE",
    "on", "On", "ON", "off", "Off", "OFF"]

def intPattern : Pattern Char :=
  (optionalSign ++ .word "0b" ++ .some (grouped fun c => c == '0' || c == '1')) |||
  (optionalSign ++ .character '0' ++ .some (grouped fun c => '0' ≤ c && c ≤ '7')) |||
  (optionalSign ++
    (.character '0' ||| (among '1' '9' ++ .many (grouped Char.isDigit)))) |||
  (optionalSign ++ .word "0x" ++
    .some (grouped fun c => c.isDigit || ('a' ≤ c && c ≤ 'f') || ('A' ≤ c && c ≤ 'F'))) |||
  (optionalSign ++ among '1' '9' ++ .many (grouped Char.isDigit) ++ sixtieths)

/-- Digits in groups, with single underscores between them. -/
def groups : Pattern Char := .some digit ++ .many (.character '_' ++ .some digit)

/-- A point and what may follow it in a number. -/
def fraction : Pattern Char := .character '.' ++ .many (grouped Char.isDigit)

/-- What is no number in the usual sense. -/
def unusual : Pattern Char :=
  (optionalSign ++ .character '.' ++ .anyWord ["inf", "Inf", "INF"]) |||
  (.character '.' ++ .anyWord ["nan", "NaN", "NAN"])

def floatPattern : Pattern Char :=
  (optionalSign ++ digits ++ fraction ++ .optional (exponent plusOrMinus)) |||
  (.character '.' ++ digits ++ .optional (exponent plusOrMinus)) |||
  (optionalSign ++ digits ++ sixtieths ++ fraction) ||| unusual

/-- Fractions as the reader takes them as well: the exponent needs no sign, and then no point either,
but underscores stand between digits. -/
def looseFloatPattern : Pattern Char :=
  (optionalSign ++ groups ++ fraction ++ .optional (exponent optionalSign)) |||
  (optionalSign ++ groups ++ exponent optionalSign) |||
  (.character '.' ++ groups ++ .optional (exponent plusOrMinus)) |||
  (optionalSign ++ groups ++ sixtieths ++ fraction) ||| unusual

private def oneOrTwo : Pattern Char := digit ++ .optional digit

private def blanks : Pattern Char := .many (.oneOf " \t")

def datePattern : Pattern Char :=
  let year := digit ++ digit ++ digit ++ digit
  let two := digit ++ digit
  let dash := Pattern.character '-'
  (year ++ dash ++ two ++ dash ++ two) |||
  (year ++ dash ++ oneOrTwo ++ dash ++ oneOrTwo ++
    (.oneOf "Tt" ||| .some (.oneOf " \t")) ++
    oneOrTwo ++ .character ':' ++ two ++ .character ':' ++ two ++
    .optional (.character '.' ++ .many digit) ++
    .optional (blanks ++
      (.character 'Z' ||| (plusOrMinus ++ oneOrTwo ++ .optional (.character ':' ++ two)))))

/-- What the writer takes a plain text for. -/
def writerPatterns : List (ScalarKind × Pattern Char) :=
  [(bool, boolPattern), (float, floatPattern), (int, intPattern), (merge, .word "<<"),
    (null, nullPattern), (date, datePattern), (value, .word "=")]

/-- What the reader takes a plain text for. -/
def readerPatterns : List (ScalarKind × Pattern Char) :=
  [(bool, boolPattern), (float, floatPattern), (int, intPattern), (merge, .word "<<"),
    (null, nullPattern), (value, .word "="), (sign, .oneOf "!&*"), (float, looseFloatPattern)]

/-- The kind of the first pattern that a text is of; none of them means that it is only a text. -/
def ofPatterns (patterns : List (ScalarKind × Pattern Char)) (plain : List Char) : ScalarKind :=
  ((patterns.find? fun entry => entry.2.accepts plain).map (·.1)).getD text

/-- A text without the line feed at its end, unless there is nothing else. -/
def withoutLastFeed (text : List Char) : List Char :=
  if text.getLast? == some '\n' && text.length != 1 then text.dropLast else text

/-- The kind of a text for the reader; a line feed at its end does not count. -/
def read (plain : List Char) : ScalarKind := ofPatterns readerPatterns (withoutLastFeed plain)

def written (plain : List Char) : ScalarKind := ofPatterns writerPatterns plain

end ScalarKind

end UnitLift.Yaml
