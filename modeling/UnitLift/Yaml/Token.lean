import UnitLift.Yaml.BlockText
import UnitLift.Yaml.Plain
import UnitLift.Yaml.QuotedText
import UnitLift.Yaml.Tag

/-!
The tokens of a document. Indentation and the colons after keys are resolved here: blocks have a
token at their start and one at their end, and every key has one before it.

A colon may show that what came before it was a key, so that tokens have to be put in afterwards.
The places where that may happen are kept, one for each level of flow collections; a key must begin
on the line of its colon, and at most 1024 characters before it.
-/

namespace UnitLift.Yaml

/-- A part of a document. -/
inductive Token where
  | directive (directive : Directive)
  | documentStart
  | documentEnd
  | sequenceStart
  | mappingStart
  /-- The end of a block sequence or a block mapping. -/
  | blockEnd
  | flowSequenceStart
  | flowSequenceEnd
  | flowMappingStart
  | flowMappingEnd
  | blockEntry
  | flowEntry
  | key
  | value
  | alias (name : String)
  | anchor (name : String)
  | tag (tag : Tag)
  | scalar (plain : Bool) (text : String)
deriving DecidableEq, Repr

structure Place where
  index : Nat := 0
  line : Nat := 0
  column : Nat := 0
deriving DecidableEq, Repr

/-- The place after a character, of which it is known what follows. A mark of the byte order takes
up no column. -/
def Place.after (place : Place) (c : Char) (rest : List Char) : Place :=
  if isBreak c && !(c == '\r' && rest.head? == some '\n') then ⟨place.index + 1, place.line + 1, 0⟩
  else ⟨place.index + 1, place.line, if c == '\ufeff' then place.column else place.column + 1⟩

/-- The place after the first `count` characters of a text. -/
def Place.skip (place : Place) : Nat → List Char → Place
  | 0, _ => place
  | _, [] => place
  | count + 1, c :: rest => (place.after c rest).skip count rest

/-- A place where a key may have begun. -/
structure PossibleKey where
  /-- The number of tokens before it. -/
  number : Nat
  /-- Whether only a key can stand there. -/
  required : Bool
  place : Place
deriving DecidableEq, Repr

/-- How far the tokens of a text have been found. -/
structure Scan where
  rest : List Char
  place : Place := {}
  /-- The tokens so far, the last one first. -/
  found : List Token := []
  /-- The columns of the open blocks, the innermost first. -/
  indents : List Nat := []
  /-- The number of open flow collections. -/
  flow : Nat := 0
  /-- Whether a key may begin here. -/
  keyAllowed : Bool := true
  /-- The places where keys may have begun, by the number of open flow collections. -/
  keys : List (Nat × PossibleKey) := []

namespace Scan

/-- Moves on to `rest`, an end of what is left. -/
def moveTo (scan : Scan) (rest : List Char) : Scan :=
  { scan with
    rest, place := scan.place.skip (scan.rest.length - rest.length) scan.rest }

def skip (scan : Scan) (count : Nat) : Scan := scan.moveTo (scan.rest.drop count)

def push (scan : Scan) (token : Token) : Scan := { scan with found := token :: scan.found }

/-- Puts a token in after the first `number` ones. -/
def insert (scan : Scan) (number : Nat) (token : Token) : Scan :=
  { scan with found := scan.found.insertIdx (scan.found.length - number) token }

def allowKey (scan : Scan) (keyAllowed : Bool) : Scan := { scan with keyAllowed }

/-- Skips spaces, comments and line ends. Outside flow collections a key may begin on a new line. -/
def skipGap : Nat → Scan → Scan
  | 0, scan => scan
  | fuel + 1, scan =>
    let rest := scan.rest.dropWhile (· == ' ')
    let rest := if rest.head? == some '#' then rest.dropWhile (!isBreak ·) else rest
    match takeBreak? rest with
    | none => scan.moveTo rest
    | some (_, rest) =>
      let scan := scan.moveTo rest
      skipGap fuel (if scan.flow == 0 then scan.allowKey true else scan)

/-- Whether a key can no longer reach its colon from a place. -/
def isStale (scan : Scan) (key : Nat × PossibleKey) : Bool :=
  key.2.place.line != scan.place.line || 1024 < scan.place.index - key.2.place.index

/-- Gives up the places from which a key can no longer reach its colon. -/
def dropStaleKeys (scan : Scan) : Except Flaw Scan :=
  if scan.keys.any fun key => scan.isStale key && key.2.required then .error .missingColon
  else .ok { scan with keys := scan.keys.filter (!scan.isStale ·) }

/-- Gives up the place of a key in the innermost collection. -/
def dropKey (scan : Scan) : Except Flaw Scan :=
  if (scan.keys.lookup scan.flow).any (·.required) then .error .missingColon
  else .ok { scan with keys := scan.keys.filter (·.1 != scan.flow) }

/-- Remembers that a key may begin here. -/
def noteKey (scan : Scan) : Except Flaw Scan := do
  if !scan.keyAllowed then return scan
  let scan ← scan.dropKey
  let key : PossibleKey :=
    { number := scan.found.length
      required := scan.flow == 0 && scan.indents.head? == some scan.place.column
      place := scan.place }
  return { scan with keys := (scan.flow, key) :: scan.keys }

/-- Closes the blocks that are indented by more than `column`. -/
def closeBlocks (scan : Scan) (stays : Nat → Bool) : Scan :=
  if scan.flow != 0 then scan
  else
    let closed := scan.indents.takeWhile (!stays ·)
    { scan with
      indents := scan.indents.drop closed.length
      found := List.replicate closed.length .blockEnd ++ scan.found }

/-- Whether a block that begins at a column is a new one. -/
def opensBlock (scan : Scan) (column : Nat) : Bool := scan.indents.head?.all (· < column)

/-- Opens a block at a column unless it is already open. -/
def openBlock (scan : Scan) (column : Nat) (token : Token) : Scan :=
  if scan.opensBlock column then { scan.push token with indents := column :: scan.indents }
  else scan

/-- Ends all that is open before a part that concerns the whole document. -/
def endDocument (scan : Scan) : Except Flaw Scan := do
  return (← (scan.closeBlocks fun _ => false).dropKey).allowKey false

/-- A token of one character that may be the start of a key. -/
def openFlow (scan : Scan) (token : Token) : Except Flaw Scan := do
  let scan ← scan.noteKey
  return (({ scan with flow := scan.flow + 1 }.allowKey true).push token).skip 1

def closeFlow (scan : Scan) (token : Token) : Except Flaw Scan := do
  let scan ← scan.dropKey
  return (({ scan with flow := scan.flow - 1 }.allowKey false).push token).skip 1

def takeEntry (scan : Scan) : Except Flaw Scan := do
  if scan.flow == 0 && !scan.keyAllowed then throw .misplaced
  let scan := if scan.flow == 0 then scan.openBlock scan.place.column .sequenceStart else scan
  let scan ← (scan.allowKey true).dropKey
  return (scan.push .blockEntry).skip 1

/-- A key after a question mark. -/
def takeKey (scan : Scan) : Except Flaw Scan := do
  if scan.flow == 0 && !scan.keyAllowed then throw .misplaced
  let scan := if scan.flow == 0 then scan.openBlock scan.place.column .mappingStart else scan
  let scan ← (scan.allowKey (scan.flow == 0)).dropKey
  return (scan.push .key).skip 1

/-- A value after a colon. What a key may have begun before it turns out to be one. -/
def takeValue (scan : Scan) : Except Flaw Scan := do
  match scan.keys.lookup scan.flow with
  | some key =>
    let scan := { scan with keys := scan.keys.filter (·.1 != scan.flow) }
    let opens := scan.flow == 0 && scan.opensBlock key.place.column
    let scan := scan.insert key.number .key
    let scan := if opens then
        { scan.insert key.number .mappingStart with
          indents := key.place.column :: scan.indents }
      else scan
    return ((scan.allowKey false).push .value).skip 1
  | none =>
    if scan.flow == 0 && !scan.keyAllowed then throw .misplaced
    let scan := if scan.flow == 0 then scan.openBlock scan.place.column .mappingStart else scan
    let scan ← (scan.allowKey (scan.flow == 0)).dropKey
    return (scan.push .value).skip 1

/-- A token that may be a key or the start of one, and what follows it. -/
def takeNode (scan : Scan) (read : List Char → Except Flaw (Token × List Char)) :
    Except Flaw Scan := do
  let scan ← scan.noteKey
  let (token, rest) ← read scan.rest
  return ((scan.allowKey false).push token).moveTo rest

/-- The name of an anchor or an alias after its sign. -/
def takeName (token : String → Token) (text : List Char) : Except Flaw (Token × List Char) :=
  let rest := text.drop 1
  let name := rest.takeWhile isNameCharacter
  let after := rest.dropWhile isNameCharacter
  if name.isEmpty then .error .badName
  else if startsBlank after || after.head?.any ("?:,]\x7d%@".toList.contains ·) ||
      after.head?.any (·.toNat == 96) then .ok (token (String.ofList name), after)
  else .error .badName

def takeQuoted (double : Bool) (text : List Char) : Except Flaw (Token × List Char) := do
  let (text, rest) ← QuotedText.read double (text.drop 1)
  return (.scalar false (String.ofList text), rest)

def takeBlockText (folded : Bool) (scan : Scan) : Except Flaw Scan := do
  let scan ← (scan.allowKey true).dropKey
  let least := (scan.indents.head?.map (· + 1)).getD 1
  let (text, rest) ← BlockText.read folded least (scan.rest.drop 1)
  return (scan.push (.scalar false (String.ofList text))).moveTo rest

/-- A plain scalar. After it a key may begin only if it was ended by a line end. -/
def takePlain (scan : Scan) : Except Flaw Scan := do
  let scan ← scan.noteKey
  let least := (scan.indents.head?.map (· + 1)).getD 0
  let result := Plain.read (scan.flow != 0) least scan.rest
  return ((scan.allowKey result.passedBreak).push
    (.scalar true (String.ofList result.text))).moveTo result.rest

/-- Whether a character cannot start a plain scalar, whatever follows it. -/
def isIndicator (c : Char) : Bool :=
  isBlank c || isBreak c || "-?:,[]\x7b\x7d#&*!|>%@".toList.contains c ||
    c == Text.singleQuote || c == Text.doubleQuote || c.toNat == 96

/-- Whether a plain scalar starts with a character. -/
def startsPlain (scan : Scan) (c : Char) (rest : List Char) : Bool :=
  !isIndicator c ||
    (!startsBlank rest && (c == '-' || (scan.flow == 0 && (c == '?' || c == ':'))))

def takeToken (scan : Scan) (c : Char) (rest : List Char) : Except Flaw Scan := do
  let inFlow := scan.flow != 0
  let lineStart := scan.place.column == 0
  if c == '%' && lineStart then
    let scan ← scan.endDocument
    let (directive, rest) ← Directive.read rest
    return (scan.push (.directive directive)).moveTo rest
  else if lineStart && startsMarker (c :: rest) then
    let scan ← scan.endDocument
    return (scan.push (if c == '-' then .documentStart else .documentEnd)).skip 3
  else if c == '[' then scan.openFlow .flowSequenceStart
  else if c == '\x7b' then scan.openFlow .flowMappingStart
  else if c == ']' then scan.closeFlow .flowSequenceEnd
  else if c == '\x7d' then scan.closeFlow .flowMappingEnd
  else if c == ',' then return ((← (scan.allowKey true).dropKey).push .flowEntry).skip 1
  else if c == '-' && startsBlank rest then scan.takeEntry
  else if c == '?' && (inFlow || startsBlank rest) then scan.takeKey
  else if c == ':' && (inFlow || startsBlank rest) then scan.takeValue
  else if c == '*' then scan.takeNode (takeName .alias)
  else if c == '&' then scan.takeNode (takeName .anchor)
  else if c == '!' then
    scan.takeNode fun text => do
      let (tag, rest) ← Tag.read (text.drop 1)
      return (.tag tag, rest)
  else if (c == '|' || c == '>') && !inFlow then scan.takeBlockText (c == '>')
  else if c == Text.singleQuote then scan.takeNode (takeQuoted false)
  else if c == Text.doubleQuote then scan.takeNode (takeQuoted true)
  else if scan.startsPlain c rest then scan.takePlain
  else throw .noToken

/-- Finds the next token, and those that come with it; at the end of the text, the rest of them. -/
def step (scan : Scan) : Except Flaw Scan := do
  let scan := scan.skipGap (scan.rest.length + 1)
  let scan ← scan.dropStaleKeys
  let scan := scan.closeBlocks (· ≤ scan.place.column)
  match scan.rest with
  | [] => scan.endDocument
  | c :: rest => scan.takeToken c rest

/-- The tokens at the start before which no other can be put in any more. -/
def settled (scan : Scan) : List Token :=
  let numbers := (scan.keys.filter (!scan.isStale ·)).map (·.2.number)
  scan.found.reverse.take (numbers.foldl min scan.found.length)

end Scan

/-- The tokens of a text, and what is wrong with it behind them, if anything is. -/
structure Tokens where
  list : List Token
  flaw : Option Flaw := none
deriving DecidableEq, Repr

/-- Finds tokens until the text is used up. -/
def Scan.run : Nat → Scan → Tokens
  | 0, scan => ⟨scan.found.reverse, none⟩
  | fuel + 1, scan =>
    match scan.step with
    | .error flaw => ⟨scan.settled, some flaw⟩
    | .ok next => if scan.rest.isEmpty then ⟨next.found.reverse, none⟩ else run fuel next

def Tokens.ofText (text : List Char) : Tokens :=
  if !text.all isAllowed then ⟨[], some .unprintable⟩
  else
    let (start, place) := match text with
      | c :: rest => if c == '\ufeff' then (rest, { index := 1 }) else (text, ({} : Place))
      | [] => ([], {})
    Scan.run (text.length + 2) { rest := start, place }

end UnitLift.Yaml
