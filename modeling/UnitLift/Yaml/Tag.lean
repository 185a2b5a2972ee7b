import UnitLift.Text.Utf8
import UnitLift.Yaml.Character

namespace UnitLift.Yaml

structure Tag where
  /-- The handle that a directive may explain; none if the tag is given in full. -/
  handle : Option String
  suffix : String
deriving DecidableEq, Repr

/-- A line that starts with a percent sign. -/
inductive Directive where
  | version (major : Nat)
  /-- Tags with a handle begin with `start`. -/
  | shorthand (handle start : String)
  /-- A directive of a kind that says nothing. -/
  | other
deriving DecidableEq, Repr

namespace Tag

/-- A character of a tag that stands for itself. -/
def isTagCharacter (c : Char) : Bool :=
  c.isAlphanum || "-;/?:@&=+$,_.!~*()[]".toList.contains c || c.toNat == 39

/-- Takes bytes that are written as a percent sign and two digits each. -/
def takeBytes : List Char → Except Flaw (List UInt8 × List Char)
  | '%' :: a :: b :: rest => do
    match hexValue? a, hexValue? b with
    | some high, some low =>
      let (bytes, rest) ← takeBytes rest
      return ((high * 16 + low).toUInt8 :: bytes, rest)
    | _, _ => throw .badTag
  | '%' :: _ => .error .badTag
  | rest => .ok ([], rest)

/-- The characters that bytes stand for. -/
def decode (bytes : List UInt8) : Except Flaw (List Char) :=
  let text := Text.decodeUtf8 bytes
  if text.contains Text.replacementCharacter then .error .badTag else .ok text

def takeCharacters : Nat → List Char → Except Flaw (List Char × List Char)
  | 0, text => .ok ([], text)
  | _, [] => .ok ([], [])
  | fuel + 1, c :: rest => do
    if c == '%' then
      let (bytes, rest) ← takeBytes (c :: rest)
      let part ← decode bytes
      let (text, rest) ← takeCharacters fuel rest
      return (part ++ text, rest)
    else if isTagCharacter c then
      let (text, rest) ← takeCharacters fuel rest
      return (c :: text, rest)
    else return ([], c :: rest)

/-- Takes the characters of a tag, at least one. -/
def takeSuffix (text : List Char) : Except Flaw (String × List Char) := do
  let (suffix, rest) ← takeCharacters text.length text
  if suffix.isEmpty then throw .badTag
  return (String.ofList suffix, rest)

/-- Takes a handle: an exclamation mark, or two of them with a name in between. -/
def takeHandle : List Char → Except Flaw (String × List Char)
  | '!' :: rest =>
    if rest.head? == some ' ' then .ok ("!", rest)
    else
      match rest.dropWhile isNameCharacter with
      | '!' :: after => .ok ("!" ++ String.ofList (rest.takeWhile isNameCharacter) ++ "!", after)
      | _ => .error .badTag
  | _ => .error .badTag

/-- The part of a tag up to the next gap. -/
def upToGap (text : List Char) : List Char := text.takeWhile fun c => c != ' ' && !isBreak c

/-- Reads a tag of which the exclamation mark has been taken. -/
def read (text : List Char) : Except Flaw (Tag × List Char) := do
  let (tag, rest) ← (match text with
    | '<' :: rest => do
      match ← takeSuffix rest with
      | (suffix, '>' :: rest) => return (⟨none, suffix⟩, rest)
      | _ => throw .badTag
    | rest => do
      if startsBlank rest then return (⟨none, "!"⟩, rest)
      let (handle, rest) ← if (upToGap rest).contains '!' then takeHandle ('!' :: rest)
        else .ok ("!", rest)
      let (suffix, rest) ← takeSuffix rest
      return (⟨some handle, suffix⟩, rest))
  if !startsGap rest then throw .badTag
  return (tag, rest)

end Tag

namespace Directive

def takeNumber (text : List Char) : Except Flaw (Nat × List Char) :=
  let digits := text.takeWhile Char.isDigit
  if digits.isEmpty then .error .badDirective
  else .ok (digits.foldl (fun n c => n * 10 + (c.toNat - 48)) 0, text.dropWhile Char.isDigit)

/-- Reads what stands after the name of a directive. -/
def readValue (name : String) (text : List Char) : Except Flaw (Directive × List Char) := do
  let value := text.dropWhile (· == ' ')
  if name == "YAML" then
    match ← takeNumber value with
    | (major, '.' :: rest) =>
      let (_, rest) ← takeNumber rest
      if !startsGap rest then throw .badDirective
      return (.version major, rest)
    | _ => throw .badDirective
  else if name == "TAG" then
    let (handle, rest) ← Tag.takeHandle value
    if rest.head? != some ' ' then throw .badDirective
    let (start, rest) ← Tag.takeSuffix (rest.dropWhile (· == ' '))
    if !startsGap rest then throw .badDirective
    return (.shorthand handle start, rest)
  else return (.other, text.dropWhile (!isBreak ·))

/-- Reads a directive of which the percent sign has been taken, with the end of its line. -/
def read (text : List Char) : Except Flaw (Directive × List Char) := do
  let name := text.takeWhile isNameCharacter
  let rest := text.dropWhile isNameCharacter
  if name.isEmpty || !startsGap rest then throw .badDirective
  let (directive, rest) ← readValue (String.ofList name) rest
  return (directive, ← skipLineRest .badDirective rest)

end Directive

end UnitLift.Yaml
