import UnitLift.Table
import UnitLift.Text.Blank
import UnitLift.Text.Lines
import UnitLift.Text.WordCharacter

namespace UnitLift

/-- Replacement texts by declarator. -/
abbrev Definitions := Table String String

namespace Definitions

/-- The parameters at the start of a text, parentheses included, and what follows them. Without a
closing parenthesis there are none. -/
def parametersAndRest : List Char → List Char × List Char
  | '(' :: rest =>
    if rest.contains ')' then
      ('(' :: rest.takeWhile (· != ')') ++ [')'], (rest.dropWhile (· != ')')).drop 1)
    else ([], '(' :: rest)
  | rest => ([], rest)

/-- A declarator at the start of a text, and what follows it. -/
def declaratorAndRest? : List Char → Option (List Char × List Char)
  | [] => none
  | c :: rest =>
    if Text.isNameStart c then
      let (parameters, after) := parametersAndRest (rest.dropWhile Text.isWordCharacter)
      some (c :: rest.takeWhile Text.isWordCharacter ++ parameters, after)
    else none

/-- What is defined in a line without blanks around it, if it is a definition. -/
def readLine? (line : List Char) : Option (String × String) :=
  if "#define".toList.isPrefixOf line then
    match line.drop 7 with
    | [] => none
    | c :: rest =>
      if Text.isBlank c then
        match declaratorAndRest? (Text.trimStart rest) with
        | none => none
        | some (declarator, []) => some (String.ofList declarator, "")
        | some (declarator, blank :: rest) =>
          if Text.isBlank blank then
            some (String.ofList declarator, String.ofList (Text.trimStart rest))
          else none
      else none
  else none

/-- The definitions in the output of a preprocessor; a later one replaces an earlier one of the same
declarator. -/
def ofOutput (output : String) : Definitions :=
  Table.ofList ((Text.linesOf output).filterMap fun line => readLine? (Text.trim line.toList))

def arguments (definitions : Definitions) : List String :=
  definitions.entries.map fun entry => "-D" ++ entry.1 ++ "=" ++ entry.2

end Definitions

end UnitLift
