import UnitLift.Path
import UnitLift.Text.Lines
import UnitLift.Text.Numeral
import UnitLift.Text.Quoted

namespace UnitLift.Release

/-- The version that stands for none. -/
def unknown : String := "0.0.0"

/-- The lines of a file, which end at line feeds and carriage returns only. -/
def fileLines (text : String) : List (List Char) :=
  Path.pieces '\n' (Text.withLineFeeds text.toList)

def statesVersion (line : List Char) : Bool :=
  "version = ".toList.isPrefixOf (Text.trim line)

/-- A text without the quotes around it. -/
def unquoted (text : List Char) : List Char :=
  let isQuote (c : Char) := c == Text.singleQuote || c == Text.doubleQuote
  ((text.dropWhile isQuote).reverse.dropWhile isQuote).reverse

/-- What a line says between its first two equals signs, without blanks and quotes around it. -/
def statedVersion (line : List Char) : String :=
  String.ofList (unquoted (Text.trim (((Path.pieces '=' line)[1]?).getD [])))

/-- The version stated in a project file. -/
def ofProject (text : String) : String :=
  (((fileLines text).find? statesVersion).map statedVersion).getD unknown

/-- The version of the library: the one it was installed with, or else that of the project file. -/
def version (installed project : Option String) : String :=
  match installed with
  | some version => version
  | none => (project.map ofProject).getD unknown

/-- The first two numbers of a version, zeros if they are no numbers. -/
def numbers (version : String) : Int × Int :=
  match Path.pieces '.' version.toList with
  | [major] =>
    match Text.readInteger? major with
    | some major => (major, 0)
    | none => (0, 0)
  | major :: minor :: _ =>
    match Text.readInteger? major, Text.readInteger? minor with
    | some major, some minor => (major, minor)
    | _, _ => (0, 0)
  | [] => (0, 0)

end UnitLift.Release
