import UnitLift.Path
import UnitLift.Preprocess.LineMarker
import UnitLift.Text.Lines

/-!
The main file in the output of a preprocessor. The content of included files is dropped, each header
that the main file includes becomes one directive on the line it was included from, and every other
line keeps its number.
-/

namespace UnitLift

structure Include where
  name : String
  line : Int
  fullPath : Option String
  system : Bool := false
deriving DecidableEq, Repr

/-- Lines that are filled in by number. Text placed on a line that has some already is appended to it
after a space. -/
abbrev Sheet := Array String

namespace Sheet

/-- A line with more text placed on it. -/
def merge (line text : String) : String := if line.isEmpty then text else line ++ " " ++ text

/-- Places text on line `number`, counted from one; number zero means the last line there is. -/
def place (sheet : Sheet) (number : Nat) (text : String) : Except Fault Sheet :=
  let sheet := sheet ++ Array.replicate (number - 1 - sheet.size) ""
  if number ≤ sheet.size then
    let index := if number == 0 then sheet.size - 1 else number - 1
    match sheet[index]? with
    | some line => .ok (sheet.setIfInBounds index (merge line text))
    | none => .error .noLineBefore
  else .ok (sheet.push text)

end Sheet

/-- How far the main file has been put together. -/
structure MainFile where
  sheet : Sheet := #[]
  includes : List Include := []
  /-- The lines that come next belong to the main file. -/
  inMain : Bool := false
  /-- The number of the next line of the main file. -/
  nextLine : Nat := 1
  /-- The header entered from the main file, and whether it is a system header. -/
  pending : Option (String × Bool) := none
deriving Repr

namespace MainFile

def directive (header : String) : String := "#include \"" ++ header ++ "\""

/-- Follows a marker, `isMain` if it names the main file. -/
def follow (file : MainFile) (isMain : Bool) (marker : LineMarker) : Except Fault MainFile :=
  let moved (file : MainFile) : MainFile := { file with inMain := isMain, nextLine := marker.line }
  if file.inMain && !isMain && !marker.isPseudo && marker.entersFile then
    .ok (moved { file with pending := some (marker.file, marker.isSystem) })
  else
    match file.pending with
    | some (header, system) =>
      if isMain && marker.returnsToFile && 1 < marker.line then do
        let sheet ← file.sheet.place (marker.line - 1) (directive header)
        return moved
          { file with
            sheet
            includes := file.includes ++ [⟨header, (marker.line : Int) - 1, some header, system⟩]
            pending := none }
      else .ok (moved file)
    | none => .ok (moved file)

/-- Reads a line of the output; `isMain` says which file names mean the main file. -/
def readLine (isMain : String → Bool) (file : MainFile) (line : String) : Except Fault MainFile := do
  match ← LineMarker.read line with
  | some marker => file.follow (!marker.isPseudo && isMain marker.file) marker
  | none =>
    if file.inMain then
      return { file with
        sheet := ← file.sheet.place file.nextLine line
        nextLine := file.nextLine + 1 }
    else return file

/-- The main file put together from lines of output. -/
def ofLines (isMain : String → Bool) (lines : List String) : Except Fault MainFile :=
  lines.foldlM (readLine isMain) {}

def ofOutput (currentDirectory output path : String) : Except Fault MainFile :=
  ofLines (Path.sameFile currentDirectory · path) (Text.linesOf output)

def source (file : MainFile) : String := Text.joinLines file.sheet.toList

end MainFile

end UnitLift
