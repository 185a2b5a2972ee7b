import UnitLift.Compile.Toolchain
import UnitLift.Data.Printed
import UnitLift.Journal
import UnitLift.Path
import UnitLift.Table
import UnitLift.Text.Numeral
import UnitLift.Text.Quoted
import UnitLift.Work

/-!
Detection of the compiler: a search for its binary, and two questions that the binary answers about
its version and its resources. What was found for a binary is remembered.
-/

namespace UnitLift

namespace Version

def unknown : Version := ⟨0, 0, 0⟩

/-- The digits at the start of a text, of which there is at least one, and what follows them. -/
private def digits? (text : List Char) : Option (List Char × List Char) :=
  match text.takeWhile Text.isDecimalDigit with
  | [] => none
  | digits => some (digits, text.dropWhile Text.isDecimalDigit)

/-- The digits after a dot at the start of a text, and what follows them. -/
private def dotted? : List Char → Option (List Char × List Char)
  | '.' :: rest => digits? rest
  | _ => none

/-- The numerals of a version at the start of a text: two, and a third one if there is one. -/
def numerals? (text : List Char) : Option (List Char × List Char × List Char) := do
  let (major, rest) ← digits? text
  let (minor, rest) ← dotted? rest
  match dotted? rest with
  | some (patch, _) => return (major, minor, patch)
  | none => return (major, minor, ['0'])

/-- What a compiler says before its version. -/
def announcement : List Char := "clang version ".toList

/-- The numerals of the first version that is announced in a text. -/
def announced? : List Char → Option (List Char × List Char × List Char)
  | [] => none
  | c :: rest =>
    let here := if announcement.isPrefixOf (c :: rest) then
      numerals? ((c :: rest).drop announcement.length) else none
    match here with
    | some numerals => some numerals
    | none => announced? rest

private def number (numeral : List Char) : Except Fault Int :=
  match Text.readDigits? numeral with
  | some value => .ok value
  | none => .error .numeralTooLong

/-- The version that a compiler announces. -/
def ofAnnouncement (output : String) : Except Fault Version := do
  match announced? output.toList with
  | none => return unknown
  | some (major, minor, patch) => return ⟨← number major, ← number minor, ← number patch⟩

end Version

namespace Toolchain

/-- The toolchain without a compiler. -/
def absent : Toolchain := ⟨"", Version.unknown, none⟩

end Toolchain

inductive ProgramRun where
  | finished (output : String) (code : Int)
  | refused (reason : String)
  | overran
deriving DecidableEq, Repr

/-- The programs and directories of the machine. -/
structure Host where
  /-- Where the search for a program ends, by its name. -/
  programs : Table String String := .empty
  /-- What programs do, by the text of the command. -/
  runs : Table String ProgramRun := .empty
  directories : List String := []
deriving DecidableEq, Repr

/-- A question asked of the machine. -/
inductive HostCall where
  | which (name : Scalar)
  | run (binary argument : String)
  | isDirectory (path : String)
deriving DecidableEq, Repr

/-- What toolchains are remembered by: what was asked for, and whether that is a text or a whole number,
which are kept apart from other values that are the same. -/
structure Wanted where
  isPlain : Bool
  form : Scalar
deriving DecidableEq, Repr

namespace Wanted

/-- What is remembered of a value that was asked for. -/
def ofValue : Value → Wanted
  | .scalar (.text text) => ⟨true, .text text⟩
  | .scalar (.int n) => ⟨true, .int n⟩
  | .scalar value => ⟨false, value.keyForm⟩
  | value => ⟨false, .text value.printed⟩

end Wanted

/-- The search for toolchains, with what it has found so far. -/
structure Detector where
  host : Host
  /-- The binary that the settings ask for, if they can be asked. -/
  setting : Except Fault Value := .ok .null
  known : Table Wanted Toolchain := .empty
  calls : List HostCall := []
  journal : Journal := {}

namespace Detector

/-- How long a program may take to answer, in seconds. -/
def patience : Nat := 30

/-- The binaries that are tried when none is asked for. -/
def usualBinaries : List String := ["clang++", "clang"]

/-- Writes a journal record. -/
private def note (level : Level) (message : String) : Work Detector Unit :=
  modify fun detector =>
    { detector with journal := detector.journal.add ⟨level, .toolchain, message⟩ }

private def recordCall (call : HostCall) : Work Detector Unit :=
  modify fun detector => { detector with calls := detector.calls ++ [call] }

/-- The first of the names for which the search finds a binary. -/
private def firstBinary : List String → Work Detector (Option String)
  | [] => return none
  | name :: rest => do
    recordCall (.which (.text name))
    match ((← get).host.programs.get? name).filter (!·.isEmpty) with
    | some binary => return some binary
    | none => firstBinary rest

/-- What a program answers, if it does. -/
private def query (binary argument : String) : Work Detector (Option String) := do
  recordCall (.run binary argument)
  let command := binary ++ " " ++ argument
  match ((← get).host.runs.get? command).getD (.refused "no such binary") with
  | .refused reason =>
    note .debug ("Could not run " ++ command ++ ": " ++ reason)
    return none
  | .overran =>
    note .debug
      ("Could not run " ++ command ++ ": Command '" ++ Text.quotedList [binary, argument] ++
        "' timed out after " ++ toString patience ++ " seconds")
    return none
  | .finished output code =>
    if code == 0 then return some output
    note .debug (command ++ " exited with " ++ toString code)
    return none

/-- The include directory among the resources of a compiler, if there is one. -/
private def systemIncludeDir (binary : String) : Work Detector (Option String) := do
  let resources := Text.trimmed ((← query binary "-print-resource-dir").getD "")
  if resources.isEmpty then return none
  let directory := Path.join resources "include"
  recordCall (.isDirectory directory)
  return if (← get).host.directories.contains directory then some directory else none

/-- The binaries that are tried for what is asked for. What is asked for, if anything is, has to be a
text. -/
private def candidates : Value → Work Detector (List String)
  | .scalar (.text name) => return if name.isEmpty then usualBinaries else [name]
  | .scalar value => do
    if !value.isTruthy then return usualBinaries
    recordCall (.which value)
    Work.fault .wrongArguments
  | value => if value.isTruthy then Work.fault .wrongArguments else return usualBinaries

private def search (wanted : Value) : Work Detector Toolchain := do
  let candidates ← candidates wanted
  match ← firstBinary candidates with
  | none =>
    note .warning
      ("No clang binary found (tried " ++ String.intercalate ", " candidates ++
        "), preprocessing is unavailable")
    return Toolchain.absent
  | some binary =>
    let version ← Work.ofFault (Version.ofAnnouncement ((← query binary "--version").getD ""))
    let directory ← systemIncludeDir binary
    note .debug
      ("Using clang binary " ++ binary ++ " (" ++ toString version.major ++ "." ++
        toString version.minor ++ "." ++ toString version.patch ++ "), system include: " ++
        directory.getD "None")
    return ⟨binary, version, directory⟩

/-- The toolchain of a binary, or of the one in the settings if none is named. -/
def detect (binary : Value) : Work Detector Toolchain := do
  let detector ← get
  let wanted ← if binary.isTruthy then pure binary else Work.ofFault detector.setting
  match detector.known.get? (.ofValue wanted) with
  | some toolchain => return toolchain
  | none =>
    let toolchain ← search wanted
    modify fun detector =>
      { detector with known := detector.known.insert (.ofValue wanted) toolchain }
    return toolchain

end Detector

end UnitLift
