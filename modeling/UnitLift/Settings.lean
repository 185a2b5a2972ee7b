import UnitLift.Settings.Lookup
import UnitLift.Settings.Overlay
import UnitLift.SettingsLibrary
import UnitLift.Text.Lines
import UnitLift.Yaml.Writer

/-!
A library for settings that are kept as plain values. Values are looked up by keys that lead through the
sections, and texts in them may refer to other values.
-/

namespace UnitLift.Settings

/-- The settings in a document, in which every carriage return counts as a line feed. -/
def load (text : String) : Except Fault Value :=
  sectionsIn (String.ofList (Text.withLineFeeds text.toList))

/-- The value under a key; it is absent if there is none or it has still to be given. -/
def selected (settings : Value) (key : String) : Except Fault Value :=
  match allLookups.select (.top settings) key false with
  | .error .noContainer => .ok .null
  | .error fault => .error fault
  | .ok none => .ok .null
  | .ok (some found) => .ok (if isOpen found.value then .null else found.value)

/-- A part of a list or mapping that has to be there and be given. -/
def required (container : Located) (name : String) : Except Fault Located := do
  match container.value with
  | .scalar _ => throw .missingPart
  | .list _ => throw .noSuchSetting
  | .mapping entries =>
    match Value.entry? (.text name) entries with
    | none => throw .noSuchSetting
    | some value =>
      if isOpen value then throw .openValue
      resolve allLookups container (container.part name value)

def part (settings : Value) (names : List String) : Except Fault Value := do
  return (← names.foldlM required (.top settings)).value

def document : Value → Except Fault String
  | .mapping sections =>
    if Yaml.canWriteEntries sections then .ok (Yaml.writeDocument sections)
    else .error .numeralTooLong
  | _ => .error .scalarSettings

/-- Settings that are the values that they contain. -/
def library : SettingsLibrary Value where
  create := id
  load := load
  merge := overlay
  part := part
  select := selected
  contents := id
  dump := document

def withParser (settings : Value) (name : String) (value : Value) : Except Fault Value := do
  checkMade value
  match settings with
  | .mapping sections =>
    return .mapping <| sections.map fun (key, old) => match key, old with
      | .text "parser", .mapping entries => (key, .mapping (writeEntry entries (.text name) value))
      | key, old => (key, old)
  | other => return other

end UnitLift.Settings
