import UnitLift.Failure
import UnitLift.Template.Form
import UnitLift.Yaml.Datum

namespace UnitLift.Settings

/-- How much room there is for nesting; what a mapping and a list take up of it follows. -/
def room : Nat := 975

/-- What a mapping takes up of the room for nesting. -/
def mappingSize : Nat := 10

/-- What a list takes up of the room for nesting. -/
def listSize : Nat := 9

def scalarValue (value : Scalar) : Except Fault Value :=
  match value with
  | .text text =>
    if Template.isWellFormed text then .ok (.text text) else .error .malformedReference
  | other => .ok (.scalar other)

def keyValue : Yaml.Datum → Except Fault Scalar
  | .scalar .null | .moment => .error .absentKey
  | .scalar key => .ok key
  | _ => .error .unsupportedValue

/-- The value of a datum as a setting, where there is some room left. -/
def valueOf (parts : Array Yaml.Parts) (room : Nat) (datum : Yaml.Datum) : Except Fault Value :=
  match datum with
  | .scalar value => scalarValue value
  | .bytes | .moment | .set _ => .error .unsupportedValue
  | .list node | .mapping node =>
    match parts[node]?.getD (.items []) with
    | .items items =>
      if _fits : listSize ≤ room then do
        return .list (← items.mapM fun item => valueOf parts (room - listSize) item)
      else .error .nestedTooDeeply
    | .pairs pairs =>
      if _fits : 2 * listSize ≤ room then do
        return .list (← pairs.mapM fun (first, second) => do
          let first ← valueOf parts (room - 2 * listSize) first
          return .list [first, ← valueOf parts (room - 2 * listSize) second])
      else .error .nestedTooDeeply
    | .entries entries =>
      if _fits : mappingSize ≤ room then do
        return .mapping (← entries.mapM fun (key, value) => do
          let key ← keyValue key
          return (key, ← valueOf parts (room - mappingSize) value))
      else .error .nestedTooDeeply
termination_by room
decreasing_by all_goals simp only [listSize, mappingSize] at *; omega

/-- The data of the document in a text, if there is any. -/
def dataOf (text : String) : Except Fault (Option Yaml.Data) :=
  match Yaml.Data.ofText text with
  | .ok data => .ok data
  | .error flaw => .error (.malformedSettings flaw)

/-- The list or mapping in a text. A text that is only a name is that of a section without content. -/
def collectionIn (text : String) : Except Fault Value := do
  match ← dataOf text with
  | none => return .mapping []
  | some data =>
    match data.root with
    | .scalar .null => return .mapping []
    | .scalar (.text name) => return .record [(name, .null)]
    | .list _ | .mapping _ => valueOf data.parts room data.root
    | _ => throw .nestedScalarSettings

/-- The sections in a document. A document that is only a text is read once more. -/
def sectionsIn (text : String) : Except Fault Value := do
  match ← dataOf text with
  | none => return .mapping []
  | some data =>
    match data.root with
    | .scalar .null => return .mapping []
    | .scalar (.text inner) => collectionIn inner
    | .list _ | .mapping _ => valueOf data.parts room data.root
    | _ => throw .scalarSettings

end UnitLift.Settings
