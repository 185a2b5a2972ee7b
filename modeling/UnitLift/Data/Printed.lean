import UnitLift.Data.Value
import UnitLift.Text.Quoted

namespace UnitLift

/-- A scalar as a part of a list or a mapping. -/
def Scalar.quoted : Scalar → String
  | .text value => Text.quoted value
  | other => other.printed

mutual

/-- A value as a part of a list or a mapping. -/
def Value.quoted : Value → String
  | .scalar value => value.quoted
  | .list items => "[" ++ String.intercalate ", " (Value.quotedItems items) ++ "]"
  | .mapping entries => "\x7b" ++ String.intercalate ", " (Value.quotedEntries entries) ++ "\x7d"

def Value.quotedItems : List Value → List String
  | [] => []
  | value :: rest => value.quoted :: Value.quotedItems rest

def Value.quotedEntries : List (Scalar × Value) → List String
  | [] => []
  | (key, value) :: rest => (key.quoted ++ ": " ++ value.quoted) :: Value.quotedEntries rest

end

def Value.printed : Value → String
  | .scalar value => value.printed
  | other => other.quoted

end UnitLift
