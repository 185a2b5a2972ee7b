import UnitLift.Data.Value
import UnitLift.Text.Quoted

namespace UnitLift

namespace JsonText

/-- A character inside a JSON string. -/
def escaped (c : Char) : List Char :=
  if c == '"' || c == '\\' then ['\\', c]
  else if c.toNat < 32 then '\\' :: 'u' :: Text.hexPadded 4 c.toNat
  else [c]

def string (text : String) : String :=
  String.ofList ('"' :: text.toList.flatMap escaped ++ ['"'])

/-- A number as JSON writes it, and the usual words for what JSON has no number for. -/
def number : Binary64 → String
  | .notANumber => "NaN"
  | .infinite negative => if negative then "-Infinity" else "Infinity"
  | value => value.text

def scalar : Scalar → String
  | .null => "null"
  | .bool value => if value then "true" else "false"
  | .int value => toString value
  | .real value => number value
  | .text value => string value

/-- A scalar as the name of a member; one that is no text goes by its JSON form. -/
def name : Scalar → String
  | .text value => string value
  | other => string (scalar other)

end JsonText

mutual

def Value.json : Value → String
  | .scalar value => JsonText.scalar value
  | .list items => "[" ++ String.intercalate "," (Value.jsonItems items) ++ "]"
  | .mapping entries => "\x7b" ++ String.intercalate "," (Value.jsonMembers entries) ++ "\x7d"

def Value.jsonItems : List Value → List String
  | [] => []
  | value :: rest => value.json :: Value.jsonItems rest

/-- The entries of a mapping as members of a JSON object. -/
def Value.jsonMembers : List (Scalar × Value) → List String
  | [] => []
  | (key, value) :: rest => (JsonText.name key ++ ":" ++ value.json) :: Value.jsonMembers rest

end

end UnitLift
