import UnitLift.Failure

namespace UnitLift.Settings

structure Key where
  /-- How far above a place the key starts; a key without dots before it starts at the top. -/
  above : Option Nat
  /-- What leads on from there. -/
  rest : List Char
deriving DecidableEq, Repr

namespace Key

/-- The key in a text. Of the dots before it, the first one stands for the place itself. -/
def ofText (text : String) : Key :=
  let dots := text.toList.takeWhile (· == '.')
  { above := if dots.isEmpty then none else some (dots.length - 1)
    rest := text.toList.drop dots.length }

/-- The names after the first one: each follows a dot or stands in brackets. -/
def laterNames : Nat → List Char → List (List Char)
  | 0, _ => []
  | _, [] => []
  | fuel + 1, c :: rest =>
    if c == '.' then
      let name := rest.takeWhile fun c => c != '.' && c != '['
      name :: laterNames fuel (rest.drop name.length)
    else if c == '[' then
      let name := rest.takeWhile fun c => c != ']' && c != '\n'
      match rest.drop name.length with
      | ']' :: rest => name :: laterNames fuel rest
      | _ => laterNames fuel rest
    else laterNames fuel rest

/-- The names that a key leads through; there are none if nothing follows its dots. -/
def names (key : Key) : Except Fault (List String) :=
  if key.rest.isEmpty then .ok []
  else
    let first := key.rest.takeWhile fun c => c != '.' && c != '['
    let later := laterNames key.rest.length (key.rest.drop first.length)
    match if first.isEmpty then later else first :: later with
    | [] => .error .emptyKey
    | names => .ok (names.map String.ofList)

end Key

end UnitLift.Settings
