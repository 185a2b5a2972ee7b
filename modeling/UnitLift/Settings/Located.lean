import UnitLift.Data.Printed
import UnitLift.Settings.Key
import UnitLift.Template.Form

namespace UnitLift.Settings

/-- A value that has still to be given. -/
def isOpen (value : Value) : Bool :=
  match value with
  | .scalar value => value == .text "???"
  | _ => false

/-- A value with the names that lead to it, the last one first; a value that was made on the way has
none. -/
structure Spot where
  value : Value
  path : Option (List String)

def Spot.isSame (a b : Spot) : Bool := a.path.isSome && a.path == b.path

/-- A value with the lists and mappings around it, the innermost first. -/
structure Located where
  spot : Spot
  around : List Spot := []

namespace Located

def value (located : Located) : Value := located.spot.value

def top (value : Value) : Located := ⟨⟨value, some []⟩, []⟩

/-- A value that was made for a place inside of a list or a mapping. -/
def made (container : Located) (value : Value) : Located :=
  ⟨⟨value, none⟩, container.spot :: container.around⟩

/-- The part of a list or a mapping that a name leads to. -/
def part (container : Located) (name : String) (value : Value) : Located :=
  ⟨⟨value, container.spot.path.map (name :: ·)⟩, container.spot :: container.around⟩

/-- The part under a name, or the item with a number. -/
def part? (container : Located) (name : String) : Except Fault (Option Located) :=
  match container.value with
  | .mapping entries => .ok ((Value.entry? (.text name) entries).map (container.part name))
  | .list items =>
    match Text.readInteger? name.toList with
    | some n =>
      .ok (if n < 0 then none else items[n.toNat]?.map (container.part (toString n)))
    | none => .error .noIndex
  | .scalar _ => .ok none

/-- The list or mapping at the top. -/
def root (located : Located) : Located :=
  match located.around.getLast? with
  | some spot => ⟨spot, []⟩
  | none => located

/-- The list or mapping some levels above. -/
def above : Nat → Located → Except Fault Located
  | 0, located => .ok located
  | levels + 1, located =>
    match located.around with
    | [] => .error .noParent
    | spot :: around => above levels ⟨spot, around⟩

def start (located : Located) (key : Key) : Except Fault Located :=
  match key.above with
  | none => .ok located.root
  | some levels => located.above levels

/-- Whether a spot is that of a list or mapping or is around it. -/
def isWithin (located : Located) (spot : Spot) : Bool :=
  (located.spot :: located.around).any spot.isSame

/-- Whether a value is a list or a mapping. -/
def isContainer (located : Located) : Bool :=
  match located.value with
  | .scalar _ => false
  | _ => true

end Located

end UnitLift.Settings
