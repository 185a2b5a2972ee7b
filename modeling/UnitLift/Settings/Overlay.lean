import UnitLift.Failure
import UnitLift.Template.Form

namespace UnitLift.Settings

/-- Lays a scalar over a value. One that has still to be given leaves it as it was. The references in
what is laid over a mapping are read at once. -/
def overlayScalar (old : Value) (value : Scalar) : Except Fault Value :=
  match old, value with
  | old, .text "???" => .ok old
  | .mapping _, .text text =>
    if Template.hasReferences text && (Template.read? text).isNone then .error .malformedReference
    else .ok (.text text)
  | _, value => .ok (.scalar value)

mutual

/-- Lays a value over another: a mapping over a mapping entry by entry, anything else instead of what
was there. -/
def overlay (old : Value) : Value → Except Fault Value
  | .mapping entries =>
    match old with
    | .mapping known => do return .mapping (← overlayEntries known entries)
    | .list _ => .error .settingsMerge
    | .scalar _ => .ok (.mapping entries)
  | .list items =>
    match old with
    | .mapping _ => .error .settingsMerge
    | _ => .ok (.list items)
  | .scalar value => overlayScalar old value

/-- Lays entries over others. A new key comes last. -/
def overlayEntries (known : List (Scalar × Value)) :
    List (Scalar × Value) → Except Fault (List (Scalar × Value))
  | [] => .ok known
  | (key, value) :: rest =>
    match Value.entry? key known with
    | none => overlayEntries (known ++ [(key, value)]) rest
    | some old => do overlayEntries (Value.replace key (← overlay old value) known) rest

end

end UnitLift.Settings
