import UnitLift.Data.Printed
import UnitLift.Path

namespace UnitLift.Access

def has (v : Value) (name : String) : Bool := (v.field? name).isSome

def field (v : Value) (name : String) : Value := (v.field? name).getD .null

def items : Value → List Value
  | .list values => values
  | _ => []

def pairs : Value → List (String × Value)
  | .mapping entries => entries.map fun (key, value) => (key.printed, value)
  | _ => []

def part (v : Value) (n : Nat) : Value := (items v)[n]?.getD .null

/-- A text, and a value of another sort as it stands in messages. -/
def print (v : Value) : String := v.printed

/-- A text unless it is absent. -/
def text? : Value → Option String
  | .scalar .null => none
  | v => some (print v)

def int? : Value → Option Int
  | .scalar (.int n) => some n
  | .scalar (.bool b) => some (if b then 1 else 0)
  | _ => none

/-- A whole number, zero if there is none. -/
def int (v : Value) : Int := (int? v).getD 0

def texts (v : Value) : List String := (items v).map print

/-- A path, or what stands for one. -/
def path : Value → PathArgument
  | .scalar (.text text) => .path text
  | v => .other (print v)

def str (v : Value) (name : String) (default : String := "") : String :=
  if has v name then print (field v name) else default

def str? (v : Value) (name : String) : Option String := text? (field v name)

/-- Whether a field counts as true. -/
def bool (v : Value) (name : String) (default : Bool := false) : Bool :=
  if has v name then (field v name).isTruthy else default

def list (v : Value) (name : String) : List Value := items (field v name)

/-- The items of a field are smaller than the whole value. -/
theorem sizeOf_lt_of_mem_list {v item : Value} {name : String} (h : item ∈ list v name) :
    sizeOf item < sizeOf v := by
  obtain ⟨values, present, member⟩ : ∃ values, v.field? name = some (.list values) ∧
      item ∈ values := by
    unfold list field at h
    cases found : v.field? name with
    | none => simp [found, items] at h
    | some value =>
      cases value with
      | list values => exact ⟨values, rfl, by simpa [found, items] using h⟩
      | scalar => simp [found, items] at h
      | mapping => simp [found, items] at h
  cases v with
  | mapping entries =>
    obtain ⟨key, entry⟩ := Value.exists_mem_of_entry? present
    have inner := List.sizeOf_lt_of_mem member
    have outer := List.sizeOf_lt_of_mem entry
    simp only [Prod.mk.sizeOf_spec, Value.list.sizeOf_spec] at outer
    simp only [Value.mapping.sizeOf_spec]
    omega
  | scalar => simp [Value.field?] at present
  | list => simp [Value.field?] at present

end UnitLift.Access
