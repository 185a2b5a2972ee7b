import UnitLift.Number.Binary64

namespace UnitLift

/-- A value without parts. -/
inductive Scalar where
  | null
  | bool (value : Bool)
  | int (value : Int)
  | real (value : Binary64)
  | text (value : String)
deriving DecidableEq, Repr, Inhabited

/-- A plain value. The keys of a mapping are in the order in which they came in. -/
inductive Value where
  | scalar (value : Scalar)
  | list (items : List Value)
  | mapping (entries : List (Scalar × Value))
deriving Inhabited

namespace Scalar

/-- Whether a value counts as true: it is neither absent, nor zero, nor empty. -/
def isTruthy : Scalar → Bool
  | null => false
  | bool value => value
  | int value => value != 0
  | real (.finite _ mantissa _) => mantissa != 0
  | real _ => true
  | text value => !value.isEmpty

/-- A scalar as which a key counts: numbers that are the same are the same key. -/
def keyForm : Scalar → Scalar
  | bool value => int (if value then 1 else 0)
  | real value => (value.toInt?.map int).getD (real value)
  | other => other

/-- Whether two scalars are the same key. What is no number is not even the same as itself. -/
def isSameKey (a b : Scalar) : Bool := a.keyForm == b.keyForm && a != real .notANumber

def printed : Scalar → String
  | null => "None"
  | bool value => if value then "True" else "False"
  | int value => toString value
  | real value => value.text
  | text value => value

end Scalar

namespace Value

protected abbrev null : Value := scalar .null

protected abbrev bool (value : Bool) : Value := scalar (.bool value)

protected abbrev int (value : Int) : Value := scalar (.int value)

protected abbrev text (value : String) : Value := scalar (.text value)

/-- A mapping whose keys are texts. -/
def record (fields : List (String × Value)) : Value :=
  mapping (fields.map fun (key, value) => (.text key, value))

def texts (items : List String) : Value := list (items.map Value.text)

def optional {α : Type} (encode : α → Value) : Option α → Value
  | some value => encode value
  | none => .null

/-- Whether a value counts as true. -/
def isTruthy : Value → Bool
  | scalar value => value.isTruthy
  | list items => !items.isEmpty
  | mapping entries => !entries.isEmpty

mutual

/-- Whether two values are the same, entries in order. -/
protected def decEq : (a b : Value) → Decidable (a = b)
  | scalar a, scalar b => decidable_of_iff (a = b) ⟨congrArg _, scalar.inj⟩
  | list a, list b => @decidable_of_iff _ (a = b) ⟨congrArg _, list.inj⟩ (Value.decEqItems a b)
  | mapping a, mapping b =>
    @decidable_of_iff _ (a = b) ⟨congrArg _, mapping.inj⟩ (Value.decEqEntries a b)
  | scalar _, list _ | scalar _, mapping _ | list _, scalar _ | list _, mapping _
  | mapping _, scalar _ | mapping _, list _ => isFalse nofun

protected def decEqItems : (a b : List Value) → Decidable (a = b)
  | [], [] => isTrue rfl
  | [], _ :: _ | _ :: _, [] => isFalse nofun
  | a :: rest, b :: more =>
    @decidable_of_iff _ (a = b ∧ rest = more) List.cons_eq_cons.symm
      (@instDecidableAnd _ _ (Value.decEq a b) (Value.decEqItems rest more))

protected def decEqEntries : (a b : List (Scalar × Value)) → Decidable (a = b)
  | [], [] => isTrue rfl
  | [], _ :: _ | _ :: _, [] => isFalse nofun
  | (key, a) :: rest, (other, b) :: more =>
    @decidable_of_iff _ (key = other ∧ a = b ∧ rest = more) (by simp [and_assoc])
      (@instDecidableAnd _ _ _
        (@instDecidableAnd _ _ (Value.decEq a b) (Value.decEqEntries rest more)))

end

instance : DecidableEq Value := Value.decEq

def entry? (key : Scalar) (entries : List (Scalar × Value)) : Option Value :=
  (entries.find? fun entry => entry.1.isSameKey key).map (·.2)

theorem exists_mem_of_entry? {key : Scalar} {entries : List (Scalar × Value)} {value : Value}
    (found : Value.entry? key entries = some value) : ∃ name, (name, value) ∈ entries := by
  obtain ⟨⟨name, value⟩, there, rfl⟩ := Option.map_eq_some_iff.mp found
  exact ⟨name, List.mem_of_find?_eq_some there⟩

/-- Puts a value in the place of the one under a key. -/
def replace (key : Scalar) (value : Value) (entries : List (Scalar × Value)) : List (Scalar × Value) :=
  entries.map fun entry => if entry.1.isSameKey key then (key, value) else entry

/-- The value under a text key of a mapping. -/
def field? (key : String) : Value → Option Value
  | mapping entries => entry? (.text key) entries
  | _ => none

end Value

end UnitLift
