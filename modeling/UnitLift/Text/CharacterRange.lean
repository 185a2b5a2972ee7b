namespace UnitLift.Text

/-- Whether an odd number of the increasing change points is at most `code`. -/
def insideRanges (code : Nat) : List Nat → Bool
  | [] => false
  | change :: rest => if code < change then false else !insideRanges code rest

theorem insideRanges_of_lt {code change : Nat} (rest : List Nat) (below : code < change) :
    insideRanges code (change :: rest) = false := by
  simp [insideRanges, below]

end UnitLift.Text
