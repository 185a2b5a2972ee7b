import UnitLift.Failure

namespace UnitLift

/-- An operation on a state `σ`. -/
abbrev Work (σ α : Type) := ExceptT Stop (StateM σ) α

namespace Work

variable {σ α : Type}

/-- The result of an operation, and the state it leaves. -/
def runFrom (work : Work σ α) (state : σ) : Except Stop α × σ := ExceptT.run work state

def fail (failure : Failure) : Work σ α := throw (.failure failure)

def refuse (refusal : Refusal) : Work σ α := throw (.refused refusal)

def fault (fault : Fault) : Work σ α := throw (.fault fault)

def ofFault : Except Fault α → Work σ α
  | .ok value => pure value
  | .error cause => fault cause

def ofExcept : Except Stop α → Work σ α
  | .ok value => pure value
  | .error stop => throw stop

/-- The outcome of an operation as a value; the operation around it goes on. -/
def outcome (work : Work σ α) : Work σ (Except Stop α) :=
  fun state => match work state with
    | (result, state) => (.ok result, state)

/-- An operation on a part of the state. -/
def onPart {τ : Type} (part : τ → σ) (replace : σ → τ → τ) (work : Work σ α) : Work τ α :=
  fun state => match work (part state) with
    | (result, changed) => (result, replace changed state)

end Work

end UnitLift
