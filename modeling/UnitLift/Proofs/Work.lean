import UnitLift.Work

namespace UnitLift.Work

variable {σ τ α β : Type}

@[simp] theorem runFrom_pure (value : α) (state : σ) :
    (pure value : Work σ α).runFrom state = (.ok value, state) := rfl

@[simp] theorem runFrom_get (state : σ) : (get : Work σ σ).runFrom state = (.ok state, state) := rfl

@[simp] theorem runFrom_set (left state : σ) :
    (set left : Work σ PUnit).runFrom state = (.ok ⟨⟩, left) := rfl

@[simp] theorem runFrom_modify (change : σ → σ) (state : σ) :
    (modify change : Work σ PUnit).runFrom state = (.ok ⟨⟩, change state) := rfl

@[simp] theorem runFrom_ofFault_ok (value : α) (state : σ) :
    (ofFault (.ok value) : Work σ α).runFrom state = (.ok value, state) := rfl

@[simp] theorem runFrom_ofExcept_ok (value : α) (state : σ) :
    (ofExcept (.ok value) : Work σ α).runFrom state = (.ok value, state) := rfl

@[simp] theorem runFrom_outcome (work : Work σ α) (state : σ) :
    (outcome work).runFrom state =
      (.ok (work.runFrom state).1, (work.runFrom state).2) := rfl

theorem of_runFrom_ofFault {result : Except Fault α} {state left : σ} {value : α}
    (ran : (ofFault result).runFrom state = (.ok value, left)) : result = .ok value ∧ left = state := by
  cases result with
  | error fault => cases ran
  | ok found =>
    cases ran
    exact ⟨rfl, rfl⟩

/-- An operation on a part of a state leaves the rest as it was. -/
theorem runFrom_onPart (part : τ → σ) (replace : σ → τ → τ) (work : Work σ α) (state : τ) :
    (work.onPart part replace).runFrom state =
      ((work.runFrom (part state)).1, replace (work.runFrom (part state)).2 state) := rfl

private theorem runFrom_bind (work : Work σ α) (next : α → Work σ β) (state : σ) :
    (work >>= next).runFrom state =
      ExceptT.bindCont next (work.runFrom state).1 (work.runFrom state).2 := rfl

/-- An operation that has a result is followed by the next one, in the state that is left. -/
theorem runFrom_bind_of_ok {work : Work σ α} {state left : σ} {value : α}
    (ran : work.runFrom state = (.ok value, left)) (next : α → Work σ β) :
    (work >>= next).runFrom state = (next value).runFrom left := by
  rw [runFrom_bind, ran]
  rfl

theorem runFrom_bind_of_error {work : Work σ α} {state left : σ} {stop : Stop}
    (ran : work.runFrom state = (.error stop, left)) (next : α → Work σ β) :
    (work >>= next).runFrom state = (.error stop, left) := by
  rw [runFrom_bind, ran]
  rfl

/-- Two operations have a result only if the first one has, and the next one goes on from there. -/
theorem of_runFrom_bind {work : Work σ α} {next : α → Work σ β} {state left : σ} {result : β}
    (ran : (work >>= next).runFrom state = (.ok result, left)) :
    ∃ value between, work.runFrom state = (.ok value, between) ∧
      (next value).runFrom between = (.ok result, left) := by
  rcases first : work.runFrom state with ⟨stop | value, between⟩
  · rw [runFrom_bind_of_error first] at ran
    cases ran
  · rw [runFrom_bind_of_ok first] at ran
    exact ⟨value, between, rfl, ran⟩

theorem runFrom_bind_congr {work other : Work σ α} {state start : σ}
    (same : work.runFrom state = other.runFrom start) (next : α → Work σ β) :
    (work >>= next).runFrom state = (other >>= next).runFrom start := by
  rw [runFrom_bind, same, runFrom_bind]

theorem runFrom_bind_pure {work : Work σ α} {state left : σ} {result : Except Stop α}
    (ran : work.runFrom state = (result, left)) (part : α → β) :
    (work >>= fun value => pure (part value)).runFrom state = (result.map part, left) := by
  cases result with
  | error stop => exact runFrom_bind_of_error ran _
  | ok value => exact runFrom_bind_of_ok ran _

/-- Two operations stop where the first one stops, or else where the next one does. -/
theorem stops_bind_iff {work : Work σ α} {next : α → Work σ β} {state : σ} {stop : Stop} :
    ((work >>= next).runFrom state).1 = .error stop ↔
      (work.runFrom state).1 = .error stop ∨
        ∃ value left, work.runFrom state = (.ok value, left) ∧
          ((next value).runFrom left).1 = .error stop := by
  rcases ran : work.runFrom state with ⟨first | value, left⟩
  · simp [runFrom_bind_of_error ran]
  · rw [runFrom_bind_of_ok ran]
    constructor
    · intro stops
      exact .inr ⟨value, left, rfl, stops⟩
    · rintro (stops | ⟨_, _, same, stops⟩)
      · cases stops
      · cases same
        exact stops

theorem stops_ofFault_iff {result : Except Fault α} {state : σ} {stop : Stop} :
    ((ofFault result).runFrom state).1 = .error stop ↔
      ∃ fault, result = .error fault ∧ stop = .fault fault := by
  cases result with
  | ok value => simp [ofFault]
  | error cause =>
    have stopped : ((ofFault (.error cause) : Work σ α).runFrom state).1 = .error (.fault cause) := rfl
    simp [stopped, eq_comm]

theorem exists_runFrom {work : Work σ α} {state : σ} {result : Except Stop α}
    (ends : (work.runFrom state).1 = result) : ∃ left, work.runFrom state = (result, left) :=
  ⟨_, Prod.ext ends rfl⟩

/-- Whatever the state, and however the operation ends, it leaves what `view` shows as it was. -/
def Keeps (view : σ → τ) (work : Work σ α) : Prop :=
  ∀ state, view (work.runFrom state).2 = view state

namespace Keeps

variable {view : σ → τ} {work : Work σ α}

theorem of_runFrom (keeps : Keeps view work) {state left : σ} {result : Except Stop α}
    (ran : work.runFrom state = (result, left)) : view left = view state := by
  rw [← keeps state, ran]

protected theorem pure (value : α) : Keeps view (pure value : Work σ α) := fun _ => rfl

theorem throw (stop : Stop) : Keeps view (throw stop : Work σ α) := fun _ => rfl

theorem ofFault (result : Except Fault α) : Keeps view (ofFault result : Work σ α) := by
  cases result with
  | ok value => exact .pure value
  | error cause => exact .throw (.fault cause)

/-- Both operations keep the view; the second one may rely on what the first left. -/
theorem bind_from {next : α → Work σ β} {state : σ}
    (first : view (work.runFrom state).2 = view state)
    (second : ∀ value left, work.runFrom state = (.ok value, left) →
      view ((next value).runFrom left).2 = view left) :
    view ((work >>= next).runFrom state).2 = view state := by
  rcases ran : work.runFrom state with ⟨stop | value, left⟩
  · rw [runFrom_bind_of_error ran, ← first, ran]
  · rw [runFrom_bind_of_ok ran, second value left ran, ← first, ran]

protected theorem bind {next : α → Work σ β} (first : Keeps view work)
    (second : ∀ value, Keeps view (next value)) : Keeps view (work >>= next) :=
  fun state => bind_from (first state) fun value left _ => second value left

protected theorem ite {condition : Prop} [Decidable condition] {other : Work σ α}
    (first : Keeps view work) (second : Keeps view other) :
    Keeps view (if condition then work else other) := by
  split
  · exact first
  · exact second

/-- What an operation does with the state it finds has to be looked at for each state. -/
theorem get_bind {next : σ → Work σ β}
    (each : ∀ state, view ((next state).runFrom state).2 = view state) :
    Keeps view (get >>= next) := by
  intro state
  rw [runFrom_bind_of_ok (runFrom_get state)]
  exact each state

/-- After two operations the view is as the first one left it. -/
theorem bind_last {next : α → Work σ β} (second : ∀ value, Keeps view (next value)) (state : σ) :
    view ((work >>= next).runFrom state).2 = view (work.runFrom state).2 := by
  rcases ran : work.runFrom state with ⟨stop | value, left⟩
  · rw [runFrom_bind_of_error ran]
  · rw [runFrom_bind_of_ok ran, second value left]

theorem comp {ρ : Type} (keeps : Keeps view work) (part : τ → ρ) :
    Keeps (part ∘ view) work :=
  fun state => congrArg part (keeps state)

end Keeps

/-- Whatever the state, the operation has a result, and leaves what `view` shows as it was. -/
def Passes (view : σ → τ) (work : Work σ α) : Prop :=
  ∀ state, ∃ value left, work.runFrom state = (.ok value, left) ∧ view left = view state

namespace Passes

variable {view : σ → τ} {work : Work σ α}

theorem keeps (passes : Passes view work) : Keeps view work := by
  intro state
  obtain ⟨value, left, ran, same⟩ := passes state
  rw [ran, same]

protected theorem pure (value : α) : Passes view (pure value : Work σ α) :=
  fun state => ⟨value, state, rfl, rfl⟩

theorem modify {change : σ → σ} (same : ∀ state, view (change state) = view state) :
    Passes view (modify change : Work σ PUnit) :=
  fun state => ⟨⟨⟩, change state, rfl, same state⟩

protected theorem bind {next : α → Work σ β} (first : Passes view work)
    (second : ∀ value, Passes view (next value)) : Passes view (work >>= next) := by
  intro state
  obtain ⟨value, between, ran, same⟩ := first state
  obtain ⟨result, left, ranNext, sameNext⟩ := second value between
  exact ⟨result, left, by rw [runFrom_bind_of_ok ran, ranNext], sameNext.trans same⟩

theorem forM {ι : Type} {each : ι → Work σ PUnit} (passes : ∀ item, Passes view (each item))
    (items : List ι) : Passes view (items.forM each) := by
  induction items with
  | nil => exact Passes.pure PUnit.unit
  | cons item rest ih => exact (passes item).bind fun _ => ih

theorem get_bind {next : σ → Work σ β} (each : ∀ state, Passes view (next state)) :
    Passes view (get >>= next) := by
  intro state
  rw [runFrom_bind_of_ok (runFrom_get state)]
  exact each state state

protected theorem ite {condition : Prop} [Decidable condition] {other : Work σ α}
    (first : Passes view work) (second : Passes view other) :
    Passes view (if condition then work else other) := by
  split
  · exact first
  · exact second

end Passes

/-- However the operation ends, what held of the state before it holds of what it leaves. -/
def Preserves (holds : σ → Prop) (work : Work σ α) : Prop :=
  ∀ state, holds state → holds (work.runFrom state).2

namespace Preserves

variable {holds : σ → Prop} {work : Work σ α}

protected theorem pure (value : α) : Preserves holds (pure value : Work σ α) := fun _ held => held

theorem ofFault (result : Except Fault α) : Preserves holds (ofFault result : Work σ α) := by
  cases result with
  | ok value => exact .pure value
  | error cause => exact fun _ held => held

protected theorem bind {next : α → Work σ β} (first : Preserves holds work)
    (second : ∀ value, Preserves holds (next value)) : Preserves holds (work >>= next) := by
  intro state held
  have between := first state held
  rcases ran : work.runFrom state with ⟨stop | value, left⟩
  · rw [ran] at between
    rwa [runFrom_bind_of_error ran]
  · rw [ran] at between
    rw [runFrom_bind_of_ok ran]
    exact second value left between

protected theorem ite {condition : Prop} [Decidable condition] {other : Work σ α}
    (first : Preserves holds work) (second : Preserves holds other) :
    Preserves holds (if condition then work else other) := by
  split
  · exact first
  · exact second

theorem get_bind {next : σ → Work σ β} (each : ∀ state, Preserves holds (next state)) :
    Preserves holds (get >>= next) := by
  intro state held
  rw [runFrom_bind_of_ok (runFrom_get state)]
  exact each state state held

end Preserves

/-- It makes no difference whether a state is changed before the operation or after it. -/
def Commutes (change : σ → σ) (work : Work σ α) : Prop :=
  ∀ state, work.runFrom (change state) =
    ((work.runFrom state).1, change (work.runFrom state).2)

namespace Commutes

variable {change : σ → σ} {work : Work σ α}

protected theorem pure (value : α) : Commutes change (pure value : Work σ α) := fun _ => rfl

theorem throw (stop : Stop) : Commutes change (throw stop : Work σ α) := fun _ => rfl

theorem ofFault (result : Except Fault α) : Commutes change (ofFault result : Work σ α) := by
  cases result with
  | ok value => exact .pure value
  | error cause => exact .throw (.fault cause)

theorem ofExcept (result : Except Stop α) : Commutes change (ofExcept result : Work σ α) := by
  cases result with
  | ok value => exact .pure value
  | error stop => exact .throw stop

theorem bind_from {next : α → Work σ β} {state : σ}
    (first : work.runFrom (change state) =
      ((work.runFrom state).1, change (work.runFrom state).2))
    (second : ∀ value left, work.runFrom state = (.ok value, left) →
      (next value).runFrom (change left) =
        (((next value).runFrom left).1, change ((next value).runFrom left).2)) :
    (work >>= next).runFrom (change state) =
      (((work >>= next).runFrom state).1, change ((work >>= next).runFrom state).2) := by
  rcases ran : work.runFrom state with ⟨stop | value, left⟩
  · rw [ran] at first
    rw [runFrom_bind_of_error first, runFrom_bind_of_error ran]
  · rw [ran] at first
    rw [runFrom_bind_of_ok first, runFrom_bind_of_ok ran, second value left ran]

protected theorem bind {next : α → Work σ β} (first : Commutes change work)
    (second : ∀ value, Commutes change (next value)) : Commutes change (work >>= next) :=
  fun state => bind_from (first state) fun value left _ => second value left

protected theorem ite {condition : Prop} [Decidable condition] {other : Work σ α}
    (first : Commutes change work) (second : Commutes change other) :
    Commutes change (if condition then work else other) := by
  split
  · exact first
  · exact second

/-- What is done with the state that is found has to be looked at for each state. -/
theorem get_bind {next : σ → Work σ β}
    (each : ∀ state, (next (change state)).runFrom (change state) =
      (((next state).runFrom state).1, change ((next state).runFrom state).2)) :
    Commutes change (get >>= next) := by
  intro state
  rw [runFrom_bind_of_ok (runFrom_get (change state)), runFrom_bind_of_ok (runFrom_get state)]
  exact each state

theorem outcome (commutes : Commutes change work) : Commutes change (outcome work) := by
  intro state
  rw [runFrom_outcome, runFrom_outcome, commutes state]

end Commutes

/-- From states that show the same, the operation comes to the same result, and to states that show the
same. -/
def Respects (view : σ → τ) (work : Work σ α) : Prop :=
  ∀ state other, view state = view other →
    (work.runFrom state).1 = (work.runFrom other).1 ∧
      view (work.runFrom state).2 = view (work.runFrom other).2

theorem Commutes.respects {change : σ → σ} {work : Work σ α} (commutes : Commutes change work) :
    Respects change work := by
  intro state other same
  have changed := commutes state
  rw [same, commutes other] at changed
  obtain ⟨result, left⟩ := Prod.mk.inj changed
  exact ⟨result.symm, left.symm⟩

theorem Respects.bind {view : σ → τ} {work : Work σ α} {next : α → Work σ β}
    (first : Respects view work) (second : ∀ value, Respects view (next value)) :
    Respects view (work >>= next) := by
  intro state other same
  obtain ⟨sameResult, sameLeft⟩ := first state other same
  rcases ran : work.runFrom state with ⟨result, left⟩
  rcases ranOther : work.runFrom other with ⟨resultOther, leftOther⟩
  rw [ran, ranOther] at sameResult sameLeft
  cases sameResult
  cases result with
  | error stop =>
    rw [runFrom_bind_of_error ran, runFrom_bind_of_error ranOther]
    exact ⟨rfl, sameLeft⟩
  | ok value =>
    rw [runFrom_bind_of_ok ran, runFrom_bind_of_ok ranOther]
    exact second value left leftOther sameLeft

end UnitLift.Work
