import UnitLift.Batch
import UnitLift.Proofs.Session

namespace UnitLift

namespace Batch

/-- What came of one file. -/
structure Turn where
  path : PathArgument
  /-- What it was parsed with, if a configuration was found. -/
  config : Option AnyConfig
  outcome : Except Stop EntityId

variable {frontEnd : FrontEnd} {getConfig : PathArgument → Work Session AnyConfig}
  {path : PathArgument}

namespace Turn

/-- The turn of a file, and the session that it leaves. -/
def take (frontEnd : FrontEnd) (getConfig : PathArgument → Work Session AnyConfig)
    (path : PathArgument) (session : Session) : Turn × Session :=
  match (getConfig path).runFrom session with
  | (.error stop, left) => (⟨path, none, .error stop⟩, left)
  | (.ok config, found) =>
    let (outcome, left) := (frontEnd.parse path config).runFrom found
    (⟨path, some config, outcome⟩, left)

theorem take_of_error {session left : Session} {stop : Stop}
    (found : (getConfig path).runFrom session = (.error stop, left)) :
    take frontEnd getConfig path session = (⟨path, none, .error stop⟩, left) := by
  rw [take, found]

theorem take_of_ok {session between left : Session} {config : AnyConfig}
    {outcome : Except Stop EntityId}
    (found : (getConfig path).runFrom session = (.ok config, between))
    (parsed : (frontEnd.parse path config).runFrom between = (outcome, left)) :
    take frontEnd getConfig path session = (⟨path, some config, outcome⟩, left) := by
  rw [take, found]
  simp only [parsed]

theorem path_of_take {session left : Session} {turn : Turn}
    (taken : take frontEnd getConfig path session = (turn, left)) : turn.path = path := by
  rcases found : (getConfig path).runFrom session with ⟨stop | config, between⟩
  · rw [take_of_error found] at taken
    cases taken
    rfl
  · rw [take_of_ok found rfl] at taken
    cases taken
    rfl

def root? (turn : Turn) : Option EntityId :=
  match turn.outcome with
  | .ok root => some root
  | .error _ => none

/-- The failure of a turn, with the file that it is about. -/
def failure? (turn : Turn) : Option (String × Failure) :=
  match turn.outcome with
  | .error (.failure failure) => some (turn.path.printed, failure)
  | _ => none

/-- A turn that a batch answers for: it gave a root or a failure. -/
def IsSettled (turn : Turn) : Prop := turn.root?.isSome = true ∨ turn.failure?.isSome = true

instance (turn : Turn) : Decidable turn.IsSettled :=
  inferInstanceAs (Decidable (turn.root?.isSome = true ∨ turn.failure?.isSome = true))

end Turn

/-- A session in which the failure of a file was written down. -/
def noted (path : String) (failure : Failure) (session : Session) : Session :=
  { session with
    journal := session.journal.add
      ⟨.error, .batch, "Failed to parse " ++ path ++ ": " ++ failure.text⟩ }

/-- The session after a turn, the failure of which was written down. -/
def Turn.close (turn : Turn) (left : Session) : Session :=
  match turn.failure? with
  | some (path, failure) => noted path failure left
  | none => left

/-- The turns of files one after the other, and the session that the last one leaves. Every file has
its turn, whatever came of those before. -/
def turnsOf (frontEnd : FrontEnd) (getConfig : PathArgument → Work Session AnyConfig) :
    List PathArgument → Session → List Turn × Session
  | [], session => ([], session)
  | path :: rest, session =>
    let (turn, left) := Turn.take frontEnd getConfig path session
    let (turns, final) := turnsOf frontEnd getConfig rest (turn.close left)
    (turn :: turns, final)

theorem turnsOf_cons {rest : List PathArgument} {session final : Session} {turns : List Turn}
    (taken : turnsOf frontEnd getConfig (path :: rest) session = (turns, final)) :
    ∃ turn left later, Turn.take frontEnd getConfig path session = (turn, left) ∧
      turnsOf frontEnd getConfig rest (turn.close left) = (later, final) ∧
      turns = turn :: later := by
  rcases first : Turn.take frontEnd getConfig path session with ⟨turn, left⟩
  rcases others : turnsOf frontEnd getConfig rest (turn.close left) with ⟨later, last⟩
  simp only [turnsOf, first, others] at taken
  cases taken
  exact ⟨turn, left, later, rfl, others, rfl⟩

/-- What becomes of a batch when the turn of a file stops: it goes on only after a failure, and only
if it collects failures. -/
def dealWith (batch : Batch) (path : PathArgument) (stop : Stop) (left : Session) :
    Except Stop (Option EntityId) × Batch :=
  match stop, batch.stopOnError with
  | .failure failure, false =>
    (.ok none,
      { batch with
        session := noted path.printed failure left
        errors := batch.errors ++ [(path.printed, failure)] })
  | stop, _ => (.error stop, { batch with session := left })

def settle (batch : Batch) (turn : Turn) (left : Session) :
    Except Stop (Option EntityId) × Batch :=
  match turn.outcome with
  | .ok root => (.ok (some root), { batch with session := left, files := batch.files ++ [root] })
  | .error stop => batch.dealWith turn.path stop left

open Work

variable {batch : Batch} {turn : Turn} {left : Session}

theorem runFrom_onSession {α : Type} {work : Work Session α} {result : Except Stop α}
    {left : Session} (ran : work.runFrom batch.session = (result, left)) :
    (onSession work).runFrom batch = (result, { batch with session := left }) := by
  change ((work.runFrom batch.session).1, { batch with session := (work.runFrom batch.session).2 }) =
    _
  rw [ran]

private theorem runFrom_attempt_of_ok {α : Type} {work : Work Session α} {result : α}
    {left : Session} (ran : work.runFrom batch.session = (.ok result, left)) (path : PathArgument) :
    (attempt path work).runFrom batch = (.ok (some result), { batch with session := left }) := by
  rw [attempt, runFrom_bind_of_ok (runFrom_outcome _ _), runFrom_onSession ran]
  rfl

/-- An operation that stops either ends the batch or leaves a file without a result. -/
private theorem runFrom_attempt_of_error {α : Type} {work : Work Session α} {stop : Stop}
    {left : Session} (ran : work.runFrom batch.session = (.error stop, left))
    (path : PathArgument) :
    (∃ after, batch.dealWith path stop left = (.ok none, after) ∧
        (attempt path work).runFrom batch = (.ok none, after)) ∨
      ∃ after, batch.dealWith path stop left = (.error stop, after) ∧
        (attempt path work).runFrom batch = (.error stop, after) := by
  rw [attempt, runFrom_bind_of_ok (runFrom_outcome _ _), runFrom_onSession ran]
  rcases batch with ⟨session, collects | stops, files, errors⟩
  · cases stop with
    | failure failure => exact .inl ⟨_, rfl, rfl⟩
    | fault fault => exact .inr ⟨_, rfl, rfl⟩
  · cases stop with
    | failure failure => exact .inr ⟨_, rfl, rfl⟩
    | fault fault => exact .inr ⟨_, rfl, rfl⟩

theorem runFrom_parse {outcome : Except Stop EntityId} {left : Session} {config : AnyConfig}
    (ran : (frontEnd.parse path config).runFrom batch.session = (outcome, left)) :
    (parse frontEnd path config).runFrom batch = batch.settle ⟨path, some config, outcome⟩ left := by
  rw [parse]
  cases outcome with
  | ok root =>
    rw [runFrom_bind_of_ok (runFrom_attempt_of_ok ran path)]
    rfl
  | error stop =>
    rcases runFrom_attempt_of_error ran path with ⟨after, dealt, ran⟩ | ⟨after, dealt, ran⟩
    · exact (runFrom_bind_of_ok ran _).trans dealt.symm
    · exact (runFrom_bind_of_error ran _).trans dealt.symm

/-- A batch takes the turn of a file, and settles it. -/
theorem runFrom_parseConfigured
    (taken : Turn.take frontEnd getConfig path batch.session = (turn, left)) :
    (parseConfigured frontEnd getConfig path).runFrom batch = batch.settle turn left := by
  rw [parseConfigured]
  rcases found : (getConfig path).runFrom batch.session with ⟨stop | config, between⟩
  · rw [Turn.take_of_error found] at taken
    cases taken
    rcases runFrom_attempt_of_error found path with ⟨after, dealt, ran⟩ | ⟨after, dealt, ran⟩
    · exact (runFrom_bind_of_ok ran _).trans dealt.symm
    · exact (runFrom_bind_of_error ran _).trans dealt.symm
  · rcases parsed : (frontEnd.parse path config).runFrom between with ⟨outcome, after⟩
    rw [Turn.take_of_ok found parsed] at taken
    cases taken
    rw [runFrom_bind_of_ok (runFrom_attempt_of_ok found path)]
    exact runFrom_parse parsed

theorem runFrom_parseFilesWith_cons {rest : List PathArgument} {root? : Option EntityId}
    {result : Except Stop (List EntityId)} {between left : Batch}
    (first : (parseConfigured frontEnd getConfig path).runFrom batch = (.ok root?, between))
    (others : (parseFilesWith frontEnd getConfig rest).runFrom between = (result, left)) :
    (parseFilesWith frontEnd getConfig (path :: rest)).runFrom batch =
      (result.map (root?.toList ++ ·), left) := by
  rw [parseFilesWith, runFrom_bind_of_ok first]
  exact runFrom_bind_pure others _

theorem of_runFrom_parseFilesWith_cons {rest : List PathArgument} {roots : List EntityId}
    {left : Batch}
    (ran : (parseFilesWith frontEnd getConfig (path :: rest)).runFrom batch = (.ok roots, left)) :
    ∃ root? between later,
      (parseConfigured frontEnd getConfig path).runFrom batch = (.ok root?, between) ∧
      (parseFilesWith frontEnd getConfig rest).runFrom between = (.ok later, left) ∧
      roots = root?.toList ++ later := by
  rw [parseFilesWith] at ran
  obtain ⟨root?, between, first, ranRest⟩ := of_runFrom_bind ran
  obtain ⟨later, last, others, returned⟩ := of_runFrom_bind ranRest
  cases returned
  exact ⟨root?, between, later, first, others, rfl⟩

/-- The turns of a batch, its result and what it leaves. There are no more turns after one that it does
not get over. -/
def course (frontEnd : FrontEnd) (getConfig : PathArgument → Work Session AnyConfig) :
    List PathArgument → Batch → List Turn × Except Stop (List EntityId) × Batch
  | [], batch => ([], .ok [], batch)
  | path :: rest, batch =>
    let (turn, left) := Turn.take frontEnd getConfig path batch.session
    match batch.settle turn left with
    | (.error stop, left) => ([turn], .error stop, left)
    | (.ok root?, between) =>
      let (turns, result, final) := course frontEnd getConfig rest between
      (turn :: turns, result.map (root?.toList ++ ·), final)

theorem course_cons_of_error {rest : List PathArgument} {stop : Stop} {after : Batch}
    (taken : Turn.take frontEnd getConfig path batch.session = (turn, left))
    (stopped : batch.settle turn left = (.error stop, after)) :
    course frontEnd getConfig (path :: rest) batch = ([turn], .error stop, after) := by
  simp only [course, taken, stopped]

theorem course_cons_of_ok {rest : List PathArgument} {root? : Option EntityId} {between final : Batch}
    {turns : List Turn} {result : Except Stop (List EntityId)}
    (taken : Turn.take frontEnd getConfig path batch.session = (turn, left))
    (settled : batch.settle turn left = (.ok root?, between))
    (others : course frontEnd getConfig rest between = (turns, result, final)) :
    course frontEnd getConfig (path :: rest) batch =
      (turn :: turns, result.map (root?.toList ++ ·), final) := by
  simp only [course, taken, settled, others]

theorem runFrom_parseFilesWith_eq_course (paths : List PathArgument) (batch : Batch) :
    (parseFilesWith frontEnd getConfig paths).runFrom batch =
      (course frontEnd getConfig paths batch).2 := by
  induction paths generalizing batch with
  | nil => rfl
  | cons path rest ih =>
    rcases taken : Turn.take frontEnd getConfig path batch.session with ⟨turn, left⟩
    have first := runFrom_parseConfigured taken
    rcases settled : batch.settle turn left with ⟨stop | root?, between⟩
    · rw [settled] at first
      rw [course_cons_of_error taken settled, parseFilesWith, runFrom_bind_of_error first]
    · rw [settled] at first
      rcases others : course frontEnd getConfig rest between with ⟨turns, result, final⟩
      have ran := ih between
      rw [others] at ran
      rw [course_cons_of_ok taken settled others, runFrom_parseFilesWith_cons first ran]

/-- A batch that collects failures goes on after every turn that it answers for. -/
theorem settle_of_collecting (collecting : batch.stopOnError = false) (settled : turn.IsSettled) :
    batch.settle turn left =
      (.ok turn.root?,
        { batch with
          session := turn.close left
          files := batch.files ++ turn.root?.toList
          errors := batch.errors ++ turn.failure?.toList }) := by
  obtain ⟨path, config, outcome⟩ := turn
  rcases outcome with (failure | fault) | root
  · simp [settle, dealWith, collecting, Turn.close, Turn.root?, Turn.failure?]
  · simp [Turn.IsSettled, Turn.root?, Turn.failure?] at settled
  · simp [settle, Turn.close, Turn.root?, Turn.failure?]

end Batch

end UnitLift
