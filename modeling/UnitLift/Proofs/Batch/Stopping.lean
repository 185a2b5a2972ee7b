import UnitLift.Proofs.Batch.FrontEnds

namespace UnitLift.Batch

open Work

variable {frontEnd : FrontEnd} {getConfig : PathArgument → Work Session AnyConfig}
  {paths : List PathArgument} {start left : Batch} {roots : List EntityId}

def collecting (batch : Batch) : Batch := { batch with stopOnError := false }

def stopping (batch : Batch) : Batch := { batch with stopOnError := true }

/-- A batch that has written down a failure. -/
def collected (batch : Batch) (path : PathArgument) (failure : Failure) : Batch :=
  { batch with
    session := noted path.printed failure batch.session
    errors := batch.errors ++ [(path.printed, failure)] }

/-- How a stopping batch ends where the collecting one returns `roots` and ends as `left`. -/
inductive StopsAs (frontEnd : FrontEnd) (getConfig : PathArgument → Work Session AnyConfig)
    (paths : List PathArgument) (start : Batch) (roots : List EntityId) (left : Batch) :
    Except Stop (List EntityId) × Batch → Prop
  /-- No failure was collected. -/
  | clean (same : left.errors = start.errors) :
      StopsAs frontEnd getConfig paths start roots left (.ok roots, left.stopping)
  /-- The collecting batch reached `path` without a failure; there it has `session`, and goes on. -/
  | failed {before after : List PathArgument} {path : PathArgument} {config : Option AnyConfig}
      {failure : Failure} {earlier later : List EntityId} {reached finished : Batch}
      {session : Session} {more : List (String × Failure)}
      (split : paths = before ++ path :: after)
      (reaches : (parseFilesWith frontEnd getConfig before).runFrom start.collecting =
        (.ok earlier, reached))
      (untouched : reached.errors = start.errors)
      (fails : Turn.take frontEnd getConfig path reached.session =
        (⟨path, config, .error (.failure failure)⟩, session))
      (goesOn : (parseFilesWith frontEnd getConfig after).runFrom
        ({ reached with session }.collected path failure) = (.ok later, finished))
      (ends : left = { finished with session := left.session })
      (returned : roots = earlier ++ later)
      (first : left.errors = start.errors ++ (path.printed, failure) :: more) :
      StopsAs frontEnd getConfig paths start roots left
        (.error (.failure failure), { reached with session }.stopping)

/-- What stops the batch is the first failure that the collecting one adds to the errors. -/
theorem StopsAs.of_errors {run : Except Stop (List EntityId) × Batch}
    (behaves : StopsAs frontEnd getConfig paths start roots left run) {path : String}
    {failure : Failure} {more : List (String × Failure)}
    (collected : left.errors = start.errors ++ (path, failure) :: more) :
    ∃ stopped, run = (.error (.failure failure), stopped) ∧ stopped.errors = start.errors := by
  cases behaves with
  | clean same =>
    have none := List.append_cancel_left
      ((List.append_nil start.errors).trans (same.symm.trans collected))
    cases none
  | failed split reaches untouched fails goesOn ends returned first =>
    have same := List.append_cancel_left (first.symm.trans collected)
    cases same
    exact ⟨_, rfl, untouched⟩

private theorem errors_of_settle (batch : Batch) (turn : Turn) (left : Session) :
    ∃ more, (batch.settle turn left).2.errors = batch.errors ++ more := by
  obtain ⟨path, config, outcome⟩ := turn
  rcases batch with ⟨session, collects | stops, files, errors⟩
  · rcases outcome with (failure | fault) | root
    · exact ⟨[(path.printed, failure)], rfl⟩
    · exact ⟨[], (List.append_nil errors).symm⟩
    · exact ⟨[], (List.append_nil errors).symm⟩
  · rcases outcome with (failure | fault) | root
    · exact ⟨[], (List.append_nil errors).symm⟩
    · exact ⟨[], (List.append_nil errors).symm⟩
    · exact ⟨[], (List.append_nil errors).symm⟩

theorem errors_of_parseFilesWith
    (ran : (parseFilesWith frontEnd getConfig paths).runFrom start = (.ok roots, left)) :
    ∃ more, left.errors = start.errors ++ more := by
  induction paths generalizing start roots with
  | nil =>
    cases ran
    exact ⟨[], (List.append_nil _).symm⟩
  | cons path rest ih =>
    obtain ⟨root?, between, later, first, others, -⟩ := of_runFrom_parseFilesWith_cons ran
    rcases taken : Turn.take frontEnd getConfig path start.session with ⟨turn, session⟩
    obtain ⟨now, sameNow⟩ := errors_of_settle start turn session
    rw [← runFrom_parseConfigured taken, first] at sameNow
    obtain ⟨more, sameMore⟩ := ih others
    exact ⟨now ++ more, by rw [sameMore, sameNow, List.append_assoc]⟩

/-- The stopping batch over the same files as a collecting one that comes to its end. -/
theorem stopsAs_parseFilesWith
    (ran : (parseFilesWith frontEnd getConfig paths).runFrom start.collecting = (.ok roots, left)) :
    StopsAs frontEnd getConfig paths start roots left
      ((parseFilesWith frontEnd getConfig paths).runFrom start.stopping) := by
  induction paths generalizing start roots with
  | nil =>
    cases ran
    exact .clean rfl
  | cons path rest ih =>
    obtain ⟨root?, between, later, first, others, rfl⟩ := of_runFrom_parseFilesWith_cons ran
    rcases taken : Turn.take frontEnd getConfig path start.session with ⟨turn, session⟩
    have meets : (parseConfigured frontEnd getConfig path).runFrom start.collecting =
        start.collecting.settle turn session := runFrom_parseConfigured taken
    have collects : start.collecting.settle turn session = (.ok root?, between) :=
      meets.symm.trans first
    have stops : (parseConfigured frontEnd getConfig path).runFrom start.stopping =
        start.stopping.settle turn session := runFrom_parseConfigured taken
    obtain ⟨about, config, outcome⟩ := turn
    have same : path = about := (Turn.path_of_take taken).symm
    subst same
    -- the turn is the same for both batches, which part only if it ends in a failure
    rcases outcome with (failure | fault) | root
    · cases collects
      obtain ⟨more, errors⟩ := errors_of_parseFilesWith others
      have stopped : (parseFilesWith frontEnd getConfig (path :: rest)).runFrom start.stopping =
          (.error (.failure failure), { start.collecting with session }.stopping) := by
        rw [parseFilesWith]
        exact runFrom_bind_of_error stops _
      rw [stopped]
      have first : left.errors = start.errors ++ (path.printed, failure) :: more :=
        errors.trans (List.append_assoc start.errors [(path.printed, failure)] more)
      exact .failed (List.nil_append _).symm rfl rfl taken others rfl rfl first
    · cases collects
    · cases collects
      let next : Batch := { start with session, files := start.files ++ [root] }
      have behaves : StopsAs frontEnd getConfig rest next later left
          ((parseFilesWith frontEnd getConfig rest).runFrom next.stopping) := ih others
      generalize ended : (parseFilesWith frontEnd getConfig rest).runFrom next.stopping = final
        at behaves
      cases behaves with
      | clean same =>
        rw [runFrom_parseFilesWith_cons stops ended]
        exact .clean same
      | @failed before after other config failure earlier last reached finished session more split
          reaches untouched fails goesOn ends returned first =>
        rw [runFrom_parseFilesWith_cons stops ended]
        exact .failed (congrArg (path :: ·) split) (runFrom_parseFilesWith_cons meets reaches)
          untouched fails goesOn ends (congrArg (root :: ·) returned) first

/-- A stopping batch is the collecting one up to its first failure: it stops with that failure, and
what is done, kept and registered up to then stays. Without a failure the two do the same. -/
theorem stopping_is_prefix (frontEnd : FrontEnd) (id : DatabaseId) (start : Batch) :
    (∀ paths roots left,
      (parseFiles frontEnd id paths).runFrom start.collecting = (.ok roots, left) →
      StopsAs frontEnd (foundConfig id) paths start roots left
        ((parseFiles frontEnd id paths).runFrom start.stopping)) ∧
    ∀ roots left,
      (parseDatabase frontEnd id).runFrom start.collecting = (.ok roots, left) →
      ∃ records, start.session.records? id = some records ∧
        StopsAs frontEnd (recordedConfig id) (records.keys.map .path) start roots left
          ((parseDatabase frontEnd id).runFrom start.stopping) := by
  constructor
  · intro paths roots left ran
    have library := usesLibrary_of_requireLibrary ran
    rw [runFrom_parseFiles library] at ran ⊢
    exact stopsAs_parseFilesWith ran
  · intro roots left ran
    obtain ⟨records, finished, library, opened, parsed, rfl⟩ := of_runFrom_parseDatabase ran
    have openedNow : start.stopping.session.records? id = some records := opened
    have behaves := stopsAs_parseFilesWith parsed
    refine ⟨records, opened, ?_⟩
    generalize ended : (parseFilesWith frontEnd (recordedConfig id)
      (records.keys.map .path)).runFrom start.stopping = final at behaves
    cases behaves with
    | clean same =>
      rw [runFrom_parseDatabase_of_ok library openedNow ended]
      exact .clean same
    | failed split reaches untouched fails goesOn ends returned first =>
      rw [runFrom_parseDatabase_of_error library openedNow ended]
      refine .failed split reaches untouched fails goesOn ?_ returned first
      rw [ends]

theorem stopping_is_prefix_sample :
    (∃ left stopped,
      (parseFiles sampleFrontEnd 0 (sampleNames.map .path)).runFrom sample.collecting =
        (.ok [0, 1], left) ∧ left.errors = sample.errors ++ sampleFailures ∧
      (parseFiles sampleFrontEnd 0 (sampleNames.map .path)).runFrom sample.stopping =
        (.error (.failure sampleFailure.2), stopped) ∧
      stopped.files = [7, 0] ∧ stopped.errors = sample.errors) ∧
    ∃ left stopped,
      (parseDatabase sampleFrontEnd 0).runFrom sample.collecting = (.ok [0], left) ∧
      left.errors = sample.errors ++ [sampleFailure] ∧
      (parseDatabase sampleFrontEnd 0).runFrom sample.stopping =
        (.error (.failure sampleFailure.2), stopped) ∧
      stopped.files = [7, 0] ∧ stopped.errors = sample.errors := by
  obtain ⟨overNames, overRecords⟩ := stopping_is_prefix sampleFrontEnd 0 sample
  constructor
  · have returned : ((parseFiles sampleFrontEnd 0 (sampleNames.map .path)).runFrom
        sample.collecting).1 = .ok [0, 1] := by
      decide +kernel
    have errors : ((parseFiles sampleFrontEnd 0 (sampleNames.map .path)).runFrom
        sample.collecting).2.errors = sample.errors ++ sampleFailures := by
      decide +kernel
    have files : ((parseFiles sampleFrontEnd 0 (sampleNames.map .path)).runFrom
        sample.stopping).2.files = [7, 0] := by
      decide +kernel
    obtain ⟨left, ran⟩ := exists_runFrom returned
    rw [ran] at errors
    obtain ⟨stopped, stops, untouched⟩ := (overNames _ _ _ ran).of_errors errors
    rw [stops] at files
    exact ⟨left, stopped, ran, errors, stops, files, untouched⟩
  · have returned : ((parseDatabase sampleFrontEnd 0).runFrom sample.collecting).1 = .ok [0] := by
      decide +kernel
    have errors : ((parseDatabase sampleFrontEnd 0).runFrom sample.collecting).2.errors =
        sample.errors ++ [sampleFailure] := by
      decide +kernel
    have files : ((parseDatabase sampleFrontEnd 0).runFrom sample.stopping).2.files = [7, 0] := by
      decide +kernel
    obtain ⟨left, ran⟩ := exists_runFrom returned
    rw [ran] at errors
    obtain ⟨records, -, behaves⟩ := overRecords _ _ ran
    obtain ⟨stopped, stops, untouched⟩ := behaves.of_errors errors
    rw [stops] at files
    exact ⟨left, stopped, ran, errors, stops, files, untouched⟩

end UnitLift.Batch
