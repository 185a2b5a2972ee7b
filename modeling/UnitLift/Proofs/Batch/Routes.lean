import UnitLift.Proofs.Batch.FrontEnds

namespace UnitLift.Batch

open Work

variable {frontEnd : FrontEnd} {id : DatabaseId} {session other : Session}
  {records : Table String (List Command)} {name : String}

/-- Parses the files that a database lists, with the configurations that are looked up for them. -/
def parseListed (frontEnd : FrontEnd) (id : DatabaseId) : Work Batch (List EntityId) := do
  let names ← onSession (Database.files id)
  parseFiles frontEnd id (names.map .path)

/-- A batch without what the databases of its session were asked. -/
def unqueried (batch : Batch) : Batch := { batch with session := batch.session.unqueried }

/-- A configuration is made of defaults and commands, whatever databases were asked before. -/
private theorem respects_describe (file : String) (commands : List Command) :
    Respects Session.unqueried (Database.describe file commands) := by
  have rest (defaults : BuildDefaults) : Indifferent (do
      let fresh ← Work.ofExcept (CompileConfig.fresh defaults none)
      let takeover := Takeover.ofCommands fresh commands
      takeover.unknownStandards.forM fun standard =>
        Session.log .warning .compileConfig
          ("Ignoring unsupported standard '-std=" ++ standard ++ "' from compilation database")
      Session.log .debug .compileConfig
        ("Configuration for " ++ file ++ " from database: " ++
          Text.quotedList takeover.config.arguments)
      return takeover.config) := by
    apply (Indifferent.ofExcept _).bind
    intro fresh
    apply (Session.indifferent_logs _ _ _ _).bind
    intro _
    exact (Session.indifferent_log _ _ _).bind fun _ => .pure _
  intro session other same
  have defaults : session.defaults = other.defaults := congrArg (·.defaults) same
  rw [Database.describe, runFrom_bind_of_ok (runFrom_get session),
    runFrom_bind_of_ok (runFrom_get other), defaults]
  exact (rest other.defaults).respects_unqueried session other same

/-- What is made of the configuration of a recorded file, by either route. -/
private def described (records : Table String (List Command)) (name : String) :
    Work Session AnyConfig := do
  return .library (← Database.describe name ((records.get? name).getD []))

private theorem respects_described (records : Table String (List Command)) (name : String) :
    Respects Session.unqueried (described records name) :=
  (respects_describe name _).bind fun config =>
    (Indifferent.pure (AnyConfig.library config)).respects_unqueried

private theorem runFrom_recordedConfig_described (opened : session.records? id = some records)
    (known : records.contains name = true) :
    ∃ asked, asked.unqueried = session.unqueried ∧
      (recordedConfig id (.path name)).runFrom session =
        (described records name).runFrom asked := by
  obtain ⟨asked, same, ran⟩ := Database.runFrom_configOf_describe opened known
  exact ⟨asked, same, runFrom_bind_congr ran _⟩

/-- No sibling is tried for a file that is recorded itself. -/
private theorem runFrom_foundConfig_described (opened : session.records? id = some records)
    (known : records.contains name = true) :
    ∃ asked, asked.unqueried = session.unqueried ∧
      (foundConfig id (.path name)).runFrom session =
        (described records name).runFrom asked := by
  obtain ⟨knowing, knows, same⟩ := Database.runFrom_hasConfig opened name
  have still : knowing.records? id = some records :=
    (congrArg (·.1) (Database.basis_of_unqueried same)).trans opened
  obtain ⟨asked, sameAsked, ran⟩ := Database.runFrom_configOf_describe still known
  refine ⟨asked, sameAsked.trans same, ?_⟩
  have finds : (Database.findConfig id (.path name)).runFrom session =
      (do return some (← Database.describe name ((records.get? name).getD [])) :
        Work Session (Option CompileConfig)).runFrom asked := by
    rw [Database.findConfig, runFrom_bind_of_ok knows]
    simp only [known, ↓reduceIte]
    exact runFrom_bind_congr ran _
  rw [foundConfig, runFrom_bind_congr finds]
  simp only [described, bind_assoc, pure_bind]

/-- Both routes find the same configuration for a recorded file. -/
private theorem lookups_agree (opened : session.records? id = some records)
    (known : records.contains name = true) (same : session.unqueried = other.unqueried) :
    ((foundConfig id (.path name)).runFrom session).1 =
        ((recordedConfig id (.path name)).runFrom other).1 ∧
      ((foundConfig id (.path name)).runFrom session).2.unqueried =
        ((recordedConfig id (.path name)).runFrom other).2.unqueried := by
  have openedOther : other.records? id = some records :=
    (congrArg (·.1) (Database.basis_of_unqueried same.symm)).trans opened
  obtain ⟨asked, sameAsked, ran⟩ := runFrom_foundConfig_described opened known
  obtain ⟨askedOther, sameOther, ranOther⟩ := runFrom_recordedConfig_described openedOther known
  rw [ran, ranOther]
  exact respects_described records name asked askedOther
    (sameAsked.trans (same.trans sameOther.symm))

/-- The turn of a recorded file is the same by either route. -/
private theorem turns_agree (indifferent : ∀ path config, Indifferent (frontEnd.parse path config))
    (opened : session.records? id = some records) (known : records.contains name = true)
    (same : session.unqueried = other.unqueried) :
    ∃ turn left leftOther,
      Turn.take frontEnd (foundConfig id) (.path name) session = (turn, left) ∧
      Turn.take frontEnd (recordedConfig id) (.path name) other = (turn, leftOther) ∧
      left.unqueried = leftOther.unqueried ∧ left.records? id = some records := by
  obtain ⟨sameConfig, sameFound⟩ := lookups_agree opened known same
  obtain ⟨found, ran, basis⟩ := runFrom_foundConfig opened name
  rcases ranOther : (recordedConfig id (.path name)).runFrom other with ⟨config?, foundOther⟩
  have still : found.records? id = some records := (congrArg (·.1) basis).trans opened
  rw [ran, ranOther] at sameConfig sameFound
  simp only at sameConfig
  rw [sameConfig] at ran
  cases config? with
  | error stop =>
    exact ⟨_, found, foundOther, Turn.take_of_error ran, Turn.take_of_error ranOther, sameFound,
      still⟩
  | ok config =>
    obtain ⟨sameOutcome, sameLeft⟩ :=
      (indifferent (.path name) config).respects_unqueried found foundOther sameFound
    rcases parsed : (frontEnd.parse (.path name) config).runFrom found with ⟨outcome, left⟩
    rcases parsedOther : (frontEnd.parse (.path name) config).runFrom foundOther
      with ⟨outcomeOther, leftOther⟩
    rw [parsed, parsedOther] at sameOutcome sameLeft
    cases sameOutcome
    have kept : left.databases = found.databases :=
      congrArg (·.2) ((indifferent (.path name) config).keeps_stored.of_runFrom parsed)
    have opens : left.records? id = some records := by
      rw [← still, Session.records?, kept, Session.records?]
    exact ⟨_, left, leftOther, Turn.take_of_ok ran parsed, Turn.take_of_ok ranOther parsedOther,
      sameLeft, opens⟩

/-- Of all sessions, only the one that a turn leaves matters to settling it. -/
private theorem settle_agrees {batch otherBatch : Batch} {left leftOther : Session}
    (same : batch.unqueried = otherBatch.unqueried)
    (sameLeft : left.unqueried = leftOther.unqueried) (turn : Turn) :
    (batch.settle turn left).1 = (otherBatch.settle turn leftOther).1 ∧
      (batch.settle turn left).2.unqueried = (otherBatch.settle turn leftOther).2.unqueried ∧
      (batch.settle turn left).2.session.databases = left.databases := by
  obtain ⟨session, stops, files, errors⟩ := batch
  obtain ⟨other, stopsOther, filesOther, errorsOther⟩ := otherBatch
  obtain ⟨-, rfl, rfl, rfl⟩ := Batch.mk.inj same
  obtain ⟨path, config, outcome⟩ := turn
  have noting (failure : Failure) : (noted path.printed failure left).unqueried =
      (noted path.printed failure leftOther).unqueried := by
    have written := congrArg (noted path.printed failure) sameLeft
    exact written
  rcases outcome with (failure | fault) | root
  · cases stops with
    | false =>
      simp only [settle, dealWith, unqueried, noting failure, true_and]
      rfl
    | true => simp [settle, dealWith, unqueried, sameLeft]
  · simp [settle, dealWith, unqueried, sameLeft]
  · simp [settle, unqueried, sameLeft]

/-- Over recorded files the two courses are the same, from batches that differ only in what their
databases were asked. -/
theorem courses_agree (indifferent : ∀ path config, Indifferent (frontEnd.parse path config))
    {names : List String} (known : ∀ name ∈ names, records.contains name = true)
    {batch otherBatch : Batch} (opened : batch.session.records? id = some records)
    (same : batch.unqueried = otherBatch.unqueried) :
    ∃ turns result left leftOther,
      course frontEnd (foundConfig id) (names.map .path) batch = (turns, result, left) ∧
      course frontEnd (recordedConfig id) (names.map .path) otherBatch =
        (turns, result, leftOther) ∧
      left.unqueried = leftOther.unqueried := by
  induction names generalizing batch otherBatch with
  | nil => exact ⟨[], .ok [], batch, otherBatch, rfl, rfl, same⟩
  | cons name rest ih =>
    obtain ⟨turn, left, leftOther, taken, takenOther, sameLeft, opens⟩ :=
      turns_agree indifferent opened (known name List.mem_cons_self) (congrArg (·.session) same)
    obtain ⟨sameResult, sameBetween, kept⟩ := settle_agrees same sameLeft turn
    rcases settled : batch.settle turn left with ⟨result, between⟩
    rcases settledOther : otherBatch.settle turn leftOther with ⟨resultOther, betweenOther⟩
    rw [settled, settledOther] at sameResult sameBetween
    rw [settled] at kept
    cases sameResult
    cases result with
    | error stop =>
      exact ⟨_, _, _, _, course_cons_of_error taken settled,
        course_cons_of_error takenOther settledOther, sameBetween⟩
    | ok root? =>
      have still : between.session.records? id = some records := by
        rw [← opens, Session.records?, kept, Session.records?]
      obtain ⟨turns, result, final, finalOther, others, othersOther, sameFinal⟩ :=
        ih (fun name member => known name (List.mem_cons_of_mem _ member)) still sameBetween
      exact ⟨_, _, _, _, course_cons_of_ok taken settled others,
        course_cons_of_ok takenOther settledOther othersOther, sameFinal⟩

/-- What is left when all records have been dealt with: it is announced how many files were parsed. -/
def concluded (result : Except Stop (List EntityId)) (left : Batch) : Batch :=
  match result with
  | .ok roots => { left with session := announced roots.length left.session }
  | .error _ => left

/-- Either route takes the same turns, with the same configurations, outcomes and result, and leaves the
same but for what the database was asked and for the last line of the journal. The front end may be the
parser that works with libclang, or any other that has nothing to do with defaults and databases. -/
theorem routes_agree :
    (∀ path config, Indifferent (FrontEnd.library.parse path config)) ∧
    ∀ (frontEnd : FrontEnd) (id : DatabaseId) (records : Table String (List Command)) (batch : Batch),
      frontEnd.usesLibrary = true → (∀ path config, Indifferent (frontEnd.parse path config)) →
      batch.session.records? id = some records →
      ∃ turns result left other,
        course frontEnd (foundConfig id) (records.keys.map .path) batch = (turns, result, left) ∧
        (parseListed frontEnd id).runFrom batch = (result, left) ∧
        course frontEnd (recordedConfig id) (records.keys.map .path) batch =
          (turns, result, other) ∧
        (parseDatabase frontEnd id).runFrom batch = (result, concluded result other) ∧
        left.unqueried = other.unqueried := by
  refine ⟨Parser.indifferent_parse, ?_⟩
  intro frontEnd id records batch library indifferent opened
  obtain ⟨turns, result, left, other, listed, recorded, same⟩ :=
    courses_agree indifferent (fun name member => Table.contains_of_mem_keys member) opened rfl
  have named : (onSession (Database.files id)).runFrom batch = (.ok records.keys, batch) := by
    apply runFrom_onSession
    rw [Database.files, runFrom_bind_of_ok (Database.runFrom_recordsOf_of_open opened),
      runFrom_pure]
  refine ⟨turns, result, left, other, listed, ?_, recorded, ?_, same⟩
  · rw [parseListed, runFrom_bind_of_ok named, runFrom_parseFiles library,
      runFrom_parseFilesWith_eq_course, listed]
  · have ran : (parseFilesWith frontEnd (recordedConfig id) (records.keys.map .path)).runFrom batch =
        (result, other) := by
      rw [runFrom_parseFilesWith_eq_course, recorded]
    cases result with
    | error stop => exact runFrom_parseDatabase_of_error library opened ran
    | ok roots => exact runFrom_parseDatabase_of_ok library opened ran

theorem routes_agree_sample :
    ∃ turns left other,
      course sampleFrontEnd (foundConfig 0) (sampleRecords.keys.map .path) sample =
        (turns, .ok [0], left) ∧
      (parseListed sampleFrontEnd 0).runFrom sample = (.ok [0], left) ∧
      course sampleFrontEnd (recordedConfig 0) (sampleRecords.keys.map .path) sample =
        (turns, .ok [0], other) ∧
      (parseDatabase sampleFrontEnd 0).runFrom sample = (.ok [0], concluded (.ok [0]) other) ∧
      left.files = [7, 0] ∧ left.errors = sample.errors ++ [sampleFailure] ∧
      left.files = other.files ∧ left.errors = other.errors := by
  have indifferent (path : PathArgument) (config : AnyConfig) :
      Indifferent (sampleFrontEnd.parse path config) := StandIn.indifferent_parse _ path config
  obtain ⟨turns, result, left, other, listed, ranListed, recorded, ranRecorded, same⟩ :=
    routes_agree.2 sampleFrontEnd 0 sampleRecords sample rfl indifferent rfl
  have returned : ((parseListed sampleFrontEnd 0).runFrom sample).1 = .ok [0] := by decide +kernel
  have files : ((parseListed sampleFrontEnd 0).runFrom sample).2.files = [7, 0] := by
    decide +kernel
  have errors : ((parseListed sampleFrontEnd 0).runFrom sample).2.errors =
      sample.errors ++ [sampleFailure] := by
    decide +kernel
  rw [ranListed] at returned files errors
  cases returned
  exact ⟨turns, left, other, listed, ranListed, recorded, ranRecorded, files, errors,
    congrArg (·.files) same, congrArg (·.errors) same⟩

end UnitLift.Batch
