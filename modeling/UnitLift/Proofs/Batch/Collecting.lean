import UnitLift.Proofs.Batch.FrontEnds
import UnitLift.Proofs.Batch.Turns

namespace UnitLift.Batch

open Work

variable {frontEnd : FrontEnd} {getConfig : PathArgument → Work Session AnyConfig}
  {paths : List PathArgument} {batch : Batch} {turns : List Turn} {final : Session}

/-- What a collecting batch has done with files that had these turns. -/
structure Accounts (batch : Batch) (paths : List PathArgument) (turns : List Turn) (final : Session)
    (run : Except Stop (List EntityId) × Batch) : Prop where
  attempted : turns.map (·.path) = paths
  returned : run.1 = .ok (turns.filterMap Turn.root?)
  session : run.2.session = final
  files : run.2.files = batch.files ++ turns.filterMap Turn.root?
  errors : run.2.errors = batch.errors ++ turns.filterMap Turn.failure?
  balanced : (turns.filterMap Turn.root?).length + (turns.filterMap Turn.failure?).length =
    paths.length

theorem Accounts.exists_left {work : Work Batch (List EntityId)}
    (accounts : Accounts batch paths turns final (work.runFrom batch)) :
    ∃ left, work.runFrom batch = (.ok (turns.filterMap Turn.root?), left) ∧
      left.files = batch.files ++ turns.filterMap Turn.root? ∧
      left.errors = batch.errors ++ turns.filterMap Turn.failure? := by
  obtain ⟨left, ran⟩ := exists_runFrom accounts.returned
  have files := accounts.files
  have errors := accounts.errors
  rw [ran] at files errors
  exact ⟨left, ran, files, errors⟩

theorem paths_of_turnsOf {session : Session}
    (taken : turnsOf frontEnd getConfig paths session = (turns, final)) :
    turns.map (·.path) = paths := by
  induction paths generalizing session turns with
  | nil =>
    cases taken
    rfl
  | cons path rest ih =>
    obtain ⟨turn, left, later, first, others, rfl⟩ := turnsOf_cons taken
    rw [List.map_cons, Turn.path_of_take first, ih others]

private theorem filterMap_cons_toList {α β : Type} (part : α → Option β) (first : α)
    (rest : List α) :
    (first :: rest).filterMap part = (part first).toList ++ rest.filterMap part := by
  cases found : part first with
  | none => exact List.filterMap_cons_none found
  | some value => exact List.filterMap_cons_some found

private theorem length_root?_add_failure? {turn : Turn} (settled : turn.IsSettled) :
    turn.root?.toList.length + turn.failure?.toList.length = 1 := by
  obtain ⟨path, config, outcome⟩ := turn
  rcases outcome with (failure | fault) | root
  · rfl
  · simp [Turn.IsSettled, Turn.root?, Turn.failure?] at settled
  · rfl

theorem length_roots_add_failures (settled : ∀ turn ∈ turns, turn.IsSettled) :
    (turns.filterMap Turn.root?).length + (turns.filterMap Turn.failure?).length =
      turns.length := by
  induction turns with
  | nil => rfl
  | cons turn rest ih =>
    have one := length_root?_add_failure? (settled turn List.mem_cons_self)
    have more := ih fun later member => settled later (List.mem_cons_of_mem _ member)
    simp only [filterMap_cons_toList, List.length_append, List.length_cons]
    omega

/-- A collecting batch goes through the turns of all its files. -/
theorem runFrom_parseFilesWith (collecting : batch.stopOnError = false)
    (taken : turnsOf frontEnd getConfig paths batch.session = (turns, final))
    (settled : ∀ turn ∈ turns, turn.IsSettled) :
    (parseFilesWith frontEnd getConfig paths).runFrom batch =
      (.ok (turns.filterMap Turn.root?),
        { batch with
          session := final
          files := batch.files ++ turns.filterMap Turn.root?
          errors := batch.errors ++ turns.filterMap Turn.failure? }) := by
  induction paths generalizing batch turns with
  | nil =>
    cases taken
    simp [parseFilesWith]
  | cons path rest ih =>
    obtain ⟨turn, left, later, first, others, rfl⟩ := turnsOf_cons taken
    have now := settled turn List.mem_cons_self
    have ran := (runFrom_parseConfigured first).trans (settle_of_collecting collecting now)
    let next : Batch := { batch with
      session := turn.close left
      files := batch.files ++ turn.root?.toList
      errors := batch.errors ++ turn.failure?.toList }
    have goesOn : next.stopOnError = false := collecting
    have more := ih goesOn others fun turn member => settled turn (List.mem_cons_of_mem _ member)
    rw [runFrom_parseFilesWith_cons ran more]
    simp only [next, filterMap_cons_toList, List.append_assoc, Except.map]

theorem accounts_of_turnsOf (collecting : batch.stopOnError = false)
    (taken : turnsOf frontEnd getConfig paths batch.session = (turns, final))
    (settled : ∀ turn ∈ turns, turn.IsSettled) :
    Accounts batch paths turns final ((parseFilesWith frontEnd getConfig paths).runFrom batch) := by
  have ran := runFrom_parseFilesWith collecting taken settled
  have attempted := paths_of_turnsOf taken
  constructor
  case attempted => exact attempted
  case balanced => rw [length_roots_add_failures settled, ← attempted, List.length_map]
  all_goals rw [ran]

/-- A turn in which the file was given the configuration that the records have for it. -/
structure Turn.LooksUp (turn : Turn) (records : Table String (List Command))
    (defaults : BuildDefaults) : Prop where
  found : ∀ {name server}, turn.path = .path name → Database.serving? records name = some server →
    turn.config = (Database.configFrom records defaults server).toOption.map .library
  missed : ∀ {name}, turn.path = .path name → Database.serving? records name = none →
    turn.config = none ∧ turn.outcome = .error (.failure (.notConfigured name))
  settled : turn.config = none → turn.IsSettled

variable {id : DatabaseId} {records : Table String (List Command)}

theorem looksUp_of_take {path : String} {session left : Session} {turn : Turn}
    {defaults : BuildDefaults}
    (suits : frontEnd.Suits id) (basis : session.basis id = (some records, defaults))
    (available : ∀ fault, defaults.standard ≠ .unavailable fault)
    (looked : ∃ between, (getConfig (.path path)).runFrom session =
        ((Database.lookup records session.defaults path).map .library, between) ∧
      between.basis id = session.basis id)
    (taken : Turn.take frontEnd getConfig (.path path) session = (turn, left)) :
    turn.LooksUp records defaults ∧ left.basis id = (some records, defaults) := by
  obtain ⟨between, ran, same⟩ := looked
  have defaultsSame : session.defaults = defaults := congrArg (·.2) basis
  rw [defaultsSame] at ran
  cases made : Database.lookup records defaults path with
  | error stop =>
    rw [made] at ran
    rw [Turn.take_of_error ran] at taken
    cases taken
    refine ⟨⟨?_, ?_, ?_⟩, same.trans basis⟩
    · intro name server about served
      cases about
      rw [Database.lookup, served] at made
      simp only [made]
      rfl
    · intro name about served
      cases about
      rw [Database.lookup, served] at made
      cases made
      exact ⟨rfl, rfl⟩
    · intro _
      cases stop with
      | failure failure => exact Or.inr rfl
      | fault fault => exact absurd made (Database.ne_fault_of_lookup available)
  | ok config =>
    rw [made] at ran
    rcases parsed : (frontEnd.parse (.path path) (.library config)).runFrom between with
      ⟨outcome, after⟩
    rw [Turn.take_of_ok ran parsed] at taken
    cases taken
    have kept := (suits.keeps _ _).of_runFrom parsed
    refine ⟨⟨?_, ?_, ?_⟩, kept.trans (same.trans basis)⟩
    · intro name server about served
      cases about
      rw [Database.lookup, served] at made
      simp only [made]
      rfl
    · intro name about served
      cases about
      rw [Database.lookup, served] at made
      cases made
    · intro none
      cases none

/-- As long as the basis of the lookups stays, every turn looks up its file. -/
theorem looksUp_of_turnsOf {names : List String} {session : Session} {defaults : BuildDefaults}
    (suits : frontEnd.Suits id) (basis : session.basis id = (some records, defaults))
    (available : ∀ fault, defaults.standard ≠ .unavailable fault)
    (looks : ∀ name ∈ names, ∀ session : Session, session.records? id = some records →
      ∃ between, (getConfig (.path name)).runFrom session =
          ((Database.lookup records session.defaults name).map .library, between) ∧
        between.basis id = session.basis id)
    (taken : turnsOf frontEnd getConfig (names.map .path) session = (turns, final)) :
    ∀ turn ∈ turns, turn.LooksUp records defaults := by
  induction names generalizing session turns with
  | nil =>
    cases taken
    simp
  | cons name rest ih =>
    obtain ⟨turn, left, later, first, others, rfl⟩ := turnsOf_cons taken
    obtain ⟨now, kept⟩ := looksUp_of_take suits basis available
      (looks name List.mem_cons_self session (congrArg (·.1) basis)) first
    -- the next turn starts where the failure of this one has been written down
    have closed : (turn.close left).basis id = (some records, defaults) := by
      rw [← kept, Turn.close]
      cases turn.failure? with
      | none => rfl
      | some failed => rfl
    exact List.forall_mem_cons.mpr ⟨now,
      ih closed (fun name member => looks name (List.mem_cons_of_mem _ member)) others⟩

private theorem settled_of_looksUp {defaults : BuildDefaults}
    (looked : ∀ turn ∈ turns, turn.LooksUp records defaults)
    (parsed : ∀ turn ∈ turns, turn.config ≠ none → turn.IsSettled) :
    ∀ turn ∈ turns, turn.IsSettled := by
  intro turn member
  by_cases missing : turn.config = none
  · exact (looked turn member).settled missing
  · exact parsed turn member missing

/-- Nothing is lost and nothing is counted twice: a collecting batch attempts every file once and in
order, returns and keeps the roots, and adds the failures to the errors. Over a database, the files
without a record to serve them fail as not configured. -/
theorem every_file_accounted (collecting : batch.stopOnError = false) :
    (∀ frontEnd getConfig paths turns final,
      turnsOf frontEnd getConfig paths batch.session = (turns, final) →
      (∀ turn ∈ turns, turn.IsSettled) →
      Accounts batch paths turns final ((parseFilesWith frontEnd getConfig paths).runFrom batch)) ∧
    (∀ id, FrontEnd.library.Suits id) ∧
    ∀ frontEnd id records, FrontEnd.Suits frontEnd id → batch.session.records? id = some records →
      (∀ fault, batch.session.defaults.standard ≠ .unavailable fault) →
      (∀ (names : List String) turns final,
        turnsOf frontEnd (foundConfig id) (names.map .path) batch.session = (turns, final) →
        (∀ turn ∈ turns, turn.config ≠ none → turn.IsSettled) →
        (∀ turn ∈ turns, turn.LooksUp records batch.session.defaults) ∧
        Accounts batch (names.map .path) turns final
          ((parseFiles frontEnd id (names.map .path)).runFrom batch)) ∧
      ∀ turns final,
        turnsOf frontEnd (recordedConfig id) (records.keys.map .path) batch.session =
          (turns, final) →
        (∀ turn ∈ turns, turn.config ≠ none → turn.IsSettled) →
        (∀ turn ∈ turns, turn.LooksUp records batch.session.defaults) ∧
        Accounts batch (records.keys.map .path) turns
          (announced (turns.filterMap Turn.root?).length final)
          ((parseDatabase frontEnd id).runFrom batch) := by
  refine ⟨?_, FrontEnd.library_suits, ?_⟩
  · intro frontEnd getConfig paths turns final taken settled
    exact accounts_of_turnsOf collecting taken settled
  · intro frontEnd id records suits opened available
    have basis : batch.session.basis id = (some records, batch.session.defaults) := by
      rw [Session.basis, opened]
    constructor
    · intro names turns final taken parsed
      have looked := looksUp_of_turnsOf suits basis available
        (fun name _ session still => runFrom_foundConfig still name) taken
      rw [runFrom_parseFiles suits.usesLibrary]
      exact ⟨looked, accounts_of_turnsOf collecting taken (settled_of_looksUp looked parsed)⟩
    · intro turns final taken parsed
      have looked := looksUp_of_turnsOf suits basis available
        (fun name member session still =>
          runFrom_recordedConfig still (Table.contains_of_mem_keys member)) taken
      have settled := settled_of_looksUp looked parsed
      have accounts := accounts_of_turnsOf collecting taken settled
      have ran := runFrom_parseFilesWith collecting taken settled
      rw [runFrom_parseDatabase_of_ok suits.usesLibrary opened ran]
      rw [ran] at accounts
      exact ⟨looked, accounts.attempted, rfl, rfl, accounts.files, accounts.errors,
        accounts.balanced⟩

theorem every_file_accounted_sample :
    (∃ left, (parseFiles sampleFrontEnd 0 (sampleNames.map .path)).runFrom sample =
        (.ok [0, 1], left) ∧
      left.files = [7, 0, 1] ∧ left.errors = sample.errors ++ sampleFailures) ∧
    ∃ left, (parseDatabase sampleFrontEnd 0).runFrom sample = (.ok [0], left) ∧
      left.files = [7, 0] ∧ left.errors = sample.errors ++ [sampleFailure] := by
  have suits : sampleFrontEnd.Suits 0 := FrontEnd.ofStandIn_suits rfl 0
  have opened : sample.session.records? 0 = some sampleRecords := rfl
  have available : ∀ fault, sample.session.defaults.standard ≠ .unavailable fault := by
    intro fault same
    cases same
  have collecting : sample.stopOnError = false := rfl
  obtain ⟨overNames, overRecords⟩ :=
    (every_file_accounted collecting).2.2 sampleFrontEnd 0 sampleRecords suits opened available
  constructor
  · have parsed : ∀ turn ∈ (turnsOf sampleFrontEnd (foundConfig 0) (sampleNames.map .path)
        sample.session).1, turn.config ≠ none → turn.IsSettled := by
      decide +kernel
    have roots : (turnsOf sampleFrontEnd (foundConfig 0) (sampleNames.map .path)
        sample.session).1.filterMap Turn.root? = [0, 1] := by
      decide +kernel
    have failures : (turnsOf sampleFrontEnd (foundConfig 0) (sampleNames.map .path)
        sample.session).1.filterMap Turn.failure? = sampleFailures := by
      decide +kernel
    rcases taken : turnsOf sampleFrontEnd (foundConfig 0) (sampleNames.map .path) sample.session
      with ⟨turns, final⟩
    rw [taken] at parsed roots failures
    have reached := (overNames sampleNames turns final taken parsed).2.exists_left
    rwa [roots, failures] at reached
  · have parsed : ∀ turn ∈ (turnsOf sampleFrontEnd (recordedConfig 0)
        (sampleRecords.keys.map .path) sample.session).1,
        turn.config ≠ none → turn.IsSettled := by
      decide +kernel
    have roots : (turnsOf sampleFrontEnd (recordedConfig 0) (sampleRecords.keys.map .path)
        sample.session).1.filterMap Turn.root? = [0] := by
      decide +kernel
    have failures : (turnsOf sampleFrontEnd (recordedConfig 0) (sampleRecords.keys.map .path)
        sample.session).1.filterMap Turn.failure? = [sampleFailure] := by
      decide +kernel
    rcases taken : turnsOf sampleFrontEnd (recordedConfig 0) (sampleRecords.keys.map .path)
      sample.session with ⟨turns, final⟩
    rw [taken] at parsed roots failures
    have reached := (overRecords turns final taken parsed).2.exists_left
    rwa [roots, failures] at reached

end UnitLift.Batch
