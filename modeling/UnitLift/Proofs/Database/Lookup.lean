import UnitLift.Database.Lookup
import UnitLift.Proofs.Compile.Calls
import UnitLift.Proofs.Session

namespace UnitLift

def Session.records? (session : Session) (id : DatabaseId) :
    Option (Table String (List Command)) := do
  (← session.databases[id]?).records

/-- A session in which a database was asked about more files. -/
def Session.asking (id : DatabaseId) (files : List String) (session : Session) : Session :=
  { session with
    databases := session.databases.modify id fun database =>
      { database with asked := database.asked ++ files } }

/-- A session without what was said and what its databases were asked. -/
def Session.unsearched (session : Session) : Session := session.unqueried.unsaid

/-- What the configurations from a database are made of. -/
def Session.basis (id : DatabaseId) (session : Session) :
    Option (Table String (List Command)) × BuildDefaults :=
  (session.records? id, session.defaults)

namespace Database

open Work

variable {session : Session} {id : DatabaseId} {records : Table String (List Command)}

/-- The recorded file that serves a file. -/
def serving? (records : Table String (List Command)) (file : String) : Option String :=
  (file :: candidates file).find? records.contains

/-- The configuration that is recorded for a file. -/
def configFrom (records : Table String (List Command)) (defaults : BuildDefaults) (file : String)
    (toolchain : Option Toolchain := none) : Except Stop CompileConfig :=
  (CompileConfig.fresh defaults toolchain).map fun fresh =>
    (Takeover.ofCommands fresh ((records.get? file).getD [])).config

/-- The configuration that a file is given: that of the recorded file that serves it. -/
def lookup (records : Table String (List Command)) (defaults : BuildDefaults) (file : String) :
    Except Stop CompileConfig :=
  match serving? records file with
  | some server => configFrom records defaults server
  | none => .error (.failure (.notConfigured file))

private theorem ne_fault_of_resolve {choice : StandardChoice} {fault : Fault}
    (available : ∀ fault, choice ≠ .unavailable fault) : choice.resolve ≠ .error (.fault fault) := by
  intro same
  cases choice with
  | standard chosen => cases same
  | unavailable cause => exact available cause rfl
  | token text =>
    rw [StandardChoice.resolve] at same
    cases read : Standard.ofToken? text with
    | none =>
      rw [read] at same
      cases same
    | some chosen =>
      rw [read] at same
      cases same

/-- There is no configuration only where there is no standard for a fresh one. -/
theorem configFrom_eq_error_iff {defaults : BuildDefaults} {file : String}
    {toolchain : Option Toolchain} {stop : Stop} :
    configFrom records defaults file toolchain = .error stop ↔
      defaults.standard.resolve = .error stop := by
  rw [configFrom, CompileConfig.fresh_eq, Option.getD_none]
  cases defaults.standard.resolve with
  | ok standard => exact ⟨nofun, nofun⟩
  | error cause => simp only [Except.map, Except.error.injEq]

/-- A file is not left without a configuration for a fault, unless the defaults cannot be had. -/
theorem ne_fault_of_lookup {defaults : BuildDefaults} {file : String} {fault : Fault}
    (available : ∀ fault, defaults.standard ≠ .unavailable fault) :
    lookup records defaults file ≠ .error (.fault fault) := by
  intro same
  rw [lookup] at same
  cases served : serving? records file with
  | none =>
    rw [served] at same
    cases same
  | some server =>
    rw [served] at same
    exact ne_fault_of_resolve available (configFrom_eq_error_iff.mp same)

private theorem runFrom_find (session : Session) (id : DatabaseId) :
    (find id).runFrom session = (.ok (session.databases[id]?.getD absent), session) := rfl

theorem runFrom_recordsOf_of_open (opened : session.records? id = some records) :
    (recordsOf id).runFrom session = (.ok records, session) := by
  obtain ⟨database, found, known⟩ := Option.bind_eq_some_iff.mp opened
  rw [recordsOf, runFrom_bind_of_ok (runFrom_find session id), found]
  simp only [Option.getD_some, known, runFrom_pure]

theorem runFrom_recordsOf_of_closed (closed : session.records? id = none) :
    (recordsOf id).runFrom session = (.error (.refused .databaseReleased), session) := by
  have released : (session.databases[id]?.getD absent).records = none := by
    cases found : session.databases[id]? with
    | none => rfl
    | some database =>
      rw [Session.records?, found] at closed
      exact closed
  rw [recordsOf, runFrom_bind_of_ok (runFrom_find session id), released]
  rfl

theorem asking_nil (session : Session) : session.asking id [] = session := by
  have same : session.databases.modify id (fun database =>
      { database with asked := database.asked ++ [] }) = session.databases := by
    apply Array.ext (by simp)
    intro number _ _
    simp [Array.getElem_modify]
  rw [Session.asking, same]

theorem asking_asking (session : Session) (first second : List String) :
    (session.asking id first).asking id second = session.asking id (first ++ second) := by
  simp only [Session.asking, Session.mk.injEq, true_and, and_true]
  apply Array.ext (by simp)
  intro number _ _
  simp only [Array.getElem_modify]
  split <;> simp

theorem unqueried_asking (session : Session) (files : List String) :
    (session.asking id files).unqueried = session.unqueried := by
  simp only [Session.unqueried, Session.asking, Session.mk.injEq, true_and, and_true]
  apply Array.ext (by simp)
  intro number _ _
  simp only [Array.getElem_map, Array.getElem_modify]
  split <;> rfl

/-- Asking whether a file is recorded is noted in the database, and nothing else changes. -/
theorem runFrom_hasConfig_of_open (opened : session.records? id = some records) (file : String) :
    (hasConfig id (.path file)).runFrom session =
      (.ok (records.contains file), session.asking id [file]) := by
  obtain ⟨database, found, known⟩ := Option.bind_eq_some_iff.mp opened
  obtain ⟨inside, same⟩ := Array.getElem?_eq_some_iff.mp found
  let noted : Database := { database with asked := database.asked ++ [file] }
  have asked : { session with databases := session.databases.setIfInBounds id noted } =
      session.asking id [file] := by
    simp only [Session.asking, Session.mk.injEq, true_and, and_true]
    apply Array.ext (by simp)
    intro number _ _
    grind
  rw [hasConfig, runFrom_bind_of_ok (runFrom_recordsOf_of_open opened)]
  change ((find id) >>= _).runFrom session = _
  rw [runFrom_bind_of_ok (runFrom_find session id), found, Option.getD_some, ← asked]
  rfl

theorem runFrom_hasConfig (opened : session.records? id = some records) (file : String) :
    ∃ left, (hasConfig id (.path file)).runFrom session = (.ok (records.contains file), left) ∧
      left.unqueried = session.unqueried :=
  ⟨_, runFrom_hasConfig_of_open opened file, unqueried_asking session [file]⟩

theorem basis_unqueried (session : Session) : session.unqueried.basis id = session.basis id := by
  have records : session.unqueried.records? id = session.records? id := by
    simp only [Session.records?, Session.unqueried, Array.getElem?_map]
    cases session.databases[id]? with
    | none => rfl
    | some database => rfl
  rw [Session.basis, records]
  rfl

theorem basis_of_unqueried {before after : Session} (same : after.unqueried = before.unqueried) :
    after.basis id = before.basis id := by
  rw [← basis_unqueried, same, basis_unqueried]

theorem basis_of_unsaid {before after : Session} (same : after.unsaid = before.unsaid) :
    after.basis id = before.basis id := by
  change after.unsaid.basis id = before.unsaid.basis id
  rw [same]

/-- What makes a configuration of the commands recorded for a file. -/
def describe (file : String) (commands : List Command) (toolchain : Option Toolchain := none) :
    Work Session CompileConfig := do
  let fresh ← Work.ofExcept (CompileConfig.fresh (← get).defaults toolchain)
  let takeover := Takeover.ofCommands fresh commands
  takeover.unknownStandards.forM fun standard =>
    Session.log .warning .compileConfig
      ("Ignoring unsupported standard '-std=" ++ standard ++ "' from compilation database")
  Session.log .debug .compileConfig
    ("Configuration for " ++ file ++ " from database: " ++
      Text.quotedList takeover.config.arguments)
  return takeover.config

private theorem runFrom_describe (file : String) (commands : List Command)
    (toolchain : Option Toolchain) (session : Session) :
    ∃ left, (describe file commands toolchain).runFrom session =
        ((CompileConfig.fresh session.defaults toolchain).map fun fresh =>
          (Takeover.ofCommands fresh commands).config, left) ∧
      left.unsaid = session.unsaid := by
  rw [describe, runFrom_bind_of_ok (runFrom_get session)]
  cases CompileConfig.fresh session.defaults toolchain with
  | error stop => exact ⟨session, rfl, rfl⟩
  | ok fresh =>
    obtain ⟨_, warned, ranWarn, unsaid⟩ := Session.passes_logs .warning .compileConfig
      (fun standard => "Ignoring unsupported standard '-std=" ++ standard ++
        "' from compilation database")
      (Takeover.ofCommands fresh commands).unknownStandards session
    obtain ⟨_, left, ranLog, quiet⟩ := Session.passes_log .debug .compileConfig
      ("Configuration for " ++ file ++ " from database: " ++
        Text.quotedList (Takeover.ofCommands fresh commands).config.arguments)
      warned
    refine ⟨left, ?_, quiet.trans unsaid⟩
    rw [runFrom_bind_of_ok (runFrom_ofExcept_ok fresh session), runFrom_bind_of_ok ranWarn,
      runFrom_bind_of_ok ranLog]
    rfl

theorem unsearched_of_asking {left : Session} {files : List String}
    (same : left.unsaid = (session.asking id files).unsaid) :
    left.unsearched = session.unsearched := by
  change left.unsaid.unqueried = session.unsaid.unqueried
  rw [same]
  exact unqueried_asking session.unsaid files

theorem basis_asking (session : Session) (files : List String) :
    (session.asking id files).basis id = session.basis id :=
  basis_of_unqueried (unqueried_asking session files)

theorem records?_asking (opened : session.records? id = some records) (files : List String) :
    (session.asking id files).records? id = some records :=
  (congrArg (·.1) (basis_asking session files)).trans opened

/-- A recorded file is asked about, and its commands are described. -/
theorem runFrom_configOf_of_known (opened : session.records? id = some records) {file : String}
    (known : records.contains file = true) (toolchain : Option Toolchain := none) :
    (configOf id (.path file) toolchain).runFrom session =
      (describe file ((records.get? file).getD []) toolchain).runFrom (session.asking id [file]) := by
  have knows := runFrom_hasConfig_of_open opened file
  have still := records?_asking opened [file]
  generalize session.asking id [file] = asked at knows still
  rw [known] at knows
  rw [configOf, runFrom_bind_of_ok knows]
  simp only [Bool.not_true, Bool.false_eq_true, ↓reduceIte]
  rw [runFrom_bind_of_ok (runFrom_get asked), describe, runFrom_bind_of_ok (runFrom_get asked)]
  cases CompileConfig.fresh asked.defaults toolchain with
  | error stop => rfl
  | ok fresh =>
    have commands : (commandsFor id (.path file)).runFrom asked =
        (.ok ((records.get? file).getD []), asked) := by
      rw [commandsFor, runFrom_bind_of_ok (runFrom_recordsOf_of_open still)]
      rfl
    rw [runFrom_bind_of_ok (runFrom_ofExcept_ok fresh asked), runFrom_bind_of_ok commands,
      runFrom_bind_of_ok (runFrom_ofExcept_ok fresh asked)]
    rfl

theorem runFrom_configOf_describe (opened : session.records? id = some records) {file : String}
    (known : records.contains file = true) (toolchain : Option Toolchain := none) :
    ∃ asked, asked.unqueried = session.unqueried ∧
      (configOf id (.path file) toolchain).runFrom session =
        (describe file ((records.get? file).getD []) toolchain).runFrom asked :=
  ⟨_, unqueried_asking session [file], runFrom_configOf_of_known opened known toolchain⟩

theorem runFrom_configOf_asking (opened : session.records? id = some records) {file : String}
    (known : records.contains file = true) (toolchain : Option Toolchain := none) :
    ∃ left, (configOf id (.path file) toolchain).runFrom session =
        (configFrom records session.defaults file toolchain, left) ∧
      left.unsaid = (session.asking id [file]).unsaid := by
  rw [runFrom_configOf_of_known opened known toolchain]
  exact runFrom_describe file _ toolchain (session.asking id [file])

/-- The configuration of a recorded file, and nothing else, if a fresh one can be made. -/
theorem runFrom_configOf (opened : session.records? id = some records) {file : String}
    (known : records.contains file = true) (toolchain : Option Toolchain := none) :
    ∃ left, (configOf id (.path file) toolchain).runFrom session =
        (configFrom records session.defaults file toolchain, left) ∧
      left.basis id = session.basis id := by
  obtain ⟨left, ran, unsaid⟩ := runFrom_configOf_asking opened known toolchain
  exact ⟨left, ran, (basis_of_unsaid unsaid).trans (basis_asking session [file])⟩

/-- Names that are not recorded are asked about and passed over. -/
private theorem runFrom_firstRecorded_append (opened : session.records? id = some records)
    {before : List String} (unknown : ∀ name ∈ before, records.contains name = false)
    (rest : List String) :
    (firstRecorded id (before ++ rest)).runFrom session =
      (firstRecorded id rest).runFrom (session.asking id before) := by
  induction before generalizing session with
  | nil => rw [asking_nil, List.nil_append]
  | cons name before ih =>
    have knows := runFrom_hasConfig_of_open opened name
    rw [unknown name List.mem_cons_self] at knows
    rw [List.cons_append, firstRecorded, runFrom_bind_of_ok knows]
    simp only [Bool.false_eq_true, ↓reduceIte]
    rw [ih (records?_asking opened [name])
      fun other member => unknown other (List.mem_cons_of_mem _ member), asking_asking]
    rfl

theorem contains_of_serving? {file server : String} (served : serving? records file = some server) :
    records.contains server = true :=
  List.find?_some served

theorem serving?_of_contains {file : String} (known : records.contains file = true) :
    serving? records file = some file := by
  rw [serving?, List.find?_cons, known]

/-- The name of a file that is not recorded need not be tried again. -/
theorem serving?_of_not {file : String} (unknown : records.contains file = false) :
    serving? records file = ((candidates file).filter (· != file)).find? records.contains := by
  have apart (name : String) :
      decide ((name != file) = true ∧ records.contains name = true) = records.contains name := by
    by_cases same : name = file
    · rw [same, unknown]
      simp
    · simp [same]
  rw [serving?, List.find?_cons_of_neg (by simp [unknown]), List.find?_filter]
  simp only [apart]

/-- The names under which a file is looked up: its own and those of its siblings. -/
def tried (file : String) : List String := file :: (candidates file).filter (· != file)

theorem serving?_eq_find?_tried (records : Table String (List Command)) (file : String) :
    serving? records file = (tried file).find? records.contains := by
  rw [tried, List.find?_cons]
  cases known : records.contains file with
  | true => rw [serving?_of_contains known]
  | false => rw [serving?_of_not known]

/-- A file that no recorded one serves has been asked for under all its names. -/
theorem runFrom_findConfig_of_unknown (opened : session.records? id = some records) {file : String}
    (unknown : ∀ name ∈ tried file, records.contains name = false) :
    ∃ left, (findConfig id (.path file)).runFrom session = (.ok none, left) ∧
      left.unsaid = (session.asking id (tried file)).unsaid := by
  obtain ⟨own, siblings⟩ := List.forall_mem_cons.mp unknown
  have knows := runFrom_hasConfig_of_open opened file
  rw [own] at knows
  have tries := runFrom_firstRecorded_append (records?_asking opened [file]) siblings []
  rw [List.append_nil, asking_asking] at tries
  obtain ⟨_, left, ranLog, unsaid⟩ := Session.passes_log .debug .lookup
    ("No configuration found for " ++ file) (session.asking id (tried file))
  have name : (PathArgument.path file).printed = file := rfl
  refine ⟨left, ?_, unsaid⟩
  rw [findConfig, runFrom_bind_of_ok knows]
  simp only [Bool.false_eq_true, ↓reduceIte, name]
  rw [runFrom_bind_of_ok tries]
  exact runFrom_bind_of_ok ranLog _

private theorem runFrom_findConfig_configOf (opened : session.records? id = some records)
    {file server : String} {before after : List String} (split : tried file = before ++ server :: after)
    (unknown : ∀ name ∈ before, records.contains name = false)
    (known : records.contains server = true) :
    ∃ between, between.unsaid = (session.asking id (before ++ [server])).unsaid ∧
      (findConfig id (.path file)).runFrom session =
        (configOf id (.path server) >>= fun config => pure (some config)).runFrom between := by
  have knows := runFrom_hasConfig_of_open opened file
  rw [findConfig, runFrom_bind_of_ok knows]
  cases before with
  | nil =>
    obtain ⟨rfl, -⟩ := List.cons.inj split
    rw [known]
    exact ⟨_, rfl, rfl⟩
  | cons first before =>
    obtain rfl : file = first := (List.cons.inj split).1
    have siblings : (candidates file).filter (· != file) = before ++ server :: after :=
      (List.cons.inj split).2
    obtain ⟨own, others⟩ := List.forall_mem_cons.mp unknown
    have opens := records?_asking opened [file]
    have tries := runFrom_firstRecorded_append opens others (server :: after)
    have found := runFrom_hasConfig_of_open (records?_asking opens before) server
    rw [known] at found
    rw [firstRecorded, runFrom_bind_of_ok found, asking_asking, asking_asking] at tries
    simp only [↓reduceIte, runFrom_pure] at tries
    obtain ⟨_, between, ranLog, unsaid⟩ := Session.passes_log .debug .lookup
      ("Using configuration of " ++ server ++ " for " ++ file)
      (session.asking id (file :: before ++ [server]))
    have name : (PathArgument.path file).printed = file := rfl
    refine ⟨between, unsaid, ?_⟩
    simp only [own, Bool.false_eq_true, ↓reduceIte, name, siblings]
    rw [runFrom_bind_of_ok tries]
    exact runFrom_bind_of_ok ranLog _

/-- The names up to the first that is recorded have been asked for when its configuration is taken, for
which it is asked for once more. -/
theorem runFrom_findConfig_of_known (opened : session.records? id = some records)
    {file server : String} {before after : List String} (split : tried file = before ++ server :: after)
    (unknown : ∀ name ∈ before, records.contains name = false)
    (known : records.contains server = true) :
    ∃ between left, between.unsaid = (session.asking id (before ++ [server])).unsaid ∧
      (configOf id (.path server)).runFrom between =
        (configFrom records session.defaults server, left) ∧
      (findConfig id (.path file)).runFrom session =
        ((configFrom records session.defaults server).map some, left) ∧
      left.unsaid = (session.asking id (before ++ [server, server])).unsaid := by
  obtain ⟨between, asked, ran⟩ := runFrom_findConfig_configOf opened split unknown known
  have kept : between.basis id = session.basis id :=
    (basis_of_unsaid asked).trans (basis_asking session _)
  have defaults : between.defaults = session.defaults := congrArg (·.2) kept
  obtain ⟨left, lifted, again⟩ :=
    runFrom_configOf_asking ((congrArg (·.1) kept).trans opened) known
  have twice : (session.asking id (before ++ [server])).asking id [server] =
      session.asking id (before ++ [server, server]) := by
    rw [asking_asking, List.append_assoc, List.singleton_append]
  rw [defaults] at lifted
  refine ⟨between, left, asked, lifted, ran.trans (runFrom_bind_pure lifted some), ?_⟩
  rw [again, ← twice]
  exact congrArg (Session.asking id [server]) asked

/-- A file that is served is given what the configuration of its server comes to. -/
theorem runFrom_findConfig_of_served (opened : session.records? id = some records)
    {file server : String} (served : serving? records file = some server) :
    ∃ between left asked, between.basis id = session.basis id ∧
      (configOf id (.path server)).runFrom between =
        (configFrom records session.defaults server, left) ∧
      (findConfig id (.path file)).runFrom session =
        ((configFrom records session.defaults server).map some, left) ∧
      left.unsaid = (session.asking id asked).unsaid := by
  rw [serving?_eq_find?_tried] at served
  obtain ⟨known, before, after, split, unknown⟩ := List.find?_eq_some_iff_append.mp served
  obtain ⟨between, left, asked, lifted, ran, again⟩ :=
    runFrom_findConfig_of_known opened split (by simpa using unknown) known
  have kept : between.basis id = session.basis id :=
    (basis_of_unsaid asked).trans (basis_asking session _)
  exact ⟨between, left, _, kept, lifted, ran, again⟩

private theorem runFrom_findConfig_asking (opened : session.records? id = some records)
    (file : String) :
    ∃ left asked, (findConfig id (.path file)).runFrom session =
        (match serving? records file with
          | some server => (configFrom records session.defaults server).map some
          | none => .ok none, left) ∧
      left.unsaid = (session.asking id asked).unsaid := by
  cases served : serving? records file with
  | none =>
    have unknown : ∀ name ∈ tried file, records.contains name = false := by
      rw [serving?_eq_find?_tried, List.find?_eq_none] at served
      simpa using served
    obtain ⟨left, ran, unsaid⟩ := runFrom_findConfig_of_unknown opened unknown
    exact ⟨left, _, ran, unsaid⟩
  | some server =>
    obtain ⟨_, left, asked, -, -, ran, unsaid⟩ := runFrom_findConfig_of_served opened served
    exact ⟨left, asked, ran, unsaid⟩

theorem runFrom_findConfig (opened : session.records? id = some records) (file : String) :
    ∃ left, (findConfig id (.path file)).runFrom session =
        (match serving? records file with
          | some server => (configFrom records session.defaults server).map some
          | none => .ok none, left) ∧
      left.basis id = session.basis id := by
  obtain ⟨left, asked, ran, unsaid⟩ := runFrom_findConfig_asking opened file
  exact ⟨left, ran, (basis_of_unsaid unsaid).trans (basis_asking session asked)⟩

theorem keeps_recordsOf {τ : Type} (view : Session → τ) (id : DatabaseId) :
    Keeps view (recordsOf id) := by
  intro session
  cases opened : session.records? id with
  | none => rw [runFrom_recordsOf_of_closed opened]
  | some records => rw [runFrom_recordsOf_of_open opened]

/-- Only an open database can tell whether a file is recorded, and only of a path. -/
private theorem hasConfig_cases (session : Session) (id : DatabaseId) (file : PathArgument) :
    (∃ stop, (hasConfig id file).runFrom session = (.error stop, session)) ∨
      ∃ records path, session.records? id = some records ∧ file = .path path := by
  cases opened : session.records? id with
  | none => exact .inl ⟨_, runFrom_bind_of_error (runFrom_recordsOf_of_closed opened) _⟩
  | some records =>
    cases file with
    | path path => exact .inr ⟨records, path, rfl, rfl⟩
    | other printed => exact .inl ⟨_, runFrom_bind_of_ok (runFrom_recordsOf_of_open opened) _⟩

/-- What was said, and what databases were asked, is all that a lookup changes. -/
theorem keeps_findConfig (id : DatabaseId) (file : PathArgument) :
    Keeps Session.unsearched (findConfig id file) := by
  intro session
  rcases hasConfig_cases session id file with ⟨stop, stopped⟩ | ⟨records, path, opened, rfl⟩
  · rw [findConfig, runFrom_bind_of_error stopped]
  · obtain ⟨left, asked, ran, unsaid⟩ := runFrom_findConfig_asking opened path
    rw [ran]
    exact unsearched_of_asking unsaid

theorem keeps_configOf (id : DatabaseId) (file : PathArgument) :
    Keeps Session.unsearched (configOf id file) := by
  intro session
  rcases hasConfig_cases session id file with ⟨stop, stopped⟩ | ⟨records, path, opened, rfl⟩
  · rw [configOf, runFrom_bind_of_error stopped]
  · cases known : records.contains path with
    | true =>
      obtain ⟨left, ran, unsaid⟩ := runFrom_configOf_asking opened known
      rw [ran]
      exact unsearched_of_asking unsaid
    | false =>
      have knows := runFrom_hasConfig_of_open opened path
      rw [known] at knows
      rw [configOf, runFrom_bind_of_ok knows]
      exact unsearched_of_asking rfl

end Database

end UnitLift
