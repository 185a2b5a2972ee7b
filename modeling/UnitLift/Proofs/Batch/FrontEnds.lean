import UnitLift.Proofs.Batch.Turns
import UnitLift.Proofs.Database.Lookup
import UnitLift.Proofs.Parse.Indifference

namespace UnitLift

open Work

/-- A front end that takes the configurations of a database and leaves its records alone. -/
structure FrontEnd.Suits (frontEnd : FrontEnd) (id : DatabaseId) : Prop where
  usesLibrary : frontEnd.usesLibrary = true
  keeps : ∀ path config, Keeps (Session.basis id) (frontEnd.parse path config)

private theorem keeps_basis {α : Type} {work : Work Session α} (indifferent : Indifferent work)
    (id : DatabaseId) : Keeps (Session.basis id) work :=
  indifferent.keeps_stored.comp fun stored => (stored.2[id]?.bind (·.records), stored.1)

theorem FrontEnd.library_suits (id : DatabaseId) : library.Suits id where
  usesLibrary := rfl
  keeps path config := keeps_basis (Parser.indifferent_parse path config) id

theorem FrontEnd.ofStandIn_suits {standIn : StandIn} (library : standIn.usesLibrary = true)
    (id : DatabaseId) : (ofStandIn standIn).Suits id where
  usesLibrary := library
  keeps path config := keeps_basis (standIn.indifferent_parse path config) id

namespace Batch

variable {frontEnd : FrontEnd} {id : DatabaseId} {batch left : Batch}

/-- A batch over a database does nothing with another front end. -/
theorem usesLibrary_of_requireLibrary {α : Type} {next : Unit → Work Batch α} {result : α}
    (ran : (requireLibrary frontEnd >>= next).runFrom batch = (.ok result, left)) :
    frontEnd.usesLibrary = true := by
  obtain ⟨_, _, required, -⟩ := of_runFrom_bind ran
  cases library : frontEnd.usesLibrary with
  | true => rfl
  | false =>
    rw [requireLibrary, library] at required
    cases required

theorem runFrom_parseFiles (library : frontEnd.usesLibrary = true) (paths : List PathArgument) :
    (parseFiles frontEnd id paths).runFrom batch =
      (parseFilesWith frontEnd (foundConfig id) paths).runFrom batch := by
  rw [parseFiles, requireLibrary, library]
  rfl

/-- A session in which it was announced how many files were parsed. -/
def announced (count : Nat) (session : Session) : Session :=
  { session with
    journal := session.journal.add
      ⟨.info, .batch, "Parsed " ++ toString count ++ " files from compilation database"⟩ }

variable {session : Session} {records : Table String (List Command)}

/-- A file is given the configuration of the one that serves it. -/
theorem runFrom_foundConfig (opened : session.records? id = some records) (file : String) :
    ∃ left, (foundConfig id (.path file)).runFrom session =
        ((Database.lookup records session.defaults file).map .library, left) ∧
      left.basis id = session.basis id := by
  obtain ⟨left, ran, same⟩ := Database.runFrom_findConfig opened file
  refine ⟨left, ?_, same⟩
  rw [foundConfig, Database.lookup]
  cases served : Database.serving? records file with
  | none =>
    rw [served] at ran
    exact runFrom_bind_of_ok ran _
  | some server =>
    rw [served] at ran
    cases made : Database.configFrom records session.defaults server with
    | error stop =>
      simp only [made] at ran ⊢
      exact runFrom_bind_of_error ran _
    | ok config =>
      simp only [made] at ran ⊢
      exact runFrom_bind_of_ok ran _

theorem runFrom_recordedConfig (opened : session.records? id = some records) {file : String}
    (known : records.contains file = true) :
    ∃ left, (recordedConfig id (.path file)).runFrom session =
        ((Database.lookup records session.defaults file).map .library, left) ∧
      left.basis id = session.basis id := by
  obtain ⟨left, ran, same⟩ := Database.runFrom_configOf opened known
  rw [Database.lookup, Database.serving?_of_contains known]
  exact ⟨left, runFrom_bind_pure ran _, same⟩

private theorem runFrom_parseDatabase (library : frontEnd.usesLibrary = true)
    (opened : batch.session.records? id = some records) :
    (parseDatabase frontEnd id).runFrom batch = (do
      let roots ← parseFilesWith frontEnd (recordedConfig id) (records.keys.map .path)
      onSession (Session.log .info .batch
        ("Parsed " ++ toString roots.length ++ " files from compilation database"))
      return roots : Work Batch (List EntityId)).runFrom batch := by
  have named : (onSession (Database.files id)).runFrom batch = (.ok records.keys, batch) := by
    apply runFrom_onSession
    rw [Database.files, runFrom_bind_of_ok (Database.runFrom_recordsOf_of_open opened),
      runFrom_pure]
  rw [parseDatabase, requireLibrary, library]
  exact runFrom_bind_of_ok named _

/-- A batch over all of a database has a result only if the database is open. -/
theorem of_runFrom_parseDatabase {roots : List EntityId}
    (ran : (parseDatabase frontEnd id).runFrom batch = (.ok roots, left)) :
    ∃ records finished, frontEnd.usesLibrary = true ∧
      batch.session.records? id = some records ∧
      (parseFilesWith frontEnd (recordedConfig id) (records.keys.map .path)).runFrom batch =
        (.ok roots, finished) ∧
      left = { finished with session := announced roots.length finished.session } := by
  have library := usesLibrary_of_requireLibrary ran
  cases opened : batch.session.records? id with
  | none =>
    have refused : (onSession (Database.files id)).runFrom batch =
        (.error (.refused .databaseReleased), batch) :=
      runFrom_onSession (runFrom_bind_of_error (Database.runFrom_recordsOf_of_closed opened) _)
    rw [parseDatabase, requireLibrary, library] at ran
    have stopped := (runFrom_bind_of_error refused _).symm.trans ran
    cases stopped
  | some records =>
    rw [runFrom_parseDatabase library opened] at ran
    obtain ⟨found, finished, parsed, announces⟩ := of_runFrom_bind ran
    cases announces
    exact ⟨records, finished, library, rfl, parsed, rfl⟩

theorem runFrom_parseDatabase_of_ok (library : frontEnd.usesLibrary = true)
    (opened : batch.session.records? id = some records) {roots : List EntityId}
    (ran : (parseFilesWith frontEnd (recordedConfig id) (records.keys.map .path)).runFrom batch =
      (.ok roots, left)) :
    (parseDatabase frontEnd id).runFrom batch =
      (.ok roots, { left with session := announced roots.length left.session }) := by
  rw [runFrom_parseDatabase library opened, runFrom_bind_of_ok ran]
  rfl

theorem runFrom_parseDatabase_of_error (library : frontEnd.usesLibrary = true)
    (opened : batch.session.records? id = some records) {stop : Stop}
    (ran : (parseFilesWith frontEnd (recordedConfig id) (records.keys.map .path)).runFrom batch =
      (.error stop, left)) :
    (parseDatabase frontEnd id).runFrom batch = (.error stop, left) := by
  rw [runFrom_parseDatabase library opened, runFrom_bind_of_error ran]

def sampleRecords : Table String (List Command) := ⟨[("/src/a.cpp", []), ("/src/c.cpp", [])]⟩

/-- A batch that goes on after an earlier one, over a database with two files. -/
def sample : Batch where
  session :=
    { defaults := .sample
      databases := #[{ directory := "/src", records := some sampleRecords }] }
  stopOnError := false
  files := [7]
  errors := [("/src/old.cpp", .notConfigured "/src/old.cpp")]

def sampleFrontEnd : FrontEnd := .ofStandIn { failing := ["/src/c.cpp"] }

/-- Files with a record or a sibling, one without, and one that cannot be parsed, twice. -/
def sampleNames : List String :=
  ["/src/a.hpp", "/src/c.cpp", "/src/b.cpp", "/src/a.cpp", "/src/c.cpp"]

def sampleFailure : String × Failure :=
  ("/src/c.cpp", .parsing (.stated "fatal error while parsing '/src/c.cpp'" (some "/src/c.cpp")))

def sampleFailures : List (String × Failure) :=
  [sampleFailure, ("/src/b.cpp", .notConfigured "/src/b.cpp"), sampleFailure]

end Batch

end UnitLift
