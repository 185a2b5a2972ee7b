import Mathlib.Logic.Function.Basic
import UnitLift.Proofs.Database.Grouping

/-! Who has the records of a loaded database. Whatever is done with it and with the databases that its
records were moved to, one of them at most is open and has the records; what is closed stays closed. -/

namespace UnitLift

def Session.isOpen (session : Session) (id : DatabaseId) : Bool :=
  session.databases[id]?.any Database.isOpen

theorem Session.isOpen_eq (session : Session) (id : DatabaseId) :
    session.isOpen id = (session.records? id).isSome := by
  rw [isOpen, records?]
  cases session.databases[id]? with
  | none => rfl
  | some database => rfl

theorem Session.isOpen_eq_false_iff {session : Session} {id : DatabaseId} :
    session.isOpen id = false ↔ session.records? id = none := by
  rw [isOpen_eq, Option.isSome_eq_false_iff, Option.isNone_iff_eq_none]

namespace Database

open Work

variable {session : Session} {id root : DatabaseId} {records : Table String (List Command)}
  {α β τ : Type}

/-- What may be done with a database. -/
inductive Call : Type → Type
  | hasConfig (file : PathArgument) : Call Bool
  | commandsFor (file : PathArgument) : Call (List Command)
  | files : Call (List String)
  | take : Call DatabaseId
  | close : Call Unit
  | copy : Call DatabaseId

namespace Call

def perform (id : DatabaseId) : Call α → Work Session α
  | hasConfig file => Database.hasConfig id file
  | commandsFor file => Database.commandsFor id file
  | files => Database.files id
  | take => Database.take id
  | close => Database.close id
  | copy => Database.copy id

/-- A call that only reads the records. -/
def isQuery : Call α → Bool
  | hasConfig _ | commandsFor _ | files => true
  | take | close | copy => false

/-- A call that cannot do without the records. -/
def needsRecords : Call α → Bool
  | hasConfig _ | commandsFor _ | files | take => true
  | close | copy => false

end Call

theorem runFrom_of_closed (closed : session.records? id = none) (call : Call α)
    (needs : call.needsRecords = true) :
    (call.perform id).runFrom session = (.error (.refused .databaseReleased), session) := by
  have refused := runFrom_recordsOf_of_closed closed
  cases call with
  | hasConfig file => exact runFrom_bind_of_error refused _
  | commandsFor file => exact runFrom_bind_of_error refused _
  | files => exact runFrom_bind_of_error refused _
  | take => exact runFrom_bind_of_error refused _
  | close => cases needs
  | copy => cases needs

/-- Open databases with the same records answer alike. -/
theorem answer_congr {other : Session} {otherId : DatabaseId}
    (opened : session.records? id = some records)
    (otherOpened : other.records? otherId = some records) (call : Call α)
    (query : call.isQuery = true) :
    ((call.perform id).runFrom session).1 = ((call.perform otherId).runFrom other).1 := by
  have given := runFrom_recordsOf_of_open opened
  have otherGiven := runFrom_recordsOf_of_open otherOpened
  cases call with
  | hasConfig file =>
    cases file with
    | path file =>
      obtain ⟨_, ran, -⟩ := runFrom_hasConfig opened file
      obtain ⟨_, otherRan, -⟩ := runFrom_hasConfig otherOpened file
      rw [Call.perform, Call.perform, ran, otherRan]
    | other printed =>
      have fault := runFrom_bind_of_ok given fun _ => (Work.fault .notAPath : Work Session Bool)
      have otherFault :=
        runFrom_bind_of_ok otherGiven fun _ => (Work.fault .notAPath : Work Session Bool)
      exact (congrArg (·.1) fault).trans (congrArg (·.1) otherFault).symm
  | commandsFor file =>
    rw [Call.perform, Call.perform, commandsFor, commandsFor, runFrom_bind_of_ok given,
      runFrom_bind_of_ok otherGiven]
    cases file <;> rfl
  | files =>
    rw [Call.perform, Call.perform, files, files, runFrom_bind_of_ok given,
      runFrom_bind_of_ok otherGiven]
    rfl
  | take => cases query
  | close => cases query
  | copy => cases query

theorem files_of_open (opened : session.records? id = some records) :
    (files id).runFrom session = (.ok records.keys, session) :=
  runFrom_bind_of_ok (runFrom_recordsOf_of_open opened) _

private theorem records?_congr {other : Session} (same : session.databases = other.databases) :
    session.records? = other.records? := by
  funext id
  rw [Session.records?, Session.records?, same]

theorem lt_size_of_open (opened : session.records? id = some records) :
    id < session.databases.size := by
  obtain ⟨database, found, -⟩ := Option.bind_eq_some_iff.mp opened
  exact (Array.getElem?_eq_some_iff.mp found).1

private theorem records?_of_released (session : Session) (id : DatabaseId) (database : Database)
    (released : database.records = none) :
    { session with databases := session.databases.setIfInBounds id database }.records? =
      Function.update session.records? id none := by
  funext other
  by_cases same : other = id
  · subst same
    rw [Function.update_self, Session.records?]
    simp only [Array.getElem?_setIfInBounds_self]
    split
    · exact released
    · rfl
  · rw [Function.update_of_ne same, Session.records?]
    simp only [Array.getElem?_setIfInBounds_ne (Ne.symm same)]
    rfl

private theorem records?_of_push (session : Session) (database : Database) :
    { session with databases := session.databases.push database }.records? =
      Function.update session.records? session.databases.size database.records := by
  funext other
  rw [Session.records?]
  simp only [Array.getElem?_push]
  by_cases same : other = session.databases.size
  · subst same
    simp
  · rw [Function.update_of_ne same]
    simp only [same, ↓reduceIte]
    rfl

theorem records?_close (session : Session) (id : DatabaseId) :
    ((close id).runFrom session).2.records? = Function.update session.records? id none :=
  records?_of_released session id _ rfl

theorem size_close (session : Session) (id : DatabaseId) :
    ((close id).runFrom session).2.databases.size = session.databases.size :=
  Array.size_setIfInBounds

/-- Records that are taken are those of a new database, and no longer those of the old one. -/
theorem runFrom_take_of_open (opened : session.records? id = some records) :
    ∃ left, (take id).runFrom session = (.ok session.databases.size, left) ∧
      left.records? = Function.update (Function.update session.records? id none)
        session.databases.size (some records) ∧
      left.databases.size = session.databases.size + 1 := by
  let between := ((close id).runFrom session).2
  let moved : Database :=
    { directory := (session.databases[id]?.getD absent).directory, records := some records }
  have size : between.databases.size = session.databases.size := size_close session id
  refine ⟨{ between with databases := between.databases.push moved }, ?_, ?_, ?_⟩
  · rw [take, runFrom_bind_of_ok (runFrom_recordsOf_of_open opened), ← size]
    rfl
  · rw [records?_of_push, records?_close, size]
  · rw [Array.size_push, size]

private theorem keeps_query (call : Call α) (query : call.isQuery = true) (id : DatabaseId) :
    Keeps Session.unqueried (call.perform id) := by
  cases call with
  | hasConfig file =>
    cases file with
    | other printed => exact (keeps_recordsOf _ id).bind fun _ => .throw _
    | path file =>
      intro session
      cases opened : session.records? id with
      | none => rw [runFrom_of_closed opened (.hasConfig (.path file)) rfl]
      | some records =>
        obtain ⟨left, ran, same⟩ := runFrom_hasConfig opened file
        rw [Call.perform, ran, same]
  | commandsFor file =>
    cases file with
    | other printed => exact (keeps_recordsOf _ id).bind fun _ => .throw _
    | path file => exact (keeps_recordsOf _ id).bind fun _ => .pure _
  | files => exact (keeps_recordsOf _ id).bind fun _ => .pure _
  | take | close | copy => cases query

/-- All that a call makes of the records: it leaves them where they are, releases those of its database,
or moves them to a new one. -/
theorem Call.perform_cases (call : Call α) (session : Session) (id : DatabaseId) :
    let left := ((call.perform id).runFrom session).2
    (left.records? = session.records? ∧ left.databases.size = session.databases.size) ∨
      (left.records? = Function.update session.records? id none ∧
        left.databases.size = session.databases.size) ∨
      ∃ records, session.records? id = some records ∧
        left.records? = Function.update (Function.update session.records? id none)
          session.databases.size (some records) ∧
        left.databases.size = session.databases.size + 1 := by
  intro left
  have answered (query : call.isQuery = true) :
      left.records? = session.records? ∧ left.databases.size = session.databases.size := by
    have same := keeps_query call query id session
    refine ⟨funext fun other => congrArg (·.1) (basis_of_unqueried same), ?_⟩
    simpa [Session.unqueried] using congrArg (·.databases.size) same
  cases call with
  | hasConfig | commandsFor | files => exact .inl (answered rfl)
  | copy => exact .inl ⟨rfl, rfl⟩
  | close => exact .inr (.inl ⟨records?_close session id, size_close session id⟩)
  | take =>
    cases opened : session.records? id with
    | none =>
      have same : left = session := congrArg (·.2) (runFrom_of_closed opened .take rfl)
      rw [same]
      exact .inl ⟨rfl, rfl⟩
    | some records =>
      obtain ⟨after, ran, moved, size⟩ := runFrom_take_of_open opened
      have same : left = after := congrArg (·.2) ran
      rw [same]
      exact .inr (.inr ⟨records, rfl, moved, size⟩)

/-- The later moments of databases, from the one of a number on, among which nothing but calls on them
has changed any. A database that is taken gets the next number, so that all of them were taken from the
first one or from each other. -/
inductive Later (root : DatabaseId) : Session → Session → Prop
  | now (session : Session) : Later root session session
  | call {start between : Session} {α : Type} {id : DatabaseId} (later : Later root start between)
      (call : Call α) (family : root ≤ id) :
      Later root start ((call.perform id).runFrom between).2
  | aside {start between left : Session} (later : Later root start between)
      (kept : left.databases = between.databases) : Later root start left

theorem Later.trans {start between left : Session} (first : Later root start between)
    (second : Later root between left) : Later root start left := by
  induction second with
  | now => exact first
  | call _ call family ih => exact ih.call call family
  | aside _ kept ih => exact ih.aside kept

/-- Of the databases from the one of a number on, one at most is open, and it has the given records. -/
def Owned (root : DatabaseId) (records : Table String (List Command)) (session : Session) : Prop :=
  ∃ owner : Option DatabaseId, ∀ id, root ≤ id →
    session.records? id = if owner = some id then some records else none

theorem Owned.records_of_open (owned : Owned root records session) (family : root ≤ id)
    (opened : session.isOpen id = true) : session.records? id = some records := by
  obtain ⟨owner, known⟩ := owned
  rw [Session.isOpen_eq, known id family] at opened
  rw [known id family]
  split at opened
  · rw [if_pos (by assumption)]
  · cases opened

theorem Owned.single {other : DatabaseId} (owned : Owned root records session)
    (family : root ≤ id) (otherFamily : root ≤ other) (opened : session.isOpen id = true)
    (otherOpened : session.isOpen other = true) : id = other := by
  have here := owned.records_of_open family opened
  have there := owned.records_of_open otherFamily otherOpened
  obtain ⟨owner, known⟩ := owned
  rw [known id family] at here
  rw [known other otherFamily] at there
  grind

private theorem Owned.perform (owned : Owned root records session) (call : Call α)
    (family : root ≤ id) : Owned root records ((call.perform id).runFrom session).2 := by
  obtain ⟨owner, known⟩ := owned
  rcases call.perform_cases session id with
    ⟨same, -⟩ | ⟨released, -⟩ | ⟨records', opened, moved, -⟩
  · exact ⟨owner, same ▸ known⟩
  · refine ⟨if owner = some id then none else owner, fun other inside => ?_⟩
    rw [released, Function.update_apply, known other inside]
    grind
  · have own : owner = some id ∧ records' = records := by
      rw [known id family] at opened
      grind
    refine ⟨some session.databases.size, fun other inside => ?_⟩
    rw [moved, Function.update_apply, Function.update_apply, known other inside]
    grind

theorem Owned.later {start now : Session} (later : Later root start now)
    (owned : Owned root records start) : Owned root records now := by
  induction later with
  | now => exact owned
  | call _ call family ih => exact ih.perform call family
  | aside _ kept ih =>
    obtain ⟨owner, known⟩ := ih
    exact ⟨owner, records?_congr kept ▸ known⟩

private theorem closed_perform (call : Call α) {other : DatabaseId}
    (inside : id < session.databases.size) (closed : session.records? id = none) :
    id < ((call.perform other).runFrom session).2.databases.size ∧
      ((call.perform other).runFrom session).2.records? id = none := by
  rcases call.perform_cases session other with
    ⟨same, size⟩ | ⟨released, size⟩ | ⟨records, -, moved, size⟩
  · rw [same, size]
    exact ⟨inside, closed⟩
  · rw [released, size, Function.update_apply]
    exact ⟨inside, by split <;> trivial⟩
  · rw [moved, size, Function.update_of_ne (Nat.ne_of_lt inside), Function.update_apply]
    exact ⟨Nat.lt_succ_of_lt inside, by split <;> trivial⟩

/-- A database that is closed is never opened again. -/
theorem Later.closed {start now : Session} (later : Later root start now)
    (inside : id < start.databases.size) (closed : start.records? id = none) :
    id < now.databases.size ∧ now.records? id = none := by
  induction later with
  | now => exact ⟨inside, closed⟩
  | call _ call _ ih => exact closed_perform call ih.1 ih.2
  | aside _ kept ih => rwa [kept, records?_congr kept]

theorem runFrom_load {source : DatabaseSource} {start : Session}
    (loaded : (load source).runFrom session = (.ok root, start)) :
    ∃ commands, source.commands = .ok commands ∧ start.records? root = some (groupAll commands) ∧
      start.databases.size = root + 1 := by
  cases found : source.files.contains source.commandFile with
  | false =>
    rw [load, found] at loaded
    cases loaded
  | true =>
    cases works : source.libraryWorks with
    | false =>
      rw [load, found, works] at loaded
      cases loaded
    | true =>
      cases given : source.commands with
      | error reason =>
        rw [load, found, works, given] at loaded
        cases loaded
      | ok commands =>
        obtain ⟨after, ran, opened, size⟩ := runFrom_load_of_ok found works given session
        cases ran.symm.trans loaded
        exact ⟨commands, rfl, opened, size⟩

theorem Owned.of_load (opened : session.records? root = some records)
    (size : session.databases.size = root + 1) : Owned root records session := by
  refine ⟨some root, fun id family => ?_⟩
  split
  · rename_i same
    cases same
    exact opened
  · rename_i apart
    have distinct : root ≠ id := fun same => apart (congrArg some same)
    have beyond : session.databases.size ≤ id := size ▸ Nat.lt_of_le_of_ne family distinct
    rw [Session.records?, Array.getElem?_eq_none beyond]
    rfl

end Database

end UnitLift
