import UnitLift.Proofs.Database.Ownership

/-! Programs that use a loaded database and take its records over in any way. The database that is open
cannot be told from the one that was loaded, the others refuse to answer, and a walk over the files is
not disturbed by what is done on the way. -/

namespace UnitLift.Database

open Work

variable {session : Session} {id root : DatabaseId} {α β τ : Type}

/-- An operation on the session, done by a program that has a state of its own besides. -/
def onSession (work : Work Session α) : Work (Session × τ) α :=
  work.onPart Prod.fst fun session state => (session, state.2)

/-- A block that closes a database at its end, however it ends. -/
def closing (id : DatabaseId) (block : Work (Session × τ) α) : Work (Session × τ) α := do
  let result ← Work.outcome block
  onSession (close id)
  Work.ofExcept result

/-- Programs that use databases from the one of a number on in any way: what they do next may hang on
all that they have seen, and what they do with each file may be any such program. -/
inductive Client (root : DatabaseId) {τ : Type} : {α : Type} → Work (Session × τ) α → Prop
  | call {α : Type} {id : DatabaseId} (call : Call α) (family : root ≤ id) :
      Client root (onSession (call.perform id))
  /-- Whatever leaves the databases alone, a stop among it. -/
  | aside {α : Type} {work : Work (Session × τ) α}
      (keeps : Keeps (fun state => state.1.databases) work) : Client root work
  | bind {α β : Type} {work : Work (Session × τ) α} {next : α → Work (Session × τ) β}
      (first : Client root work) (second : ∀ value, Client root (next value)) :
      Client root (work >>= next)
  | outcome {α : Type} {work : Work (Session × τ) α} (client : Client root work) :
      Client root (Work.outcome work)
  | closing {α : Type} {id : DatabaseId} {block : Work (Session × τ) α} (family : root ≤ id)
      (client : Client root block) : Client root (closing id block)
  | forEachFile {id : DatabaseId} {callback : String → Work (Session × τ) Unit}
      (family : root ≤ id) (each : ∀ file, Client root (callback file)) :
      Client root (forEachFile (onSession (files id)) callback)

/-- However the operation ends, it leaves a later moment. -/
private def Advances (root : DatabaseId) (work : Work (Session × τ) α) : Prop :=
  ∀ state, Later root state.1 (work.runFrom state).2.1

namespace Advances

private theorem call (call : Call α) (family : root ≤ id) :
    Advances root (onSession (call.perform id) : Work (Session × τ) α) :=
  fun state => (Later.now state.1).call call family

private theorem aside {work : Work (Session × τ) α}
    (keeps : Keeps (fun state => state.1.databases) work) : Advances root work :=
  fun state => (Later.now state.1).aside (keeps state)

private theorem bind {work : Work (Session × τ) α} {next : α → Work (Session × τ) β}
    (first : Advances root work) (second : ∀ value, Advances root (next value)) :
    Advances root (work >>= next) := by
  intro state
  have between := first state
  rcases ran : work.runFrom state with ⟨stop | value, left⟩
  · rw [ran] at between
    rwa [runFrom_bind_of_error ran]
  · rw [ran] at between
    rw [runFrom_bind_of_ok ran]
    exact between.trans (second value left)

private theorem closing {block : Work (Session × τ) α} (family : root ≤ id)
    (advances : Advances root block) : Advances root (closing id block) := by
  have settled (result : Except Stop α) :
      Advances root (Work.ofExcept result : Work (Session × τ) α) := by
    cases result with
    | ok value => exact aside (.pure value)
    | error stop => exact aside (.throw stop)
  have tried : Advances root (Work.outcome block) := advances
  exact tried.bind fun result => (call .close family).bind fun _ => settled result

private theorem forEachFile {callback : String → Work (Session × τ) Unit} (family : root ≤ id)
    (each : ∀ file, Advances root (callback file)) :
    Advances root (forEachFile (onSession (files id)) callback) := by
  refine (call .files family).bind fun names => ?_
  induction names with
  | nil => exact aside (.pure ())
  | cons file rest ih => exact (each file).bind fun _ => ih

end Advances

theorem Client.later {work : Work (Session × τ) α} (client : Client root work)
    (state : Session × τ) : Later root state.1 (work.runFrom state).2.1 := by
  suffices advances : Advances root work from advances state
  induction client with
  | call call family => exact .call call family
  | aside keeps => exact .aside keeps
  | bind _ _ first second => exact first.bind second
  | outcome _ ih => exact ih
  | closing family _ ih => exact .closing family ih
  | forEachFile family _ ih => exact .forEachFile family ih

/-- A callback was called with files, one after the other, each call from what the one before left, and
with none after one that stopped. -/
inductive Visits {σ : Type} (callback : String → Work σ Unit) :
    List String → σ → Except Stop Unit × σ → Prop
  | done (state : σ) : Visits callback [] state (.ok (), state)
  | visited {file : String} {rest : List String} {state between : σ} {ended : Except Stop Unit × σ}
      (ran : (callback file).runFrom state = (.ok (), between))
      (others : Visits callback rest between ended) : Visits callback (file :: rest) state ended
  | stopped {file : String} {rest : List String} {state left : σ} {stop : Stop}
      (ran : (callback file).runFrom state = (.error stop, left)) :
      Visits callback (file :: rest) state (.error stop, left)

theorem visits_forM {σ : Type} (callback : String → Work σ Unit) (files : List String) (state : σ) :
    Visits callback files state ((files.forM callback).runFrom state) := by
  induction files generalizing state with
  | nil => exact .done state
  | cons file rest ih =>
    change Visits callback _ state ((callback file >>= fun _ => rest.forM callback).runFrom state)
    rcases ran : (callback file).runFrom state with ⟨stop | _, left⟩
    · rw [runFrom_bind_of_error ran]
      exact .stopped ran
    · rw [runFrom_bind_of_ok ran]
      exact .visited ran (ih left)

/-- What holds of databases from the one of a number on, which was loaded when a session started, at a
moment since then. -/
structure Exclusive (root : DatabaseId) (start now : Session) : Prop where
  single {first second : DatabaseId} : root ≤ first → root ≤ second →
    now.isOpen first = true → now.isOpen second = true → first = second
  /-- An open database answers as the one that was loaded. -/
  answers {id : DatabaseId} : root ≤ id → now.isOpen id = true → ∀ {α : Type} (call : Call α),
    call.isQuery = true → ((call.perform id).runFrom now).1 = ((call.perform root).runFrom start).1
  refuses {id : DatabaseId} : now.isOpen id = false → ∀ {α : Type} (call : Call α),
    call.needsRecords = true →
    (call.perform id).runFrom now = (.error (.refused .databaseReleased), now)
  copies (id : DatabaseId) : (copy id).runFrom now = (.error (.fault .databaseCopied), now)
  takes {id : DatabaseId} : root ≤ id → now.isOpen id = true →
    ∃ new left, (take id).runFrom now = (.ok new, left) ∧
      left.isOpen new = true ∧ left.isOpen id = false
  closes (id : DatabaseId) :
    ∃ left, (close id).runFrom now = (.ok (), left) ∧ left.isOpen id = false
  closed {id : DatabaseId} {later : Session} : id < now.databases.size → now.isOpen id = false →
    Later root now later → later.isOpen id = false
  /-- A callback is called with every file of the database that was loaded, in order and once, whatever
  it does to the databases. -/
  visits {id : DatabaseId} : root ≤ id → now.isOpen id = true →
    ∃ names, ((files root).runFrom start).1 = .ok names ∧ names.Nodup ∧
      ∀ {τ : Type} (callback : String → Work (Session × τ) Unit) (own : τ),
        Visits callback names (now, own)
          ((forEachFile (onSession (files id)) callback).runFrom (now, own))
  /-- Programs that use the databases lead to no other moments. -/
  advances {α τ : Type} {work : Work (Session × τ) α} : Client root work → ∀ own,
    Later root start (work.runFrom (now, own)).2.1

/-- The records of a loaded database have one owner at a time. -/
theorem exclusive_of_load {source : DatabaseSource} {start : Session}
    (loaded : (load source).runFrom session = (.ok root, start)) :
    start.isOpen root = true ∧ start.databases.size = root + 1 ∧
      ∀ now, Later root start now → Exclusive root start now := by
  obtain ⟨commands, -, opened, size⟩ := runFrom_load loaded
  refine ⟨by rw [Session.isOpen_eq, opened, Option.isSome_some], size, fun now later => ?_⟩
  have owned : Owned root (groupAll commands) now := (Owned.of_load opened size).later later
  constructor
  case single => exact fun family otherFamily => owned.single family otherFamily
  case answers =>
    intro id family open' α call query
    exact answer_congr (owned.records_of_open family open') opened call query
  case refuses =>
    intro id shut α call needs
    exact runFrom_of_closed (Session.isOpen_eq_false_iff.mp shut) call needs
  case copies => exact fun id => rfl
  case takes =>
    intro id family open'
    have known := owned.records_of_open family open'
    obtain ⟨left, ran, moved, -⟩ := runFrom_take_of_open known
    refine ⟨_, left, ran, ?_, ?_⟩
    · rw [Session.isOpen_eq, moved, Function.update_self, Option.isSome_some]
    · rw [Session.isOpen_eq_false_iff, moved,
        Function.update_of_ne (Nat.ne_of_lt (lt_size_of_open known)), Function.update_self]
  case closes =>
    intro id
    refine ⟨_, rfl, Session.isOpen_eq_false_iff.mpr ?_⟩
    exact (congrFun (records?_close now id) id).trans (Function.update_self _ _ _)
  case closed =>
    intro id after inside shut since
    have gone := since.closed inside (Session.isOpen_eq_false_iff.mp shut)
    exact Session.isOpen_eq_false_iff.mpr gone.2
  case visits =>
    intro id family open'
    refine ⟨(groupAll commands).keys, congrArg (·.1) (files_of_open opened),
      nodup_keys_groupAll commands, fun {τ} callback own => ?_⟩
    have given : (onSession (files id)).runFrom (now, own) =
        (.ok (groupAll commands).keys, (now, own)) :=
      congrArg (fun run => (run.1, (run.2, own)))
        (files_of_open (owned.records_of_open family open'))
    rw [forEachFile, runFrom_bind_of_ok given]
    exact visits_forM callback _ _
  case advances =>
    intro α τ work client own
    exact later.trans (client.later (now, own))

/-- The records are moved, and the new database is closed when the second file comes up. -/
theorem exclusive_of_load_sample :
    let start := ((load sampleSource).runFrom { defaults := .sample }).2
    let now := ((take 0).runFrom start).2
    let callback (file : String) : Work (Session × List String) Unit := do
      modify fun state => (state.1, state.2 ++ [file])
      if (← get).2.length == 2 then onSession (close 1)
    let run := (forEachFile (onSession (files 1)) callback).runFrom (now, [])
    (load sampleSource).runFrom { defaults := .sample } = (.ok 0, start) ∧
      ((commandsFor 1 (.path "/src/b.cpp")).runFrom now).1 =
        .ok [⟨"/src", ["clang++", "b.cpp"]⟩, ⟨"/", ["clang++", "-DB", "/src/b.cpp"]⟩] ∧
      (files 0).runFrom now = (.error (.refused .databaseReleased), now) ∧
      Visits callback ["/src/b.cpp", "/src/a.cpp"] (now, []) run ∧
      run.2.2 = ["/src/b.cpp", "/src/a.cpp"] ∧ run.2.1.isOpen 1 = false := by
  intro start now callback run
  have loaded : (load sampleSource).runFrom { defaults := .sample } = (.ok 0, start) := rfl
  have exclusive := (exclusive_of_load loaded).2.2 now
    ((Later.now start).call .take (Nat.le_refl 0))
  have opened : now.isOpen 1 = true := by decide
  obtain ⟨names, listed, -, visits⟩ := exclusive.visits (Nat.zero_le 1) opened
  refine ⟨loaded, ?_, exclusive.refuses (by decide) .files rfl, ?_, ?_⟩
  · exact (exclusive.answers (Nat.zero_le 1) opened (.commandsFor (.path "/src/b.cpp")) rfl).trans
      (by decide)
  · have known : names = ["/src/b.cpp", "/src/a.cpp"] := by
      cases listed.symm.trans rfl
      rfl
    exact known ▸ visits callback []
  · decide

end UnitLift.Database
