import UnitLift.Parse.Parser
import UnitLift.Proofs.Session

namespace UnitLift.Parser

open Work

variable {session : Session}

/-- A parser takes up a call if the configuration is meant for it and names a compiler, and if it is
neither closed nor busy. -/
def Admits (session : Session) : AnyConfig → Prop
  | .library config =>
    config.name = CompileConfig.libraryName ∧ config.binary ≠ "" ∧
      session.parser.closed = false ∧ session.parser.busy = false
  | .plain _ => False

instance (session : Session) : (config : AnyConfig) → Decidable (Admits session config)
  | .library config =>
    inferInstanceAs (Decidable (config.name = CompileConfig.libraryName ∧ config.binary ≠ "" ∧
      session.parser.closed = false ∧ session.parser.busy = false))
  | .plain _ => .isFalse id

/-- What a parser is told about a configuration that is meant for it. -/
theorem access_of_name {config : CompileConfig} (meant : config.name = CompileConfig.libraryName) :
    AnyConfig.access (.library config) = .ok config.view := by
  rw [AnyConfig.access, meant]
  rfl

/-- A configuration is meant for the parser and names a compiler. -/
def Suits : AnyConfig → Prop
  | .library config => config.name = CompileConfig.libraryName ∧ config.binary ≠ ""
  | .plain _ => False

theorem admits_iff {config : AnyConfig} :
    Admits session config ↔
      Suits config ∧ session.parser.closed = false ∧ session.parser.busy = false := by
  cases config with
  | plain flags => simp [Admits, Suits]
  | library config => simp only [Admits, Suits, and_assoc]

/-- A suitable configuration is refused only by a parser that is closed or busy. -/
theorem runFrom_accept_of_suits {config : CompileConfig} (suits : Suits (.library config))
    (path : PathArgument) :
    (accept path (.library config)).runFrom session =
      (if session.parser.closed then .error (.refused .parserClosed)
        else if session.parser.busy then .error (.refused .parserBusy)
        else .ok config.view, session) := by
  obtain ⟨meant, compiler⟩ := suits
  have named : config.view.binary.isEmpty = false := by
    simpa [CompileConfig.view] using compiler
  rw [accept, access_of_name meant, runFrom_bind_of_ok (runFrom_ofExcept_ok _ _)]
  simp only [named, Bool.false_eq_true, ↓reduceIte]
  rw [runFrom_bind_of_ok (runFrom_get session)]
  cases session.parser.closed with
  | true => rfl
  | false =>
    cases session.parser.busy with
    | true => rfl
    | false => rfl

/-- An unsuitable configuration is refused before the parser is looked at. -/
theorem runFrom_accept_of_not_suits {config : AnyConfig} (unfit : ¬Suits config)
    (path : PathArgument) :
    ∃ refusal, (accept path config).runFrom session = (.error (.refused refusal), session) ∧
      refusal ≠ .parserBusy := by
  cases config with
  | plain flags => exact ⟨_, rfl, nofun⟩
  | library config =>
    by_cases meant : config.name = CompileConfig.libraryName
    · have compiler : config.binary = "" :=
        Decidable.of_not_not fun compiler => unfit ⟨meant, compiler⟩
      have unnamed : config.view.binary.isEmpty = true := by
        simpa [CompileConfig.view] using compiler
      rw [accept, access_of_name meant, runFrom_bind_of_ok (runFrom_ofExcept_ok _ _)]
      simp only [unnamed, ↓reduceIte]
      exact ⟨_, rfl, nofun⟩
    · have access : AnyConfig.access (.library config) =
          .error (.refused (.foreignConfiguration config.name)) := by
        rw [AnyConfig.access, if_neg (by simpa using meant)]
      rw [accept, access]
      exact ⟨_, rfl, nofun⟩

theorem runFrom_accept {config : CompileConfig} (admitted : Admits session (.library config))
    (path : PathArgument) :
    (accept path (.library config)).runFrom session = (.ok config.view, session) := by
  obtain ⟨suits, opened, free⟩ := admits_iff.mp admitted
  simp [runFrom_accept_of_suits suits, opened, free]

/-- A call that is not taken up is refused, and changes nothing. -/
theorem runFrom_accept_of_not {config : AnyConfig} (refused : ¬Admits session config)
    (path : PathArgument) :
    ∃ refusal, (accept path config).runFrom session = (.error (.refused refusal), session) := by
  by_cases suits : Suits config
  · cases config with
    | plain flags => exact suits.elim
    | library config =>
      rw [runFrom_accept_of_suits suits]
      cases closed : session.parser.closed with
      | true => exact ⟨_, rfl⟩
      | false =>
        cases busy : session.parser.busy with
        | true => exact ⟨_, rfl⟩
        | false => exact absurd (admits_iff.mpr ⟨suits, closed, busy⟩) refused
  · obtain ⟨refusal, ran, -⟩ := runFrom_accept_of_not_suits suits path
    exact ⟨refusal, ran⟩

/-- The session in which a file is parsed: its parser is busy, and the last failure is forgotten. -/
def begun (session : Session) : Session :=
  { session with parser := { session.parser with busy := true, failure := none } }

/-- What a call makes of the parse of its file: the parser is free again, and has the stage and the
failure of the call unless it was interrupted by a fault. -/
def settle : Except Stop EntityId × Session → Except Stop EntityId × Session
  | (.ok root, left) =>
    (.ok root, { left with parser := { left.parser with stage := .done, busy := false } })
  | (.error (.failure failure), left) =>
    (.error (.failure failure),
      { left with
        parser := { left.parser with stage := .failed, failure := some failure, busy := false } })
  | (.error (.fault fault), left) =>
    (.error (.fault fault), { left with parser := { left.parser with busy := false } })

@[simp] theorem busy_settle (ended : Except Stop EntityId × Session) :
    (settle ended).2.parser.busy = false := by
  rcases ended with ⟨(failure | fault) | root, left⟩
  · rfl
  · rfl
  · rfl

theorem eq_of_settle_failure {result : Except Stop EntityId} {after left : Session}
    {failure : Failure} (settled : settle (result, after) = (.error (.failure failure), left)) :
    result = .error (.failure failure) ∧ left = { after with
      parser := { after.parser with stage := .failed, failure := some failure, busy := false } } := by
  rcases result with (_ | _) | _
  · cases settled
    exact ⟨rfl, rfl⟩
  · cases settled
  · cases settled

theorem eq_of_settle_ok {result : Except Stop EntityId} {after left : Session} {root : EntityId}
    (settled : settle (result, after) = (.ok root, left)) :
    result = .ok root ∧
      left = { after with parser := { after.parser with stage := .done, busy := false } } := by
  rcases result with (_ | _) | _
  · cases settled
  · cases settled
  · cases settled
    exact ⟨rfl, rfl⟩

/-- A call on a parser with some way to parse a file. -/
def callWith (parseFile : String → ConfigView → Work Session EntityId) (path : PathArgument)
    (config : AnyConfig) : Work Session EntityId := do
  let view ← accept path config
  Session.modifyParser ({ · with busy := true })
  match path with
  | .other _ => Work.fault .notAPath
  | .path path =>
    let path ← Session.absolutePath path
    Session.modifyParser ({ · with failure := none })
    match ← Work.outcome (parseFile path view) with
    | .ok root =>
      Session.modifyParser ({ · with stage := .done, busy := false })
      return root
    | .error (.failure failure) =>
      Session.modifyParser ({ · with stage := .failed, failure := some failure, busy := false })
      Work.fail failure
    | .error stop =>
      Session.modifyParser ({ · with busy := false })
      throw stop

theorem callWith_parseFile : callWith parseFile = parse := rfl

/-- A call with what is no path comes to a fault once it is taken up. -/
theorem runFrom_callWith_other {config : CompileConfig} (admitted : Admits session (.library config))
    (parseFile : String → ConfigView → Work Session EntityId) (printed : String) :
    (callWith parseFile (.other printed) (.library config)).runFrom session =
      (.error (.fault .notAPath),
        { session with parser := { session.parser with busy := true } }) := by
  rw [callWith, runFrom_bind_of_ok (runFrom_accept admitted _),
    runFrom_bind_of_ok (Session.runFrom_modifyParser _ _)]
  rfl

theorem runFrom_parse_other {config : CompileConfig} (admitted : Admits session (.library config))
    (printed : String) :
    (parse (.other printed) (.library config)).runFrom session = (.error (.fault .notAPath),
      { session with parser := { session.parser with busy := true } }) :=
  runFrom_callWith_other admitted parseFile printed

theorem runFrom_callWith {config : CompileConfig} (admitted : Admits session (.library config))
    (parseFile : String → ConfigView → Work Session EntityId) (path : String) :
    (callWith parseFile (.path path) (.library config)).runFrom session =
      settle ((parseFile (Path.absolute session.world.currentDirectory path) config.view).runFrom
        (begun session)) := by
  rw [callWith, runFrom_bind_of_ok (runFrom_accept admitted _),
    runFrom_bind_of_ok (Session.runFrom_modifyParser _ _)]
  simp only
  rw [runFrom_bind_of_ok (Session.runFrom_absolutePath _ _),
    runFrom_bind_of_ok (Session.runFrom_modifyParser _ _), runFrom_bind_of_ok (runFrom_outcome _ _)]
  simp only [begun]
  rcases (parseFile (Path.absolute session.world.currentDirectory path) config.view).runFrom _
    with ⟨(failure | fault) | root, left⟩
  · rfl
  · rfl
  · rfl

theorem runFrom_parse {config : CompileConfig} (admitted : Admits session (.library config))
    (path : String) :
    (parse (.path path) (.library config)).runFrom session =
      settle ((parseFile (Path.absolute session.world.currentDirectory path) config.view).runFrom
        (begun session)) :=
  runFrom_callWith admitted parseFile path

theorem runFrom_callWith_of_not {config : AnyConfig} (refused : ¬Admits session config)
    (parseFile : String → ConfigView → Work Session EntityId) (path : PathArgument) :
    ∃ refusal, (callWith parseFile path config).runFrom session =
      (.error (.refused refusal), session) := by
  obtain ⟨refusal, ran⟩ := runFrom_accept_of_not refused path
  exact ⟨refusal, runFrom_bind_of_error ran _⟩

/-- How a call goes: it is refused, it comes to a fault for want of a path, or it is settled by the
parse of its file. -/
inductive Calling (parseFile : String → ConfigView → Work Session EntityId) (session : Session) :
    PathArgument → AnyConfig → Except Stop EntityId × Session → Prop
  | refused {path : PathArgument} {config : AnyConfig} (untaken : ¬Admits session config)
      (refusal : Refusal) :
      Calling parseFile session path config (.error (.refused refusal), session)
  | pathless {config : CompileConfig} (admitted : Admits session (.library config))
      (printed : String) :
      Calling parseFile session (.other printed) (.library config)
        (.error (.fault .notAPath),
          { session with parser := { session.parser with busy := true } })
  | settled {config : CompileConfig} (admitted : Admits session (.library config))
      (path : String) :
      Calling parseFile session (.path path) (.library config)
        (settle ((parseFile (Path.absolute session.world.currentDirectory path)
          config.view).runFrom (begun session)))

theorem exists_calling (parseFile : String → ConfigView → Work Session EntityId)
    (session : Session) (path : PathArgument) (config : AnyConfig) :
    ∃ ended, (callWith parseFile path config).runFrom session = ended ∧
      Calling parseFile session path config ended := by
  by_cases admitted : Admits session config
  · cases config with
    | plain flags => exact admitted.elim
    | library config =>
      cases path with
      | other printed =>
        exact ⟨_, runFrom_callWith_other admitted parseFile printed, .pathless admitted printed⟩
      | path path => exact ⟨_, runFrom_callWith admitted parseFile path, .settled admitted path⟩
  · obtain ⟨refusal, ran⟩ := runFrom_callWith_of_not admitted parseFile path
    exact ⟨_, ran, .refused admitted refusal⟩

theorem runFrom_parse_of_not {config : AnyConfig} (refused : ¬Admits session config)
    (path : PathArgument) :
    ∃ refusal, (parse path config).runFrom session = (.error (.refused refusal), session) :=
  runFrom_callWith_of_not refused parseFile path

end UnitLift.Parser
