import UnitLift.Proofs.Parse.Lifecycle

/-! Parsers that are used again. Whatever became of the calls before, a call that is taken up goes as it
would on a new parser, and one that is refused leaves the parser alone. -/

namespace UnitLift.Parser

open Work

variable {timeout : String} {session : Session} {path : String} {view : ConfigView}

/-- The parse of a file in which the library breaks down, in a stage and after it has `done` something
to all but the parser. -/
def breakDown (stage : Stage) (done : Preprocessed → Session → Session) (path : String)
    (view : ConfigView) : Work Session EntityId := do
  let preprocessed ← prepare path view
  Session.enter .parsing
  if (← get).parser.closed then Work.fault .indexReleased
  modify fun session =>
    { done preprocessed session with parser := { session.parser with stage } }
  Work.fault .parserCrashed

/-- What the library makes of a call that gets to it. -/
inductive Course where
  | answers
  | breaksDown (stage : Stage) (done : Preprocessed → Session → Session)

namespace Course

def parseFile : Course → String → ConfigView → Work Session EntityId
  | answers => Parser.parseFile
  | breaksDown stage done => breakDown stage done

def call (course : Course) : PathArgument → AnyConfig → Work Session EntityId :=
  callWith course.parseFile

end Course

/-- Sessions with a new parser, and what they come to by calls on it, however these end. All but the
parser may change between calls. -/
inductive Used (timeout : String) : Session → Prop
  | new {session : Session} (fresh : session.parser = { timeout }) : Used timeout session
  | outside {before after : Session} (used : Used timeout before)
      (same : after.parser = before.parser) : Used timeout after
  | call {before : Session} (used : Used timeout before) (course : Course) (path : String)
      (config : AnyConfig) : Used timeout ((course.call (.path path) config).runFrom before).2

/-- A parser that works with no child process, and gives each of them the same time. -/
def Idles (timeout : String) (session : Session) : Prop :=
  session.Alone ∧ session.parser.timeout = timeout

private theorem preserves_prepare (timeout path : String) (view : ConfigView) :
    Preserves (Idles timeout) (prepare path view) := by
  intro session idle
  rcases ran : (prepare path view).runFrom session with ⟨result, left⟩
  have kept : left.parser.timeout = session.parser.timeout :=
    congrArg (·.parser.timeout) (unwritten_of_prepare ran)
  have entered : Preserves Session.Alone (Session.enter .preprocessing) := fun _ alone => alone
  have said (message : String) : Preserves Session.Alone (Session.log .info .parser message) :=
    fun _ alone => alone
  have alone : Preserves Session.Alone (prepare path view) :=
    entered.bind fun _ => (said _).bind fun _ => Preprocessed.preserves_run path view
  have aloneLeft := alone session idle.1
  rw [ran] at aloneLeft
  exact ⟨aloneLeft, kept.trans idle.2⟩

private theorem preserves_breakDown (stage : Stage) (done : Preprocessed → Session → Session) :
    Preserves (Idles timeout) (breakDown stage done path view) := by
  apply (preserves_prepare timeout path view).bind
  intro preprocessed
  have entered : Preserves (Idles timeout) (Session.enter .parsing) := fun _ idle => idle
  apply entered.bind
  intro _
  apply Preserves.get_bind
  intro session
  have broken : Preserves (Idles timeout) (do
      modify fun session =>
        { done preprocessed session with parser := { session.parser with stage } }
      Work.fault .parserCrashed : Work Session EntityId) := fun _ idle => idle
  exact .ite (fun _ idle => idle) broken

private theorem idles_of_stage {before after : Session} {stage : Stage}
    (idle : Idles timeout before) (same : after.parser = { before.parser with stage }) :
    Idles timeout after := by
  rw [Idles, Session.Alone, same]
  exact idle

private theorem preserves_parseFile : Preserves (Idles timeout) (parseFile path view) := by
  intro session idle
  have prepared {result : Except Stop Preprocessed} {left : Session}
      (ran : (prepare path view).runFrom session = (result, left)) : Idles timeout left := by
    have idles := preserves_prepare timeout path view session idle
    rwa [ran] at idles
  have run := fileRun_parseFile path view session
  generalize (parseFile path view).runFrom session = ended at run ⊢
  obtain ⟨result, left⟩ := ended
  cases run with
  | unprepared ran => exact prepared ran
  | released ran _ same => exact idles_of_stage (prepared ran) (congrArg (·.parser) same)
  | unparsed ran _ _ parser => exact idles_of_stage (prepared ran) parser
  | lifted ran _ _ _ parser => exact idles_of_stage (prepared ran) parser

private theorem Course.preserves_parseFile (course : Course) (timeout path : String)
    (view : ConfigView) : Preserves (Idles timeout) (course.parseFile path view) := by
  cases course with
  | answers => exact Parser.preserves_parseFile
  | breaksDown stage done => exact preserves_breakDown stage done

/-- The parse of a file does not look at the stage in which it finds the parser. -/
private theorem Course.runFrom_parseFile_of_stage (course : Course) (path : String)
    (view : ConfigView) (stage : Stage) (session : Session) :
    (course.parseFile path view).runFrom
        { session with parser := { session.parser with stage } } =
      (course.parseFile path view).runFrom session := by
  cases course with
  | answers => rfl
  | breaksDown stage done => rfl

/-- Settling a call leaves the parser free, and does not touch what it does with child processes. -/
private theorem idles_settle {ended : Except Stop EntityId × Session}
    (idle : Idles timeout ended.2) :
    (settle ended).2.parser.busy = false ∧ Idles timeout (settle ended).2 := by
  rcases ended with ⟨(failure | fault) | root, left⟩
  · exact ⟨rfl, idle⟩
  · exact ⟨rfl, idle⟩
  · exact ⟨rfl, idle⟩

/-- A call that is not taken up, whatever the library would have made of it. -/
private theorem Course.runFrom_call_of_not {config : AnyConfig} (refused : ¬Admits session config)
    (course : Course) (path : PathArgument) :
    ∃ refusal, (course.call path config).runFrom session = (.error (.refused refusal), session) :=
  runFrom_callWith_of_not refused course.parseFile path

/-- Between calls a parser is free and waits for no child process. -/
theorem Used.idles (used : Used timeout session) :
    session.parser.busy = false ∧ Idles timeout session := by
  induction used with
  | new fresh => simp [Idles, Session.Alone, fresh]
  | outside _ same ih => simpa only [Idles, Session.Alone, same] using ih
  | @call before _ course path config ih =>
    obtain ⟨_, ran, calling⟩ := exists_calling course.parseFile before (.path path) config
    rw [Course.call, ran]
    cases calling with
    | refused => exact ih
    | settled =>
      exact idles_settle (course.preserves_parseFile timeout _ _ (begun before) ih.2)

/-- A session with another stage and another failure of the last call. -/
def recast (stage : Stage) (failure : Option Failure) (session : Session) : Session :=
  { session with parser := { session.parser with stage, failure } }

private theorem commutes_accept (stage : Stage) (failure : Option Failure) (path : PathArgument)
    (config : AnyConfig) : Commutes (recast stage failure) (accept path config) := by
  have stopped {α : Type} (stop : Stop) (next : Unit → Work Session α) :
      Commutes (recast stage failure) ((throw stop : Work Session Unit) >>= next) := fun _ => rfl
  rw [accept]
  apply (Commutes.ofExcept config.access).bind
  intro view
  apply Commutes.ite (stopped _ _)
  apply Commutes.get_bind
  intro session
  have last : Commutes (recast stage failure)
      (if session.parser.busy then do
          Work.refuse .parserBusy
          return view
        else return view : Work Session ConfigView) :=
    .ite (stopped _ _) (.pure view)
  exact Commutes.ite (stopped _ _) last session

/-- A call that is refused, or has no path, does the same in whatever stage it finds the parser. -/
private theorem Course.runFrom_call_recast {config : AnyConfig} {path : PathArgument}
    (course : Course) (stage : Stage) (failure : Option Failure)
    (untaken : ∀ text, path = .path text → ¬Admits session config) :
    (course.call path config).runFrom (recast stage failure session) =
      (((course.call path config).runFrom session).1,
        recast stage failure ((course.call path config).runFrom session).2) := by
  refine Commutes.bind_from (commutes_accept stage failure path config session) ?_
  intro view left accepted
  cases path with
  | other printed => rfl
  | path text =>
    obtain ⟨refusal, ran⟩ := runFrom_accept_of_not (untaken text rfl) (.path text)
    cases ran.symm.trans accepted

/-- A call that is taken up does the same in whatever stage it finds the parser. -/
private theorem Course.runFrom_call_of_admits {config : AnyConfig} (course : Course)
    (admitted : Admits session config) (path : String) (stage : Stage) (failure : Option Failure) :
    (course.call (.path path) config).runFrom (recast stage failure session) =
      (course.call (.path path) config).runFrom session := by
  cases config with
  | plain flags => exact admitted.elim
  | library config =>
    have admittedThere : Admits (recast stage failure session) (.library config) := admitted
    rw [call, runFrom_callWith admitted, runFrom_callWith admittedThere]
    exact congrArg settle (course.runFrom_parseFile_of_stage _ config.view stage (begun session))

/-- All that is left of a parser in use is the stage and the failure of the last call. -/
private theorem Used.renew (used : Used timeout session) (opened : session.parser.closed = false) :
    { session with parser := { timeout } } = recast .idle none session := by
  obtain ⟨free, alone, given⟩ := used.idles
  have parser : ({ timeout } : ParserStatus) =
      { session.parser with stage := .idle, failure := none } := by
    rw [ParserStatus.mk.injEq]
    exact ⟨rfl, rfl, free.symm, opened.symm, alone.symm, given.symm⟩
  rw [parser]
  rfl

/-- A call on a parser in use goes as it would on a new one. Only where the call is not taken up may
the two be left in different stages, and with different failures, namely those they had. -/
theorem call_of_used (used : Used timeout session) (opened : session.parser.closed = false)
    (course : Course) (path : PathArgument) (config : AnyConfig) :
    let fresh : Session := { session with parser := { timeout } }
    let call := course.call path config
    (call.runFrom session).1 = (call.runFrom fresh).1 ∧
      recast .idle none (call.runFrom session).2 = recast .idle none (call.runFrom fresh).2 ∧
      (∀ text, path = .path text → Admits session config →
        call.runFrom session = call.runFrom fresh) ∧
      (¬Admits session config → ∃ refusal,
        call.runFrom session = (.error (.refused refusal), session) ∧
          call.runFrom fresh = (.error (.refused refusal), fresh)) := by
  intro fresh call
  have same : fresh = recast .idle none session := used.renew opened
  have taken (text : String) (given : path = .path text) (admitted : Admits session config) :
      call.runFrom session = call.runFrom fresh := by
    subst given
    rw [same]
    exact (course.runFrom_call_of_admits admitted text .idle none).symm
  have untaken (unmoved : ∀ text, path = .path text → ¬Admits session config) :
      call.runFrom fresh =
        ((call.runFrom session).1, recast .idle none (call.runFrom session).2) := by
    rw [same]
    exact course.runFrom_call_recast .idle none unmoved
  have alike : (call.runFrom session).1 = (call.runFrom fresh).1 ∧
      recast .idle none (call.runFrom session).2 = recast .idle none (call.runFrom fresh).2 := by
    by_cases admitted : ∃ text, path = .path text ∧ Admits session config
    · obtain ⟨text, given, admitted⟩ := admitted
      rw [taken text given admitted]
      exact ⟨rfl, rfl⟩
    · rw [untaken fun text given admits => admitted ⟨text, given, admits⟩]
      exact ⟨rfl, rfl⟩
  refine ⟨alike.1, alike.2, taken, fun refused => ?_⟩
  obtain ⟨refusal, ran⟩ := Course.runFrom_call_of_not refused course path
  refine ⟨refusal, ran, ?_⟩
  rw [untaken fun _ _ => refused, ran, same]

private theorem used_retriedSample : Used "None" retriedSample :=
  .call (.new rfl) .answers "a.cpp" (.library (.blank BuildDefaults.sample.toolchain))

/-- A parser in use whose first call could not launch a child process, and on whose second call the
library broke down. -/
def crashedSample : Session :=
  ((Course.call (.breaksDown .lifting fun _ session => session) (.path "a.cpp")
    (.library (.blank BuildDefaults.sample.toolchain))).runFrom retriedSample).2

theorem call_of_used_sample :
    let config : AnyConfig := .library (.blank BuildDefaults.sample.toolchain)
    let fresh : Session := { crashedSample with parser := {} }
    crashedSample.parser.stage = .lifting ∧
      (parse (.path "a.cpp") config).runFrom crashedSample =
        (parse (.path "a.cpp") config).runFrom fresh ∧
      ((parse (.path "a.cpp") config).runFrom fresh).1 = .ok 0 := by
  intro config fresh
  have used : Used "None" crashedSample :=
    used_retriedSample.call (.breaksDown .lifting fun _ session => session) "a.cpp" config
  have opened : crashedSample.parser.closed = false := by decide +kernel
  have admitted : Admits crashedSample config := by decide +kernel
  obtain ⟨-, -, taken, -⟩ := call_of_used used opened .answers (.path "a.cpp") config
  refine ⟨by decide +kernel, taken "a.cpp" rfl admitted, by decide +kernel⟩

/-- A refused call leaves the failure of an earlier one. -/
theorem refused_of_used_sample :
    let call := parse (.path "a.cpp") (.plain [])
    let fresh : Session := { retriedSample with parser := {} }
    Used "None" retriedSample ∧ retriedSample.parser.closed = false ∧
      (call.runFrom retriedSample).2.parser.stage = .failed ∧
      (call.runFrom retriedSample).2.parser.failure.isSome = true ∧
      (call.runFrom fresh).2.parser.stage = .idle ∧
      (call.runFrom fresh).2.parser.failure = none := by
  intro call fresh
  exact ⟨used_retriedSample, by decide +kernel, by decide +kernel, by decide +kernel, by decide +kernel,
    by decide +kernel⟩

end UnitLift.Parser
