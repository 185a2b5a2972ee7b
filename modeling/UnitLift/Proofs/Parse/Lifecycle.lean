import UnitLift.Proofs.Compile.Calls
import UnitLift.Proofs.Parse.File

namespace UnitLift.Parser

open Work

variable {session left : Session} {path : String} {config : AnyConfig}
  {result : Except Stop EntityId}

/-- The first stage of a call that is taken up. -/
def preparation (session : Session) (path : String) (view : ConfigView) :
    Except Stop Preprocessed × Session :=
  (prepare (Path.absolute session.world.currentDirectory path) view).runFrom (begun session)

/-- If the preprocessor stops a call, then by a failure. -/
def Quiet (session : Session) (path : String) (config : AnyConfig) : Prop :=
  ∀ view fault, config.access = .ok view →
    (preparation session path view).1 ≠ .error (.fault fault)

/-- A call finds the parser closed once it has preprocessed its file. -/
def ClosedMidway (session : Session) (path : String) (config : AnyConfig) : Prop :=
  Admits session config ∧ ∃ view preprocessed prepared, config.access = .ok view ∧
    preparation session path view = (.ok preprocessed, prepared) ∧ prepared.parser.closed = true

/-- Sessions with a new parser, and what they come to by calls on it. All but the parser may change
between calls. A parser may be closed while a child process of a call is running, but then the call
does not get through with preprocessing. -/
inductive Reached : Session → Prop
  | new {session : Session} (timeout : String) (fresh : session.parser = { timeout }) :
      Reached session
  | outside {before after : Session} (reached : Reached before)
      (same : after.parser = before.parser) : Reached after
  | parse {before after : Session} {path : String} {config : AnyConfig}
      {result : Except Stop EntityId} (reached : Reached before) (quiet : Quiet before path config)
      (kept : ¬ClosedMidway before path config)
      (ran : (Parser.parse (.path path) config).runFrom before = (result, after)) : Reached after
  | parseOther {before after : Session} {printed : String} {config : AnyConfig}
      {result : Except Stop EntityId} (reached : Reached before)
      (ran : (Parser.parse (.other printed) config).runFrom before = (result, after)) :
      Reached after
  | close {before after : Session} {result : Except Stop Unit} (reached : Reached before)
      (ran : Parser.close.runFrom before = (result, after)) : Reached after

/-- How a call ends: it is refused, or gives a root, or fails. -/
inductive CallEnd (session : Session) (config : AnyConfig) :
    Except Stop EntityId → Session → Prop
  | refused {refusal : Refusal} (refused : ¬Admits session config) :
      CallEnd session config (.error (.refused refusal)) session
  | done {root : EntityId} {left : Session} (stage : left.parser.stage = .done)
      (failure : left.parser.failure = none) : CallEnd session config (.ok root) left
  | failed {failure : Failure} {left : Session} (stage : left.parser.stage = .failed)
      (kept : left.parser.failure = some failure) :
      CallEnd session config (.error (.failure failure)) left

private theorem quiet_of_view {config : CompileConfig}
    (calm : ∀ fault, (preparation session path config.view).1 ≠ .error (.fault fault)) :
    Quiet session path (.library config) := by
  intro view fault access
  rw [AnyConfig.access] at access
  split at access
  · cases access
    exact calm fault
  · cases access

private theorem kept_of_view {config : CompileConfig}
    (opened : (preparation session path config.view).2.parser.closed = false) :
    ¬ClosedMidway session path (.library config) := by
  rintro ⟨admitted, view, preprocessed, prepared, access, first, closed⟩
  cases (access_of_name admitted.1).symm.trans access
  rw [first] at opened
  exact Bool.false_ne_true (opened.symm.trans closed)

private theorem quiet_of_isOk {config : CompileConfig}
    (ready : (preparation session path config.view).1.isOk = true) :
    Quiet session path (.library config) := by
  apply quiet_of_view
  intro fault stopped
  rw [stopped] at ready
  cases ready

private theorem failure_of_prepare {view : ConfigView} {first : Except Stop Preprocessed}
    (ran : (prepare path view).runFrom session = (first, left)) :
    left.parser.failure = session.parser.failure :=
  congrArg (·.parser.failure) (unwritten_of_prepare ran)

theorem FileRun.failure_eq {view : ConfigView} (run : FileRun path view session result left) :
    left.parser.failure = session.parser.failure := by
  cases run with
  | unprepared ran => exact failure_of_prepare ran
  | released ran _ same =>
    have unset := failure_of_prepare ran
    rw [same, ← unset]
  | unparsed ran _ _ parser =>
    have unset := failure_of_prepare ran
    rw [parser, ← unset]
  | lifted ran _ _ _ parser =>
    have unset := failure_of_prepare ran
    rw [parser, ← unset]

/-- A call that is taken up, by whether it finds the parser closed. -/
private theorem ends_of_admits (admitted : Admits session config)
    (quiet : Quiet session path config)
    (ran : (Parser.parse (.path path) config).runFrom session = (result, left)) :
    (¬ClosedMidway session path config → CallEnd session config result left) ∧
      (ClosedMidway session path config → result = .error (.fault .indexReleased) ∧
        left.parser.stage = .parsing ∧ left.parser.failure = none) := by
  cases config with
  | plain flags => exact admitted.elim
  | library config =>
    have access := access_of_name admitted.1
    have midway : ClosedMidway session path (.library config) → ∃ preprocessed prepared,
        preparation session path config.view = (.ok preprocessed, prepared) ∧
          prepared.parser.closed = true := by
      rintro ⟨-, view, preprocessed, prepared, same, first, closed⟩
      cases access.symm.trans same
      exact ⟨preprocessed, prepared, first, closed⟩
    obtain ⟨outcome, after, run, settled⟩ := exists_fileRun admitted path
    have unset := run.failure_eq
    rw [settled] at ran
    cases run with
    | @unprepared stop _ first =>
      constructor
      · intro _
        cases stop with
        | failure failure =>
          cases ran
          exact .failed rfl rfl
        | fault fault => exact absurd (congrArg (·.1) first) (quiet _ fault access)
      · intro closedMidway
        obtain ⟨_, _, again, _⟩ := midway closedMidway
        cases again.symm.trans first
    | released first closed same =>
      cases ran
      refine ⟨fun still => absurd ⟨admitted, _, _, _, access, first, closed⟩ still, fun _ => ?_⟩
      refine ⟨rfl, ?_, unset⟩
      rw [same]
    | unparsed first opened =>
      cases ran
      refine ⟨fun _ => .failed rfl rfl, fun closedMidway => ?_⟩
      obtain ⟨_, _, again, closed⟩ := midway closedMidway
      cases again.symm.trans first
      simp [opened] at closed
    | lifted first opened =>
      cases ran
      refine ⟨fun _ => .done rfl unset, fun closedMidway => ?_⟩
      obtain ⟨_, _, again, closed⟩ := midway closedMidway
      cases again.symm.trans first
      simp [opened] at closed

private theorem stage_of_parseOther {printed : String}
    (ran : (Parser.parse (.other printed) config).runFrom session = (result, left)) :
    left.parser.stage = session.parser.stage := by
  obtain ⟨_, again, calling⟩ := exists_calling parseFile session (.other printed) config
  obtain rfl := again.symm.trans ran
  cases calling with
  | refused => rfl
  | pathless => rfl

private theorem stage_of_close {closing : Except Stop Unit}
    (ran : Parser.close.runFrom session = (closing, left)) :
    left.parser.stage = session.parser.stage :=
  congrArg (·.1.parser.stage) ((Child.passes_closeParser none).keeps.of_runFrom ran)

/-- No call leaves a parser in the midst of its work. -/
theorem Reached.stage (reached : Reached session) :
    session.parser.stage = .idle ∨ session.parser.stage = .done ∨
      session.parser.stage = .failed := by
  induction reached with
  | new timeout fresh => exact .inl (by rw [fresh])
  | outside _ same ih => rwa [same]
  | @parse before after path config _ _ quiet kept ran ih =>
    by_cases admitted : Admits before config
    · cases (ends_of_admits admitted quiet ran).1 kept with
      | refused refused => exact ih
      | done stage _ => exact .inr (.inl stage)
      | failed stage _ => exact .inr (.inr stage)
    · obtain ⟨refusal, unmoved⟩ := runFrom_parse_of_not admitted (.path path)
      cases unmoved.symm.trans ran
      exact ih
  | parseOther _ ran ih => rwa [stage_of_parseOther ran]
  | close _ ran ih => rwa [stage_of_close ran]

/-- A call on a parser in use gives a root or fails, and its stage and failure tell which, if the
preprocessor raises no faults. A call that finds the parser closed halfway is the exception: that is
a fault, and leaves the parser as if it were still parsing. -/
theorem ends_of_reached (reached : Reached session) (quiet : Quiet session path config)
    (ran : (Parser.parse (.path path) config).runFrom session = (result, left)) :
    (¬ClosedMidway session path config → CallEnd session config result left ∧
      (left.parser.stage = .idle ∨ left.parser.stage = .done ∨ left.parser.stage = .failed)) ∧
    (ClosedMidway session path config → result = .error (.fault .indexReleased) ∧
      left.parser.stage = .parsing ∧ left.parser.failure = none) := by
  refine ⟨fun kept => ⟨?_, (reached.parse quiet kept ran).stage⟩, fun closedMidway => ?_⟩
  · by_cases admitted : Admits session config
    · exact (ends_of_admits admitted quiet ran).1 kept
    · obtain ⟨refusal, unmoved⟩ := runFrom_parse_of_not admitted (.path path)
      cases unmoved.symm.trans ran
      exact .refused admitted
  · exact (ends_of_admits closedMidway.1 quiet ran).2 closedMidway

/-- A session with a new parser, whose first call cannot launch its child process. -/
def retrySample : Session :=
  { defaults := .sample
    world :=
      { currentDirectory := "/src"
        children := [.refused "No such file or directory",
          .runs { stdout := "# 1 \"/src/a.cpp\"\nint a;\n" }]
        units := [.unit [] [⟨3, "first", {}⟩]] } }

def retriedSample : Session :=
  ((parse (.path "a.cpp") (.library (.blank BuildDefaults.sample.toolchain))).runFrom
    retrySample).2

theorem ends_of_retried_sample :
    let config : AnyConfig := .library (.blank BuildDefaults.sample.toolchain)
    retriedSample.parser.stage = .failed ∧
      ∃ left, (parse (.path "a.cpp") config).runFrom retriedSample = (.ok 0, left) ∧
        left.parser.stage = .done ∧ left.parser.failure = none := by
  intro config
  let view := (CompileConfig.blank BuildDefaults.sample.toolchain).view
  have refused : (preparation retrySample "a.cpp" view).1 =
      .error (.failure (.preprocessing
        (.notLaunched "/usr/bin/clang++" "No such file or directory"))) := by
    decide +kernel
  have kept : ¬ClosedMidway retrySample "a.cpp" config := kept_of_view (by decide +kernel)
  have quiet : Quiet retrySample "a.cpp" config := quiet_of_view fun _ => by rw [refused]; simp
  have reached : Reached retriedSample := (Reached.new "None" rfl).parse quiet kept rfl
  have keptAgain : ¬ClosedMidway retriedSample "a.cpp" config := kept_of_view (by decide +kernel)
  have quietAgain : Quiet retriedSample "a.cpp" config := quiet_of_isOk (by decide +kernel)
  have ends : ((parse (.path "a.cpp") config).runFrom retriedSample).1 = .ok 0 := by decide +kernel
  obtain ⟨left, ran⟩ := exists_runFrom ends
  obtain ⟨inTime, -⟩ := ends_of_reached reached quietAgain ran
  obtain ⟨calledEnd, -⟩ := inTime keptAgain
  refine ⟨by decide +kernel, left, ran, ?_⟩
  cases calledEnd with
  | done stage failure => exact ⟨stage, failure⟩

/-- A session with a new parser, which is closed while its child process runs. The child comes to a
good end before it is killed. -/
def closedMidwaySample : Session :=
  { defaults := .sample
    world :=
      { currentDirectory := "/src"
        children := [.runs { stdout := "# 1 \"/src/a.cpp\"\nint a;\n", closed := true }] } }

theorem closed_midway_sample :
    let config : AnyConfig := .library (.blank BuildDefaults.sample.toolchain)
    Reached closedMidwaySample ∧ Quiet closedMidwaySample "a.cpp" config ∧
      ∃ result left,
        (parse (.path "a.cpp") config).runFrom closedMidwaySample = (result, left) ∧
        ¬CallEnd closedMidwaySample config result left ∧
        result = .error (.fault .indexReleased) ∧ left.parser.stage = .parsing ∧
        left.parser.failure = none := by
  intro config
  have stage : ((parse (.path "a.cpp") config).runFrom closedMidwaySample).2.parser.stage =
      .parsing := by
    decide +kernel
  have failure : ((parse (.path "a.cpp") config).runFrom closedMidwaySample).2.parser.failure =
      none := by
    decide +kernel
  have stops : ((parse (.path "a.cpp") config).runFrom closedMidwaySample).1 =
      .error (.fault .indexReleased) := by
    decide +kernel
  obtain ⟨left, ran⟩ := exists_runFrom stops
  rw [ran] at stage failure
  refine ⟨.new "None" rfl, quiet_of_isOk (by decide +kernel), _, left, ran, ?_, rfl, stage,
    failure⟩
  intro ends
  cases ends

end UnitLift.Parser
