import UnitLift.Proofs.Compile.Calls
import UnitLift.Proofs.Parse.File
import UnitLift.Proofs.Preprocess.Closing

/-! What a parser still starts once it has been closed. Calls that come later are refused. A call that is
under way asks the library for nothing more, but in fast mode it may launch its second child process,
as it does not look whether the parser was closed during the first one. -/

namespace UnitLift

/-- The scripts of the child processes that are launched from one world to a later one. -/
def World.followed (before after : World) : List ChildScript :=
  (List.range (after.launches.length - before.launches.length)).map fun number =>
    before.children.getD number (.runs {})

/-- From one session to a later one nothing is started once the parser has been closed, be that before
or while a child process is waited for: no other child process is launched, and the library is not
asked. -/
structure Session.StartsNothingOnceClosed (before after : Session) : Prop where
  unlaunched : before.isClosed = true → before.world.followed after.world = []
  last : ∀ script ∈ (before.world.followed after.world).dropLast, script.closes = false
  unasked : (before.isClosed = true ∨
      ∃ script ∈ before.world.followed after.world, script.closes = true) →
    after.world.requests = before.world.requests

/-- What a session has of launched child processes, and whether its parser is closed. -/
def Session.launched (session : Session) : List Launch × Option Nat × Bool :=
  (session.world.launches, session.parser.running, session.isClosed)

private theorem Session.launched_of_handled {before after : Session}
    (same : after.handled = before.handled) : after.launched = before.launched :=
  congrArg (fun handled => (handled.1.2.1, handled.1.1, handled.2)) same

private theorem Session.of_launched {before after : Session}
    (same : after.launched = before.launched) :
    after.world.launches = before.world.launches ∧ after.parser.running = before.parser.running ∧
      after.isClosed = before.isClosed :=
  ⟨congrArg (·.1) same, congrArg (·.2.1) same, congrArg (·.2.2) same⟩

/-- The scripts of a run are those that are followed, if there are as many. -/
theorem World.followed_eq {path : String} {view : ConfigView} {before after : World}
    (launched : after.launches.length =
      before.launches.length + (Preprocessed.scripts path view before).length) :
    before.followed after = Preprocessed.scripts path view before := by
  have first : before.nextChild.1 = before.children.getD 0 (.runs {}) := by
    rw [nextChild_fst]
    cases before.children <;> rfl
  have second : before.nextChild.2.nextChild.1 = before.children.getD 1 (.runs {}) := by
    rw [nextChild_fst, children_nextChild]
    cases before.children with
    | nil => rfl
    | cons _ rest => cases rest <;> rfl
  rw [followed, launched, Nat.add_sub_cancel_left, Preprocessed.scripts, first, second]
  split
  · rfl
  · rfl

namespace Parser

open Work

variable {session : Session} {path : String} {view : ConfigView}

private theorem keeps_askLibrary (preprocessed : Preprocessed) :
    Keeps Session.launched (askLibrary path view preprocessed) := by
  intro session
  cases closed : session.parser.closed with
  | true =>
    rw [runFrom_askLibrary_of_closed closed]
    rfl
  | false =>
    obtain ⟨left, ran, same⟩ := runFrom_askLibrary closed preprocessed
    rw [ran]
    change left.unasked.launched = session.launched
    rw [same]
    rfl

theorem launched_parseFile (path : String) (view : ConfigView) (session : Session) :
    ((parseFile path view).runFrom session).2.launched =
      ((prepare path view).runFrom session).2.launched := by
  rw [parseFile_eq]
  refine Keeps.bind_last (fun preprocessed => ?_) session
  refine (keeps_askLibrary preprocessed).bind fun _ asked => ?_
  exact Session.launched_of_handled (keeps_liftUnit _ preprocessed _ _ asked)

private theorem requests_of_prepare {first : Except Stop Preprocessed} {left : Session}
    (ran : (prepare path view).runFrom session = (first, left)) :
    left.world.requests = session.world.requests :=
  congrArg (·.world.requests) (unwritten_of_prepare ran)

/-- The library is not asked if the parser is closed. -/
theorem FileRun.requests_of_closed {result : Except Stop EntityId} {left : Session}
    (run : FileRun path view session result left) (closed : left.isClosed = true) :
    left.world.requests = session.world.requests := by
  have opened {stage : Stage} {prepared : Session} (still : prepared.parser.closed = false)
      (parser : left.parser = { prepared.parser with stage }) : False := by
    rw [Session.isClosed, parser, still] at closed
    cases closed
  cases run with
  | unprepared ran => exact requests_of_prepare ran
  | released ran _ same =>
    have kept := requests_of_prepare ran
    rw [same]
    exact kept
  | unparsed _ still _ parser => exact (opened still parser).elim
  | lifted _ still _ _ parser => exact (opened still parser).elim

/-- The file that a call preprocesses. Its absolute path is made absolute twice. -/
def fileOf (session : Session) (path : String) : String :=
  Path.absolute session.world.currentDirectory (Path.absolute session.world.currentDirectory path)

private theorem launched_prepare (alone : session.Alone) (path : String) (view : ConfigView) :
    let scripts :=
      Preprocessed.scripts (Path.absolute session.world.currentDirectory path) view session.world
    let left := ((prepare path view).runFrom session).2
    left.Alone ∧
      left.world.launches.length = session.world.launches.length + scripts.length ∧
      left.isClosed = (session.isClosed || scripts.any ChildScript.closes) := by
  intro scripts left
  obtain ⟨_, started, ranLog, unsaid⟩ := Session.passes_log .info .parser
    ("Parsing " ++ path ++ " with args: " ++ Text.quotedList view.arguments)
    { session with parser := { session.parser with stage := .preprocessing } }
  have ran : (prepare path view).runFrom session = (Preprocessed.run path view).runFrom started := by
    rw [prepare, runFrom_bind_of_ok (Session.runFrom_enter _ session), runFrom_bind_of_ok ranLog]
  have world : started.world = session.world := by rw [Session.world_of_unsaid unsaid]
  have parser := Session.parser_of_unsaid unsaid
  have aloneThen : started.Alone := by rwa [Session.Alone, parser]
  have opened : started.isClosed = session.isClosed := by rw [Session.isClosed, parser]; rfl
  have closed := Preprocessed.isClosed_run started path view
  rw [world, opened, ← ran] at closed
  have attends : Child.Attends _ _ _ _ _ _ := Preprocessed.attends_run aloneThen path view
  obtain ⟨launches, launched, dealt⟩ := attends.launched
  have count : launches.length = scripts.length := by
    simpa [scripts, world] using congrArg List.length dealt
  rw [← ran, world] at launched
  have aloneLast : left.Alone := by
    rw [Session.Alone, ← attends.alone, ← ran]
  refine ⟨aloneLast, ?_, closed⟩
  rw [launched, List.length_append, count]

/-- What a call that is taken up launches, and whether it leaves the parser closed. -/
private theorem launched_parse {config : CompileConfig} (alone : session.Alone)
    (admitted : Admits session (.library config)) (path : String) :
    let scripts := Preprocessed.scripts (fileOf session path) config.view session.world
    let left := ((parse (.path path) (.library config)).runFrom session).2
    left.Alone ∧
      left.world.launches.length = session.world.launches.length + scripts.length ∧
      left.isClosed = scripts.any ChildScript.closes ∧
      (left.isClosed = true → left.world.requests = session.world.requests) := by
  intro scripts left
  let absolute := Path.absolute session.world.currentDirectory path
  let parsed := (parseFile absolute config.view).runFrom (begun session)
  have run := fileRun_parseFile absolute config.view (begun session)
  obtain ⟨handled, world⟩ := handled_settle parsed
  rw [← runFrom_parse admitted path] at handled world
  have kept := Session.launched_of_handled handled
  have same := kept.trans (launched_parseFile absolute config.view (begun session))
  have aloneFirst : (begun session).Alone := alone
  obtain ⟨aloneThen, launched, closed⟩ := launched_prepare aloneFirst absolute config.view
  have opened : (begun session).isClosed = false := admitted.2.2.1
  obtain ⟨launches, running, closedSame⟩ := Session.of_launched same
  refine ⟨running.trans aloneThen, ?_, ?_, fun nowClosed => ?_⟩
  · rw [launches, launched]
    rfl
  · rw [closedSame, closed, opened, Bool.false_or]
    rfl
  · have still : parsed.2.isClosed = true := (Session.of_launched kept).2.2.symm.trans nowClosed
    have requests := run.requests_of_closed still
    rw [world]
    exact requests

/-- A call on a parser. -/
inductive Call where
  | parse (path : PathArgument) (config : AnyConfig)
  | close

namespace Call

/-- The session after a call, however that ended. -/
def leave (session : Session) : Call → Session
  | parse path config => ((Parser.parse path config).runFrom session).2
  | close => (Parser.close.runFrom session).2

/-- A call that goes on with its second child process though the parser was closed during the first
one, which came to a good end nevertheless. -/
def Overlooks (session : Session) : Call → Prop
  | parse (.path path) (.library config) =>
    Admits session (.library config) ∧ config.fastPreprocessing = true ∧
      session.world.nextChild.1.closes = true ∧ session.world.nextChild.1.fails = false ∧
      (session.world.read (fileOf session path)).isOk = true
  | _ => False

/-- What can be said of a call that launches child processes with some scripts. -/
private structure Leaves (call : Call) (session : Session) (scripts : List ChildScript) : Prop where
  alone : (call.leave session).Alone
  followed : session.world.followed (call.leave session).world = scripts
  launched : (call.leave session).world.launches.length =
    session.world.launches.length + scripts.length
  few : scripts.length ≤ 2
  overlooks : Overlooks session call ↔
    ∃ script ∈ scripts.dropLast, script.closes = true
  closed : (call.leave session).isClosed = true ↔
    session.isClosed = true ∨ call = close ∨ ∃ script ∈ scripts, script.closes = true
  requests : (call.leave session).isClosed = true →
    (call.leave session).world.requests = session.world.requests
  still : session.isClosed = true → call.leave session = session

private theorem followed_self {before after : World} (same : after.launches = before.launches) :
    before.followed after = [] := by
  rw [World.followed, same, Nat.sub_self]
  rfl

private theorem leaves_of_world {call : Call} (alone : (call.leave session).Alone)
    (world : (call.leave session).world = session.world) (heeds : ¬Overlooks session call)
    (closed : (call.leave session).isClosed = true ↔ session.isClosed = true ∨ call = close)
    (still : session.isClosed = true → call.leave session = session) : Leaves call session [] where
  alone := alone
  followed := followed_self (by rw [world])
  launched := by rw [world]; rfl
  few := Nat.zero_le 2
  overlooks := iff_of_false heeds (by simp)
  closed := by simpa using closed
  requests := fun _ => by rw [world]
  still := still

private theorem leaves_of_refused {config : AnyConfig} (alone : session.Alone)
    (refused : ¬Admits session config) (path : PathArgument) :
    Leaves (parse path config) session [] := by
  obtain ⟨refusal, ran⟩ := runFrom_parse_of_not refused path
  have same : (parse path config).leave session = session := by rw [leave, ran]
  have heeds : ¬Overlooks session (parse path config) := by
    intro overlooks
    cases path with
    | other printed => exact overlooks
    | path text =>
      cases config with
      | plain flags => exact overlooks
      | library config => exact refused overlooks.1
  exact leaves_of_world (by rwa [same]) (by rw [same]) heeds (by simp [same]) fun _ => same

private theorem leaves_other {config : CompileConfig} (alone : session.Alone)
    (admitted : Admits session (.library config)) (printed : String) :
    Leaves (parse (.other printed) (.library config)) session [] := by
  have left : (parse (.other printed) (.library config)).leave session =
      { session with parser := { session.parser with busy := true } } := by
    rw [leave, runFrom_parse_other admitted]
  refine leaves_of_world (by rwa [left]) (by rw [left]) id (by simp [left, Session.isClosed]) ?_
  exact fun closed => absurd (closed.symm.trans admitted.2.2.1) (by simp)

private theorem leaves_close (alone : session.Alone) : Leaves close session [] := by
  have asked : (Child.terminate none).runFrom session = (.ok ⟨⟩, session) := by
    rw [Child.terminate, runFrom_bind_of_ok (runFrom_get session), alone]
    rfl
  have left : close.leave session =
      { session with parser := { session.parser with closed := true } } := by
    rw [leave, Parser.close, Child.closeParser, runFrom_bind_of_ok asked]
    rfl
  refine leaves_of_world (by rwa [left]) (by rw [left]) id (by simp [left, Session.isClosed]) ?_
  intro closed
  have same : session.parser.closed = true := closed
  rw [left, ← same]

private theorem leaves_parse {config : CompileConfig} (alone : session.Alone)
    (admitted : Admits session (.library config)) (path : String) :
    Leaves (parse (.path path) (.library config)) session
      (Preprocessed.scripts (fileOf session path) config.view session.world) := by
  obtain ⟨aloneThen, launched, closed, requests⟩ := launched_parse alone admitted path
  have opened : session.isClosed = false := admitted.2.2.1
  constructor
  case alone => exact aloneThen
  case followed => exact World.followed_eq launched
  case launched => exact launched
  case few =>
    rw [Preprocessed.scripts]
    split
    · exact Nat.le_refl 2
    · exact Nat.le_succ 1
  case overlooks =>
    have mode : config.view.fastPreprocessing = config.fastPreprocessing := rfl
    rw [Overlooks, Preprocessed.scripts, mode]
    constructor
    · rintro ⟨-, fast, closes, fine, readable⟩
      rw [fast, fine, readable]
      exact ⟨_, List.mem_singleton_self _, closes⟩
    · rintro ⟨script, member, closes⟩
      split at member
      · rename_i goesOn
        simp only [Bool.and_eq_true, Bool.not_eq_true'] at goesOn
        cases List.mem_singleton.mp member
        exact ⟨admitted, goesOn.1.1, closes, goesOn.1.2, goesOn.2⟩
      · cases member
  case closed =>
    rw [leave, closed, opened]
    simp
  case requests => exact requests
  case still => exact fun closed => absurd (closed.symm.trans opened) (by simp)

private theorem exists_leaves (alone : session.Alone) (call : Call) :
    ∃ scripts, Leaves call session scripts := by
  cases call with
  | close => exact ⟨_, leaves_close alone⟩
  | parse path config =>
    obtain ⟨_, -, calling⟩ := exists_calling parseFile session path config
    cases calling with
    | refused untaken => exact ⟨_, leaves_of_refused alone untaken path⟩
    | pathless admitted printed => exact ⟨_, leaves_other alone admitted printed⟩
    | settled admitted text => exact ⟨_, leaves_parse alone admitted text⟩

end Call

/-- From one session to a later one, by calls on the parser. All but the parser may change between
calls. -/
inductive Later : Session → Session → Prop
  | here (session : Session) : Later session session
  | call {before after : Session} (later : Later before after) (call : Call) :
      Later before (call.leave after)
  | outside {before after left : Session} (later : Later before after)
      (same : left.parser = after.parser) : Later before left

theorem Later.alone {before after : Session} (later : Later before after) (alone : before.Alone) :
    after.Alone := by
  induction later with
  | here => exact alone
  | call _ call ih =>
    obtain ⟨_, leaves⟩ := call.exists_leaves ih
    exact leaves.alone
  | outside _ same ih => rwa [Session.Alone, same]

theorem Later.closed {before after : Session} (later : Later before after) (alone : before.Alone)
    (closed : before.isClosed = true) : after.isClosed = true := by
  induction later with
  | here => exact closed
  | call later call ih =>
    obtain ⟨_, leaves⟩ := call.exists_leaves (later.alone alone)
    rwa [leaves.still ih]
  | outside _ same ih => rwa [Session.isClosed, same]

/-- A parser that has been closed starts nothing, but for one exception: in fast mode a call launches
its second child process though the parser was closed during the first one, if that comes to a good end
and the file can be read. The library is not asked even then, and whatever calls come later, they do
nothing. -/
theorem starts_nothing_once_closed_iff {start before : Session} (alone : start.Alone)
    (reached : Later start before) (call : Call) :
    let after := call.leave before
    (before.StartsNothingOnceClosed after ↔ ¬call.Overlooks before) ∧
      (call.Overlooks before →
        after.world.launches.length = before.world.launches.length + 2 ∧
          after.world.requests = before.world.requests) ∧
      (after.isClosed = true ↔ before.isClosed = true ∨ call = .close ∨
        ∃ script ∈ before.world.followed after.world, script.closes = true) ∧
      (after.isClosed = true → ∀ later, Later after later → ∀ next : Call,
        next.leave later = later) := by
  intro after
  obtain ⟨scripts, leaves⟩ := call.exists_leaves (reached.alone alone)
  have aloneThen : after.Alone := leaves.alone
  have followed : before.world.followed after.world = scripts := leaves.followed
  refine ⟨⟨fun nothing overlooks => ?_, fun heeds => ?_⟩, fun overlooks => ?_,
    followed ▸ leaves.closed, fun closed later way next => ?_⟩
  · obtain ⟨script, member, closes⟩ := leaves.overlooks.mp overlooks
    rw [← followed] at member
    cases closes.symm.trans (nothing.last script member)
  · constructor
    case unlaunched =>
      intro closed
      have same : after = before := leaves.still closed
      exact Call.followed_self (by rw [same])
    case last =>
      intro script member
      rw [followed] at member
      have none := leaves.overlooks.not.mp heeds
      simpa using fun closes => none ⟨script, member, closes⟩
    case unasked =>
      rw [followed]
      exact fun closed => leaves.requests (leaves.closed.mpr (closed.imp_right .inr))
  · obtain ⟨script, member, closes⟩ := leaves.overlooks.mp overlooks
    have several : 0 < scripts.dropLast.length := List.length_pos_of_mem member
    have both : scripts.length = 2 := by
      rw [List.length_dropLast] at several
      exact Nat.le_antisymm leaves.few (by omega)
    have closed : after.isClosed = true :=
      leaves.closed.mpr (.inr (.inr ⟨script, List.dropLast_subset scripts member, closes⟩))
    exact ⟨both ▸ leaves.launched, leaves.requests closed⟩
  · obtain ⟨_, leavesNext⟩ := next.exists_leaves (way.alone aloneThen)
    exact leavesNext.still (way.closed aloneThen closed)

/-- A configuration of fast mode. -/
def fastSample : AnyConfig :=
  .library { CompileConfig.blank BuildDefaults.sample.toolchain with fastPreprocessing := true }

/-- A session with a new parser, which is closed while the first child process of a call in fast mode
is waited for. -/
def closingSample (first : ChildRun) : Session :=
  { defaults := .sample
    world :=
      { currentDirectory := "/src"
        files := .ofList [("/src/a.cpp", .ofText "int a;\n")]
        children :=
          [.runs { first with closed := true }, .runs { stdout := "# 1 \"/src/a.cpp\"\nint a;\n" }]
        units := [.unit [] []] } }

/-- The first child process is killed, so that the call starts nothing else; nor do later calls. -/
theorem starts_nothing_once_killed_sample :
    let call : Call := .parse (.path "a.cpp") fastSample
    let before := closingSample { exitCode := -9 }
    let after := call.leave before
    before.StartsNothingOnceClosed after ∧ after.isClosed = true ∧
      after.world.launches.length = 1 ∧ after.world.requests = [] ∧
      Call.close.leave after = after ∧ call.leave after = after := by
  intro call before after
  have alone : before.Alone := rfl
  have heeds : ¬call.Overlooks before := by
    rintro ⟨-, -, -, fine, -⟩
    exact absurd fine (by decide)
  have closed : after.isClosed = true := by decide +kernel
  obtain ⟨nothing, -, -, later⟩ := starts_nothing_once_closed_iff alone (.here before) call
  refine ⟨nothing.mpr heeds, closed, by decide +kernel, by decide +kernel, ?_, ?_⟩
  · exact later closed after (.here after) .close
  · exact later closed after (.here after) call

/-- The first child process has just come to a good end when the parser is closed. The second one is
launched nevertheless. -/
theorem starts_another_once_closed_sample :
    let call : Call := .parse (.path "a.cpp") fastSample
    let before := closingSample { stdout := "#define X 1\n", status := some 0 }
    let after := call.leave before
    before.parser = {} ∧ ¬before.StartsNothingOnceClosed after ∧
      before.world.nextChild.1.closes = true ∧ after.world.launches.length = 2 ∧
      ((parse (.path "a.cpp") fastSample).runFrom before).1 = .error (.fault .indexReleased) := by
  intro call before after
  refine ⟨rfl, fun nothing => ?_, by decide, by decide +kernel, by decide +kernel⟩
  have heeded := nothing.last before.world.nextChild.1 (by decide +kernel)
  cases heeded

end Parser

end UnitLift
