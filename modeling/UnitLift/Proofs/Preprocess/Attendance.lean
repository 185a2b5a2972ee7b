import UnitLift.Proofs.Preprocess.Handling
import UnitLift.Proofs.Preprocess.Outcomes

namespace UnitLift

open Work

variable {α β : Type}

/-- What a session has of child processes, those included that have not been launched. -/
def Session.attended (session : Session) :
    (Option Nat × List Launch × Sink × Journal) × List ChildScript :=
  (session.handling, session.world.children)

theorem World.children_nextChild (world : World) :
    world.nextChild.2.children = world.children.drop 1 := by
  rw [nextChild]
  cases children : world.children with
  | nil => exact children
  | cons script rest => rfl

namespace Child

variable {path binary timeout : String} {before : Session} {scripts : List ChildScript}

/-- An end by the failure of a child process. -/
def IsFailure (result : Except Stop α) : Prop :=
  ∃ cause, result = .error (.failure (.preprocessing cause))

theorem not_isFailure_ok (value : α) : ¬IsFailure (.ok value) := fun ⟨_, same⟩ => by cases same

/-- An end because the arguments of a child process are not taken. -/
def IsBarred (result : Except Stop α) : Prop := result = .error (.fault .badArgument)

/-- How an operation that works for the file at a path attends to child processes that follow some
scripts. -/
structure Attends (path binary timeout : String) (scripts : List ChildScript) (before : Session)
    (ended : Except Stop α × Session) : Prop where
  /-- No child process is left running. -/
  alone : ended.2.Alone
  /-- The scripts are used up. -/
  children : ended.2.world.children = before.world.children.drop scripts.length
  /-- All child processes are launched in turn and dealt with. -/
  launched : ∃ launches, ended.2.world.launches = before.world.launches ++ launches ∧
    launches.map Launch.deeds = scripts.map ChildScript.deeds
  reported : ended.2.heard =
    (scripts.filterMap (·.report? path binary timeout)).foldl Report.hear before.heard
  isFailure_iff : IsFailure ended.1 ↔ ∃ script ∈ scripts, script.failsAloud = true
  isBarred_iff : IsBarred ended.1 ↔ .barred ∈ scripts
  /-- Nothing is launched after a failure. -/
  last : ∀ script ∈ scripts.dropLast, script.fails = false

/-- An operation that has nothing to do with child processes, and does not end because of one. -/
structure Aloof (work : Work Session α) : Prop where
  keeps : Keeps Session.attended work
  blameless : ∀ session, ¬IsFailure (work.runFrom session).1
  free : ∀ session, ¬IsBarred (work.runFrom session).1

namespace Aloof

protected theorem pure (value : α) : Aloof (pure value : Work Session α) :=
  ⟨.pure value, fun _ => not_isFailure_ok value, fun _ => nofun⟩

theorem ofFault {result : Except Fault α} (taken : result ≠ .error .badArgument) :
    Aloof (ofFault result : Work Session α) where
  keeps := .ofFault result
  blameless := by
    rintro session ⟨cause, same⟩
    obtain ⟨fault, -, stop⟩ := stops_ofFault_iff.mp same
    cases stop
  free session barred := by
    obtain ⟨fault, same, stop⟩ := stops_ofFault_iff.mp barred
    cases stop
    exact taken same

protected theorem bind {work : Work Session α} {next : α → Work Session β} (first : Aloof work)
    (second : ∀ value, Aloof (next value)) : Aloof (work >>= next) where
  keeps := first.keeps.bind fun value => (second value).keeps
  blameless := by
    rintro session ⟨cause, same⟩
    rcases stops_bind_iff.mp same with stops | ⟨value, left, -, stops⟩
    · exact first.blameless session ⟨cause, stops⟩
    · exact (second value).blameless left ⟨cause, stops⟩
  free session barred := by
    rcases stops_bind_iff.mp barred with stops | ⟨value, left, -, stops⟩
    · exact first.free session stops
    · exact (second value).free left stops

end Aloof

theorem ending_isFailure_iff {script : ChildScript} :
    IsFailure (ending path binary timeout script) ↔ script.failsAloud = true := by
  cases ends : ending path binary timeout script with
  | ok output =>
    obtain ⟨run, rfl, ⟨exited, inTime⟩, -⟩ := ending_eq_ok_iff.mp ends
    simp [IsFailure, ChildScript.failsAloud, ChildScript.fails, exited, inTime]
  | error stop =>
    rcases ending_eq_error ends with ⟨rfl, rfl⟩ | ⟨launched, cause, rfl⟩
    · refine iff_of_false ?_ (by decide)
      rintro ⟨_, same⟩
      cases same
    · have fails : script.fails = true := by
        cases script with
        | refused reason => rfl
        | barred => exact absurd rfl launched
        | runs run => grind [ending, ChildScript.fails]
      exact ⟨fun _ => by simp [ChildScript.failsAloud, fails, launched], fun _ => ⟨cause, rfl⟩⟩

theorem ending_isBarred_iff {script : ChildScript} :
    IsBarred (ending path binary timeout script) ↔ script = .barred := by
  constructor
  · intro barred
    rcases ending_eq_error barred with ⟨same, -⟩ | ⟨-, cause, same⟩
    · exact same
    · cases same
  · rintro rfl
    rfl

theorem fails_of_ending_error {script : ChildScript} {stop : Stop}
    (ends : ending path binary timeout script = .error stop) : script.fails = true := by
  rcases ending_eq_error ends with ⟨rfl, -⟩ | ⟨-, cause, rfl⟩
  · rfl
  · have aloud : script.failsAloud = true := ending_isFailure_iff.mp ⟨cause, ends⟩
    exact (Bool.and_eq_true_iff.mp aloud).1

/-- A child process that gives output does not fail. -/
theorem fails_of_ending {script : ChildScript} {output : String}
    (ends : ending path binary timeout script = .ok output) : script.fails = false := by
  obtain ⟨run, rfl, ⟨exited, inTime⟩, -⟩ := ending_eq_ok_iff.mp ends
  simp [ChildScript.fails, exited, inTime]

theorem attends_invoke (path : String) {arguments : List String} (input : Option String)
    (program : arguments.headD "" = binary) (alone : before.Alone) :
    Attends path binary before.parser.timeout [before.world.nextChild.1] before
      ((invoke path arguments input).runFrom before) := by
  subst program
  obtain ⟨left, ran, kept⟩ := runFrom_invoke path arguments input before
  have handled := handling_invoke path arguments input alone
  rw [ran] at handled ⊢
  have launches : left.world.launches = _ := congrArg (·.2.1) handled
  have children : left.world.children = before.world.nextChild.2.children := congrArg (·.2.1) kept
  constructor
  case alone => exact congrArg (·.1) handled
  case children =>
    exact children.trans before.world.children_nextChild
  case launched =>
    refine ⟨_, launches, ?_⟩
    cases before.world.nextChild.1 with
    | refused reason => rfl
    | barred => rfl
    | runs run => rfl
  case reported =>
    have heard : left.heard = _ := congrArg (·.2.2) handled
    rw [heard, List.filterMap_cons]
    cases before.world.nextChild.1.report? path (arguments.headD "") before.parser.timeout with
    | none => rfl
    | some report => rfl
  case isFailure_iff => simp [ending_isFailure_iff]
  case isBarred_iff => simp [ending_isBarred_iff, eq_comm]
  case last => simp

namespace Attends

variable {work : Work Session α} {next : α → Work Session β} {more : List ChildScript}

/-- It does not matter what else is different, before and after. -/
theorem congr {start : Session} {ended : Except Stop α × Session} {other : Except Stop β × Session}
    (attends : Attends path binary timeout scripts start ended)
    (starts : before.attended = start.attended) (ends : other.2.attended = ended.2.attended)
    (fails : IsFailure other.1 ↔ IsFailure ended.1) (barred : IsBarred other.1 ↔ IsBarred ended.1) :
    Attends path binary timeout scripts before other where
  alone := by
    have left : other.2.parser.running = ended.2.parser.running := congrArg (·.1.1) ends
    exact left.trans attends.alone
  children := by
    have left : other.2.world.children = ended.2.world.children := congrArg (·.2) ends
    have given : before.world.children = start.world.children := congrArg (·.2) starts
    rw [left, given, attends.children]
  launched := by
    obtain ⟨launches, launched, dealt⟩ := attends.launched
    have left : other.2.world.launches = ended.2.world.launches := congrArg (·.1.2.1) ends
    have given : before.world.launches = start.world.launches := congrArg (·.1.2.1) starts
    exact ⟨launches, by rw [left, given, launched], dealt⟩
  reported := by
    have left : other.2.heard = ended.2.heard := congrArg (·.1.2.2) ends
    have given : before.heard = start.heard := congrArg (·.1.2.2) starts
    rw [left, given, attends.reported]
  isFailure_iff := fails.trans attends.isFailure_iff
  isBarred_iff := barred.trans attends.isBarred_iff
  last := attends.last

/-- What has nothing to do with child processes may follow. -/
theorem andThen (attends : Attends path binary timeout scripts before (work.runFrom before))
    (aloof : ∀ value, Aloof (next value)) :
    Attends path binary timeout scripts before ((work >>= next).runFrom before) := by
  rcases ran : work.runFrom before with ⟨stop | value, between⟩
  · rw [ran] at attends
    rw [runFrom_bind_of_error ran]
    exact attends.congr rfl rfl (by simp [IsFailure]) (by simp [IsBarred])
  · rw [ran] at attends
    rw [runFrom_bind_of_ok ran]
    obtain ⟨keeps, blameless, free⟩ := aloof value
    exact attends.congr rfl (keeps between) (iff_of_false (blameless between) (not_isFailure_ok value))
      (iff_of_false (free between) nofun)

/-- More child processes may follow those that were attended to and did not fail. -/
theorem andMore {value : α} {between : Session} {ended : Except Stop β × Session}
    (attends : Attends path binary timeout scripts before
      ((.ok value, between) : Except Stop α × Session))
    (others : Attends path binary timeout more between ended) :
    Attends path binary timeout (scripts ++ more) before ended := by
  have taken : .barred ∉ scripts := attends.isBarred_iff.not.mp nofun
  have fine : ∀ script ∈ scripts, script.fails = false := by
    have none := attends.isFailure_iff.not.mp (not_isFailure_ok value)
    grind [ChildScript.failsAloud]
  constructor
  case alone => exact others.alone
  case children => rw [others.children, attends.children, List.drop_drop, List.length_append]
  case launched =>
    obtain ⟨first, launched, dealt⟩ := attends.launched
    obtain ⟨second, launchedThen, dealtThen⟩ := others.launched
    refine ⟨first ++ second, ?_, by rw [List.map_append, List.map_append, dealt, dealtThen]⟩
    rw [launchedThen, launched, List.append_assoc]
  case reported =>
    rw [others.reported, attends.reported, List.filterMap_append, List.foldl_append]
  case isFailure_iff =>
    rw [others.isFailure_iff]
    grind [ChildScript.failsAloud]
  case isBarred_iff => simp [others.isBarred_iff, taken]
  case last =>
    intro script member
    cases more with
    | nil =>
      rw [List.append_nil] at member
      exact fine script (List.dropLast_subset scripts member)
    | cons first rest =>
      rw [List.dropLast_append_of_ne_nil (List.cons_ne_nil first rest)] at member
      rcases List.mem_append.mp member with here | there
      · exact fine script here
      · exact others.last script there

/-- It is the last child process that fails, if any does. -/
theorem countP_failsAloud {ended : Except Stop α × Session}
    (attends : Attends path binary timeout scripts before ended) (failed : IsFailure ended.1) :
    scripts.countP ChildScript.failsAloud = 1 := by
  obtain ⟨script, member, fails⟩ := attends.isFailure_iff.mp failed
  rcases List.eq_nil_or_concat scripts with rfl | ⟨others, last, rfl⟩
  · cases member
  · have fine := attends.last
    rw [List.concat_eq_append, List.dropLast_concat] at fine
    have none : others.countP ChildScript.failsAloud = 0 := by
      rw [List.countP_eq_zero]
      exact fun other inside => by simp [ChildScript.failsAloud, fine other inside]
    have own : last.failsAloud = true := by
      rw [List.concat_eq_append, List.mem_append, List.mem_singleton] at member
      rcases member with inside | rfl
      · exact absurd fails (by simp [ChildScript.failsAloud, fine script inside])
      · exact fails
    rw [List.concat_eq_append, List.countP_append, none, List.countP_singleton, own]
    rfl

end Attends

end Child

end UnitLift
