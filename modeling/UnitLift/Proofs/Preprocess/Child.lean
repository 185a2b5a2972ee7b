import UnitLift.Preprocess.Child
import UnitLift.Proofs.Session

namespace UnitLift

open Work

/-- A launch as the child process sees it. -/
def Launch.seen (launch : Launch) : Launch := { launch with deeds := [] }

/-- A child comes to a good end in time. -/
def ChildRun.Succeeds (run : ChildRun) : Prop := run.exitCode = 0 ∧ run.overruns = false

/-- A session with its launches as the child processes see them, and apart from what is said and
done while a child process runs. -/
def Session.awaited (session : Session) : Session × List ChildScript × List Launch :=
  (session.unlaunched, session.world.children, session.world.launches.map Launch.seen)

/-- No child process is running. -/
def Session.Alone (session : Session) : Prop := session.parser.running = none

namespace Child

private theorem map_seen_modify {change seen : Launch → Launch}
    (same : ∀ launch, (change launch).seen = seen launch.seen) (number : Nat)
    (launches : List Launch) :
    (launches.modify number change).map Launch.seen =
      (launches.map Launch.seen).modify number seen := by
  induction launches generalizing number with
  | nil => cases number <;> rfl
  | cons launch rest ih =>
    cases number with
    | zero => simp [List.modify_zero_cons, same]
    | succ number => simp [List.modify_succ_cons, ih]

private theorem passes_modifyLaunch {change : Launch → Launch}
    (same : ∀ launch, (change launch).seen = launch.seen) (number : Nat) :
    Passes Session.awaited (Session.modifyWorld (·.modifyLaunch number change)) := by
  apply Passes.modify
  intro session
  have launches : (session.world.launches.modify number change).map Launch.seen =
      (session.world.launches.map Launch.seen).modify number id := map_seen_modify same number _
  rw [List.modify_id] at launches
  exact Prod.ext rfl (Prod.ext rfl launches)

theorem passes_kill (number : Nat) : Passes Session.awaited (kill number) := by
  apply passes_modifyLaunch
  intro launch
  rfl

theorem passes_wait (number : Nat) : Passes Session.awaited (wait number) := by
  apply passes_modifyLaunch
  intro launch
  rfl

/-- To ask for an end changes what a record in the journal and a kill change. -/
theorem passes_terminate_of {τ : Type} {view : Session → τ}
    (logs : ∀ message, Passes view (Session.log .debug .preprocessor message))
    (kills : ∀ number, Passes view (kill number)) (status : Option Int) :
    Passes view (terminate status) := by
  apply Passes.get_bind
  intro session
  cases session.parser.running with
  | none => exact .pure ()
  | some number =>
    cases status with
    | some status => exact .pure ()
    | none => exact (logs _).bind fun _ => kills number

theorem passes_terminate (status : Option Int) : Passes Session.awaited (terminate status) :=
  passes_terminate_of (fun _ => .modify fun _ => rfl) passes_kill status

theorem passes_closeParser (status : Option Int) : Passes Session.awaited (closeParser status) :=
  (passes_terminate status).bind fun _ => .modify fun _ => rfl

theorem passes_terminations (statuses : List (Option Int)) :
    Passes Session.awaited (statuses.forM fun status => terminate status) :=
  .forM passes_terminate statuses

theorem interrupt_eq (run : ChildRun) :
    interrupt run = ((if run.terminated then terminate run.status else pure ()) >>= fun _ =>
      (if run.closed then closeParser run.status else pure ()) >>= fun _ =>
        run.terminations.forM fun status => terminate status) := by
  rw [interrupt]
  cases run.terminated <;> cases run.closed <;> rfl

theorem passes_interrupt (run : ChildRun) : Passes Session.awaited (interrupt run) := by
  rw [interrupt_eq]
  exact (Passes.ite (passes_terminate run.status) (.pure ())).bind fun _ =>
    (Passes.ite (passes_closeParser run.status) (.pure ())).bind fun _ =>
      passes_terminations run.terminations

/-- The wait for a child tells whether it came to its end in time, and sets the input of its
launch. -/
theorem runFrom_await (number : Nat) (run : ChildRun) (input : Option String) (session : Session) :
    ∃ left, (await number run input).runFrom session = (.ok !run.overruns, left) ∧
      left.awaited = (session.unlaunched, session.world.children,
        (session.world.launches.map Launch.seen).modify number ({ · with input })) := by
  obtain ⟨_, waited, ranWait, keptWait⟩ := passes_wait number session
  let fed : Session :=
    { waited with world := waited.world.modifyLaunch number ({ · with input }) }
  have ranFeed : (Session.modifyWorld (·.modifyLaunch number ({ · with input }))).runFrom waited =
      (.ok ⟨⟩, fed) := rfl
  have keptFeed : fed.awaited = (session.unlaunched, session.world.children,
      (session.world.launches.map Launch.seen).modify number ({ · with input })) := by
    have rest : waited.unlaunched = session.unlaunched := congrArg (·.1) keptWait
    have children : waited.world.children = session.world.children := congrArg (·.2.1) keptWait
    have launches : waited.world.launches.map Launch.seen =
        session.world.launches.map Launch.seen := congrArg (·.2.2) keptWait
    have feeding : (waited.world.launches.modify number ({ · with input })).map Launch.seen =
        (waited.world.launches.map Launch.seen).modify number ({ · with input }) := by
      apply map_seen_modify
      intro launch
      rfl
    rw [← rest, ← children, ← launches, ← feeding]
    rfl
  obtain ⟨_, interrupted, ranInterrupt, keptInterrupt⟩ := passes_interrupt run fed
  rw [await, runFrom_bind_of_ok ranWait, runFrom_bind_of_ok ranFeed,
    runFrom_bind_of_ok ranInterrupt]
  cases overruns : run.overruns with
  | false => exact ⟨interrupted, rfl, keptInterrupt.trans keptFeed⟩
  | true =>
    obtain ⟨_, killed, ranKill, keptKill⟩ := passes_kill number interrupted
    obtain ⟨_, ended, ranLast, keptLast⟩ := passes_wait number killed
    obtain ⟨_, left, ranLate, keptLate⟩ := passes_terminations run.lateTerminations ended
    refine ⟨left, ?_,
      (keptLate.trans (keptLast.trans (keptKill.trans keptInterrupt))).trans keptFeed⟩
    rw [if_pos rfl, runFrom_bind_of_ok ranKill, runFrom_bind_of_ok ranLast,
      runFrom_bind_of_ok ranLate]
    rfl

/-- How a child process ends that follows a script. -/
def ending (path binary timeout : String) : ChildScript → Except Stop String
  | .refused reason => .error (.failure (.preprocessing (.notLaunched binary reason)))
  | .barred => .error (.fault .badArgument)
  | .runs run =>
    if run.overruns then .error (.failure (.preprocessing (.timedOut path timeout)))
    else if run.exitCode != 0 then
      .error (.failure (.preprocessing (.exited path run.exitCode run.stderr)))
    else .ok run.stdout

private theorem ending_of_overruns {run : ChildRun} (late : run.overruns = true)
    (path binary timeout : String) :
    ending path binary timeout (.runs run) =
      .error (.failure (.preprocessing (.timedOut path timeout))) := if_pos late

private theorem ending_of_inTime {run : ChildRun} (inTime : run.overruns = false)
    (path binary timeout : String) :
    ending path binary timeout (.runs run) =
      if run.exitCode != 0 then
        .error (.failure (.preprocessing (.exited path run.exitCode run.stderr)))
      else .ok run.stdout := if_neg (by simp [inTime])

/-- The launch of a child process that follows a script, as the child sees it. Only one that runs is
given its input. -/
def launchOf (arguments : List String) (input : Option String) (stage : Stage) :
    ChildScript → Launch
  | .refused _ | .barred => { arguments, piped := input.isSome, stage }
  | .runs _ => { arguments, piped := input.isSome, input, stage }

private theorem runFrom_collect (path : String) (run : ChildRun) (session : Session) :
    ∃ left, (collect path run).runFrom session =
        (if run.exitCode != 0 then
          .error (.failure (.preprocessing (.exited path run.exitCode run.stderr)))
        else .ok run.stdout, left) ∧ left.awaited = session.awaited := by
  rw [collect]
  by_cases exited : (run.exitCode != 0) = true
  · simp only [exited, ↓reduceIte]
    exact ⟨_, rfl, rfl⟩
  · simp only [exited, Bool.false_eq_true, ↓reduceIte]
    by_cases silent : (!run.stderr.isEmpty) = true
    · simp only [silent, ↓reduceIte]
      exact ⟨_, rfl, rfl⟩
    · simp only [silent, Bool.false_eq_true, ↓reduceIte]
      exact ⟨_, rfl, rfl⟩

/-- A script that is taken is gone from the world; all else stays. -/
private theorem nextChild_eq (world : World) :
    world.nextChild.2 = { world with children := world.nextChild.2.children } := by
  rw [World.nextChild]
  split
  · rfl
  · rfl

theorem modify_concat (launches : List Launch) (last : Launch) (change : Launch → Launch) :
    (launches ++ [last]).modify launches.length change = launches ++ [change last] := by
  induction launches with
  | nil => rfl
  | cons launch rest ih => simp [List.modify_succ_cons, ih]

/-- A launch as it is noted before anything is done with the child process. -/
def noted (arguments : List String) (input : Option String) (session : Session) : Launch :=
  { arguments, piped := input.isSome, stage := session.parser.stage }

/-- The next script is taken, and a launch is noted. -/
def launching (arguments : List String) (input : Option String) (session : Session) : Session :=
  { session with world := { session.world with
      children := session.world.nextChild.2.children
      launches := session.world.launches ++ [noted arguments input session] } }

/-- The child process that is launched runs. -/
def attending (arguments : List String) (input : Option String) (session : Session) : Session :=
  { launching arguments input session with
    parser := { session.parser with running := some session.world.launches.length } }

/-- No child process runs any longer. -/
def released (session : Session) : Session :=
  { session with parser := { session.parser with running := none } }

/-- All ways in which a launch may go, by the script that the child process follows. -/
inductive Invocation (path : String) (arguments : List String) (input : Option String)
    (session : Session) : ChildScript → Except Stop String × Session → Prop
  | refused (reason : String) : Invocation path arguments input session (.refused reason)
      ((failLaunch path (arguments.headD "") reason).runFrom (launching arguments input session))
  | barred : Invocation path arguments input session .barred
      (.error (.fault .badArgument), launching arguments input session)
  /-- The child process is given up. -/
  | late {run : ChildRun} {waited : Session} (overruns : run.overruns = true)
      (waits : (await session.world.launches.length run input).runFrom
        (attending arguments input session) = (.ok false, waited)) :
      Invocation path arguments input session (.runs run)
        (.error (.failure (.preprocessing (.timedOut path waited.parser.timeout))),
          released ((report path
            ("preprocessor timed out after " ++ waited.parser.timeout ++ " seconds")
            .error).runFrom waited).2)
  | inTime {run : ChildRun} {waited : Session} (inTime : run.overruns = false)
      (waits : (await session.world.launches.length run input).runFrom
        (attending arguments input session) = (.ok true, waited)) :
      Invocation path arguments input session (.runs run)
        ((collect path run).runFrom (released waited))

/-- A launch is announced in the journal, and then goes in one of these ways. -/
theorem exists_invocation (path : String) (arguments : List String) (input : Option String)
    (session : Session) :
    ∃ message, Invocation path arguments input
      { session with journal := session.journal.add ⟨.debug, .preprocessor, message⟩ }
      session.world.nextChild.1 ((invoke path arguments input).runFrom session) := by
  let message := "Running preprocessor: " ++
    String.intercalate " " (arguments.take 1 ++ (arguments.getLast?).toList) ++
    " (" ++ toString arguments.length ++ " arguments)"
  let announced : Session :=
    { session with journal := session.journal.add ⟨.debug, .preprocessor, message⟩ }
  have announces : (Session.log .debug .preprocessor message).runFrom session =
      (.ok ⟨⟩, announced) := rfl
  refine ⟨message, ?_⟩
  simp only [invoke]
  rw [runFrom_bind_of_ok announces, runFrom_bind_of_ok (runFrom_get announced),
    nextChild_eq announced.world, runFrom_bind_of_ok (runFrom_set _ announced)]
  change Invocation path arguments input announced announced.world.nextChild.1 _
  cases announced.world.nextChild.1 with
  | refused reason => exact .refused reason
  | barred => exact .barred
  | runs run =>
    obtain ⟨waited, waits, -⟩ := runFrom_await announced.world.launches.length run input
      (attending arguments input announced)
    change Invocation path arguments input announced (.runs run)
      ((await announced.world.launches.length run input >>= _).runFrom
        (attending arguments input announced))
    rw [runFrom_bind_of_ok waits]
    cases overruns : run.overruns with
    | true =>
      rw [overruns] at waits
      exact .late overruns waits
    | false =>
      rw [overruns] at waits
      exact .inTime overruns waits

variable {path : String} {arguments : List String} {input : Option String}

theorem awaited_of_await {session waited : Session} {run : ChildRun} {inTime : Bool}
    (waits : (await session.world.launches.length run input).runFrom
      (attending arguments input session) = (.ok inTime, waited)) :
    waited.awaited = (session.unlaunched, session.world.nextChild.2.children,
      session.world.launches.map Launch.seen ++
        [launchOf arguments input session.parser.stage (.runs run)]) := by
  obtain ⟨left, ran, kept⟩ := runFrom_await session.world.launches.length run input
    (attending arguments input session)
  cases waits.symm.trans ran
  have last := modify_concat (session.world.launches.map Launch.seen)
    (noted arguments input session).seen ({ · with input })
  rw [List.length_map] at last
  rw [kept]
  simp only [attending, launching, List.map_append, List.map_cons, List.map_nil, last]
  rfl

/-- A launch takes the next script, and the child ends as that says. -/
theorem runFrom_invoke (path : String) (arguments : List String) (input : Option String)
    (session : Session) :
    ∃ left, (invoke path arguments input).runFrom session =
        (ending path (arguments.headD "") session.parser.timeout session.world.nextChild.1, left) ∧
      left.awaited = (session.unlaunched, session.world.nextChild.2.children,
        session.world.launches.map Launch.seen ++
          [launchOf arguments input session.parser.stage session.world.nextChild.1]) := by
  obtain ⟨message, goes⟩ := exists_invocation path arguments input session
  generalize (invoke path arguments input).runFrom session = ended at goes ⊢
  generalize session.world.nextChild.1 = script at goes ⊢
  cases goes with
  | refused reason =>
    refine ⟨_, rfl, Prod.ext rfl (Prod.ext rfl ?_)⟩
    exact List.map_append
  | barred =>
    refine ⟨_, rfl, Prod.ext rfl (Prod.ext rfl ?_)⟩
    exact List.map_append
  | @late run waited overruns waits =>
    have kept := awaited_of_await waits
    have timeout : waited.parser.timeout = session.parser.timeout :=
      congrArg (fun view => view.1.parser.timeout) kept
    rw [ending_of_overruns overruns, timeout]
    exact ⟨_, rfl, kept⟩
  | @inTime run waited inTime waits =>
    have kept := awaited_of_await waits
    obtain ⟨left, ranCollect, keptCollect⟩ := runFrom_collect path run (released waited)
    rw [ending_of_inTime inTime]
    exact ⟨left, ranCollect, keptCollect.trans kept⟩

/-- A child that succeeds is launched with its input, and gives its output. -/
theorem runFrom_invoke_of_succeeds {session : Session} {run : ChildRun} {rest : List ChildScript}
    (children : session.world.children = .runs run :: rest) (good : run.Succeeds)
    (path : String) (arguments : List String) (input : Option String) :
    ∃ left, (invoke path arguments input).runFrom session = (.ok run.stdout, left) ∧
      left.awaited = (session.unlaunched, rest,
        session.world.launches.map Launch.seen ++
          [launchOf arguments input session.parser.stage (.runs run)]) := by
  obtain ⟨exited, inTime⟩ := good
  have next : session.world.nextChild =
      (.runs run, { session.world with children := rest }) := by
    simp only [World.nextChild, children]
  have ends (binary : String) :
      ending path binary session.parser.timeout (.runs run) = .ok run.stdout := by
    rw [ending_of_inTime inTime, exited]
    rfl
  obtain ⟨left, ran, kept⟩ := runFrom_invoke path arguments input session
  rw [next, ends] at ran
  rw [next] at kept
  exact ⟨left, ran, kept⟩

theorem keeps_invoke (path : String) (arguments : List String) (input : Option String) :
    Keeps Session.unlaunched (invoke path arguments input) := by
  intro session
  obtain ⟨left, ran, kept⟩ := runFrom_invoke path arguments input session
  rw [ran]
  exact congrArg (·.1) kept

private theorem preserves_collect (path : String) (run : ChildRun) :
    Preserves Session.Alone (collect path run) := by
  have reported (message : String) (severity : Severity) :
      Preserves Session.Alone (report path message severity) := fun _ alone => alone
  have given : Preserves Session.Alone (do
      if !run.stderr.isEmpty then report path run.stderr .warning
      return run.stdout) :=
    .ite ((reported _ _).bind fun _ => .pure run.stdout) (.pure run.stdout)
  rw [collect]
  split
  · exact (reported _ _).bind fun _ _ alone => alone
  · exact given

/-- A child process that was launched is no longer running when its output is there, or when it is
given up. -/
theorem preserves_invoke (path : String) (arguments : List String) (input : Option String) :
    Preserves Session.Alone (invoke path arguments input) := by
  intro session alone
  obtain ⟨message, goes⟩ := exists_invocation path arguments input session
  generalize (invoke path arguments input).runFrom session = ended at goes ⊢
  generalize session.world.nextChild.1 = script at goes
  cases goes with
  | refused reason => exact alone
  | barred => exact alone
  | late => rfl
  | @inTime run waited => exact preserves_collect path run (released waited) rfl

end Child

end UnitLift
