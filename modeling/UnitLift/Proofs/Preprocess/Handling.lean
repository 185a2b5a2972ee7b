import UnitLift.Proofs.Preprocess.Child

/-! What is done with a child process, and what is reported about it. One that runs is waited for once,
or twice if its time is up, with a kill in between; others get it killed as often as they ask for that
while it is still running. -/

namespace UnitLift

open Work

/-- The kills by those who ask for a child process to be terminated, each of whom has seen its exit code
if it had one. -/
def Deed.kills (statuses : List (Option Int)) : List Deed :=
  .replicate (statuses.count none) .kill

theorem Deed.kills_nil : kills [] = [] := rfl

theorem Deed.kills_append (statuses more : List (Option Int)) :
    kills (statuses ++ more) = kills statuses ++ kills more := by
  rw [kills, List.count_append, ← List.replicate_append_replicate, kills, kills]

theorem Deed.kills_cons (status : Option Int) (rest : List (Option Int)) :
    kills (status :: rest) = kills [status] ++ kills rest := kills_append [status] rest

theorem Launch.did_nil : did [] = id := by
  funext launch
  rw [did, List.append_nil, id]

/-- The exit codes as seen by those who ask for a child process to be terminated before its time is
up. -/
def ChildRun.requests (run : ChildRun) : List (Option Int) :=
  (if run.terminated then [run.status] else []) ++ (if run.closed then [run.status] else []) ++
    run.terminations

namespace ChildScript

/-- All that is done with a child process, in order. -/
def deeds : ChildScript → List Deed
  | refused _ | barred => []
  | runs run =>
    .wait :: Deed.kills run.requests ++
      if run.overruns then .kill :: .wait :: Deed.kills run.lateTerminations else []

/-- A child process fails: it is not launched, it is given up, or it says so. -/
def fails : ChildScript → Bool
  | refused _ | barred => true
  | runs run => run.overruns || run.exitCode != 0

/-- A child process fails for another reason than that its arguments are not taken. -/
def failsAloud (script : ChildScript) : Bool := script.fails && script != .barred

/-- A child process does not fail, but has something to say. -/
def warns (script : ChildScript) : Bool :=
  match script with
  | refused _ | barred => false
  | runs run => !script.fails && !run.stderr.isEmpty

/-- What is reported about a child process that works for the file at a path. -/
def report? (path binary timeout : String) (script : ChildScript) : Option Report :=
  let about (severity : Severity) (message : String) : Report :=
    ⟨"preprocessor", { message := Text.trimmed message, location := { file := some path }, severity }⟩
  match script with
  | refused reason => some (about .error ("unable to launch '" ++ binary ++ "': " ++ reason))
  | barred => none
  | runs run =>
    if run.overruns then
      some (about .error ("preprocessor timed out after " ++ timeout ++ " seconds"))
    else if run.exitCode != 0 then
      some (about .error
        (if run.stderr.isEmpty then "preprocessor exited with code " ++ toString run.exitCode
         else run.stderr))
    else if run.stderr.isEmpty then none
    else some (about .warning run.stderr)

variable {path binary timeout : String} {script : ChildScript} {report : Report}

theorem source_of_report? (reported : script.report? path binary timeout = some report) :
    report.source = "preprocessor" ∧ report.diagnostic.location.file = some path := by
  cases script with
  | refused reason =>
    cases reported
    exact ⟨rfl, rfl⟩
  | barred => cases reported
  | runs run => grind [report?]

/-- What is reported is an error if the child process fails, and else a warning. Nothing is reported of
arguments that are not taken. -/
theorem severity_report? (path binary timeout : String) (script : ChildScript) :
    (script.report? path binary timeout).map (·.diagnostic.severity) =
      if script.failsAloud then some .error else if script.warns then some .warning else none := by
  cases script with
  | refused reason => rfl
  | barred => rfl
  | runs run => grind [report?, failsAloud, fails, warns]

/-- Child processes fail aloud, or since their arguments are not taken. -/
theorem exists_fails_iff (scripts : List ChildScript) :
    (∃ script ∈ scripts, script.fails = true) ↔
      (∃ script ∈ scripts, script.failsAloud = true) ∨ .barred ∈ scripts := by
  have each (script : ChildScript) :
      script.fails = true ↔ script.failsAloud = true ∨ .barred = script := by
    cases script with
    | barred => simp [fails]
    | _ => simp [failsAloud]
  simp only [each, and_or_left, exists_or, exists_eq_right']

theorem fails_of_warns (warns : script.warns = true) : script.fails = false := by
  cases script with
  | refused reason => cases warns
  | barred => cases warns
  | runs run => simpa using (Bool.and_eq_true_iff.mp warns).1

end ChildScript

/-- A journal with nothing but its records of diagnostics. -/
def Journal.heard (journal : Journal) : Journal :=
  { journal with entries := journal.entries.filter (·.channel == .diagnostic) }

/-- What a session has of diagnostics: the sink, and the records of them. -/
def Session.heard (session : Session) : Sink × Journal := (session.sink, session.journal.heard)

/-- What there is of diagnostics after one more report. -/
def Report.hear (heard : Sink × Journal) (report : Report) : Sink × Journal :=
  let (_, sink, journal) := heard.1.log heard.2 report
  (sink, journal)

theorem Report.records_foldl_hear {reports : List Report}
    (shown : ∀ report ∈ reports, report.diagnostic.severity ≠ .debug) {heard : Sink × Journal}
    (recording : heard.1.delivery = .record) :
    (reports.foldl hear heard).1.records = heard.1.records ++ reports := by
  induction reports generalizing heard with
  | nil => simp
  | cons report rest ih =>
    have accepted : heard.1.accepts report.diagnostic = true := by
      simp [Sink.accepts, shown report (by simp)]
    have once : hear heard report =
        ({ heard.1 with records := heard.1.records ++ [report] }, heard.2) := by
      simp [hear, Sink.log, accepted, recording]
    have others := ih (fun other member => shown other (List.mem_cons_of_mem report member))
      (congrArg (·.1.delivery) once |>.trans recording)
    rw [List.foldl_cons, others, once, List.append_assoc, List.singleton_append]

/-- What a session has of child processes: which of them runs, what was done with each, and what was
reported. -/
def Session.handling (session : Session) : Option Nat × List Launch × Sink × Journal :=
  (session.parser.running, session.world.launches, session.heard)

/-- What a session has of child processes and of diagnostics, and whether its parser is closed. -/
def Session.handled (session : Session) : (Option Nat × List Launch × Sink × Journal) × Bool :=
  (session.handling, session.parser.closed)

theorem Journal.heard_add_of_ne (journal : Journal) {entry : Entry}
    (other : entry.channel ≠ .diagnostic) : (journal.add entry).heard = journal.heard := by
  rw [add]
  split
  · simp [heard, other]
  · rfl

theorem Journal.heard_add_of_eq (journal : Journal) {entry : Entry}
    (own : entry.channel = .diagnostic) : (journal.add entry).heard = journal.heard.add entry := by
  rw [add, add, heard]
  split
  · simp [heard, *]
  · simp [heard, *]

namespace Session

theorem passes_handling_log {level : Level} {channel : Channel} {message : String}
    (other : channel ≠ .diagnostic) : Passes handling (log level channel message) := by
  apply Passes.modify
  intro session
  exact Prod.ext rfl (Prod.ext rfl (Prod.ext rfl (session.journal.heard_add_of_ne other)))

theorem heard_report (source : String) (diagnostic : Diagnostic) (session : Session) :
    ((report source diagnostic).runFrom session).2.heard =
      Report.hear session.heard ⟨source, diagnostic⟩ := by
  rw [report, runFrom_modify, heard, heard, Report.hear]
  simp only [Sink.log]
  cases session.sink.accepts diagnostic with
  | false => rfl
  | true =>
    cases delivery : session.sink.delivery with
    | record => rfl
    | forward => exact Prod.ext rfl (session.journal.heard_add_of_eq rfl)

end Session

namespace Child

variable {α β : Type} {number : Nat} {session : Session}

/-- While the child process of a number runs, the operation has a result, changes the launch of that
process, and does and says nothing else about any. -/
def Treats (number : Nat) (change : Launch → Launch) (work : Work Session α) : Prop :=
  ∀ session : Session, session.parser.running = some number →
    ∃ value left, work.runFrom session = (.ok value, left) ∧
      left.handling = (some number, session.world.launches.modify number change, session.heard)

namespace Treats

protected theorem pure (value : α) : Treats number id (pure value : Work Session α) :=
  fun session running =>
    ⟨value, session, rfl, by rw [List.modify_id, Session.handling, running]⟩

protected theorem bind {work : Work Session α} {next : α → Work Session β}
    {change later : Launch → Launch} (first : Treats number change work)
    (second : ∀ value, Treats number later (next value)) :
    Treats number (later ∘ change) (work >>= next) := by
  intro session running
  obtain ⟨value, between, ran, handled⟩ := first session running
  obtain ⟨still, launches, heard⟩ : _ ∧ _ ∧ _ := by simpa [Session.handling] using handled
  obtain ⟨result, left, ranNext, handledNext⟩ := second value between still
  refine ⟨result, left, by rw [runFrom_bind_of_ok ran, ranNext], ?_⟩
  rw [handledNext, launches, heard, List.modify_modify_eq]

theorem of_passes {work : Work Session α} (passes : Passes Session.handling work) :
    Treats number id work := by
  intro session running
  obtain ⟨value, left, ran, same⟩ := passes session
  exact ⟨value, left, ran, by rw [same, List.modify_id, Session.handling, running]⟩

protected theorem ite {work : Work Session Unit} {deeds : List Deed} (condition : Bool)
    (treats : Treats number (Launch.did deeds) work) :
    Treats number (Launch.did (if condition then deeds else []))
      (if condition then work else pure () : Work Session Unit) := by
  cases condition with
  | true => exact treats
  | false =>
    rw [if_neg Bool.false_ne_true, if_neg Bool.false_ne_true, Launch.did_nil]
    exact .pure ()

/-- What is done first and what is done then is done in that order. -/
theorem andThen {work : Work Session α} {next : Work Session β} {deeds more : List Deed}
    (first : Treats number (Launch.did deeds) work) (second : Treats number (Launch.did more) next) :
    Treats number (Launch.did (deeds ++ more)) (work >>= fun _ => next) := by
  have both := first.bind fun _ => second
  have order : Launch.did more ∘ Launch.did deeds = Launch.did (deeds ++ more) := by
    funext launch
    simp [Launch.did]
  rwa [order] at both

end Treats

private theorem treats_modifyLaunch (number : Nat) (change : Launch → Launch) :
    Treats number change (Session.modifyWorld (·.modifyLaunch number change)) := by
  intro session running
  refine ⟨⟨⟩, _, rfl, ?_⟩
  rw [Session.handling]
  exact Prod.ext running rfl

private theorem treats_log (number : Nat) (level : Level) (message : String) :
    Treats number (Launch.did []) (Session.log level .preprocessor message) := by
  have logged : Passes Session.handling (Session.log level .preprocessor message) :=
    Session.passes_handling_log (by decide)
  rw [Launch.did_nil]
  exact .of_passes logged

/-- Somebody who asks for the running child process to be terminated kills it if it has no exit code. -/
private theorem treats_terminate (number : Nat) (status : Option Int) :
    Treats number (Launch.did (Deed.kills [status])) (terminate status) := by
  have killed := (treats_log number .debug
    ("Killing preprocessor process " ++ toString processNumber)).andThen
      (treats_modifyLaunch number (Launch.did [.kill]))
  have asked := killed.ite status.isNone
  have deeds : (if status.isNone then [] ++ [Deed.kill] else []) = Deed.kills [status] := by
    cases status <;> rfl
  rw [deeds] at asked
  intro session running
  obtain ⟨_, left, ran, handled⟩ := asked session running
  refine ⟨(), left, ?_, handled⟩
  rw [terminate, runFrom_bind_of_ok (runFrom_get session), running]
  exact ran

private theorem treats_closeParser (number : Nat) (status : Option Int) :
    Treats number (Launch.did (Deed.kills [status])) (closeParser status) := by
  have marked : Treats number (Launch.did [])
      (Session.modifyParser ({ · with closed := true })) := by
    rw [Launch.did_nil]
    exact .of_passes (.modify fun _ => rfl)
  have closed := (treats_terminate number status).andThen marked
  rwa [List.append_nil] at closed

private theorem treats_terminations (number : Nat) (statuses : List (Option Int)) :
    Treats number (Launch.did (Deed.kills statuses))
      (statuses.forM fun status => terminate status) := by
  induction statuses with
  | nil =>
    rw [Deed.kills_nil, Launch.did_nil]
    exact .pure ()
  | cons status rest ih =>
    rw [Deed.kills_cons]
    exact (treats_terminate number status).andThen ih

private theorem treats_interrupt (number : Nat) (run : ChildRun) :
    Treats number (Launch.did (Deed.kills run.requests)) (interrupt run) := by
  have each (condition : Bool) : (if condition then Deed.kills [run.status] else []) =
      Deed.kills (if condition then [run.status] else []) := by cases condition <;> rfl
  have asked := ((treats_terminate number run.status).ite run.terminated).andThen
    (((treats_closeParser number run.status).ite run.closed).andThen
      (treats_terminations number run.terminations))
  rw [each, each, ← List.append_assoc, ← Deed.kills_append, ← Deed.kills_append] at asked
  rw [interrupt_eq]
  exact asked

private theorem treats_await (number : Nat) (run : ChildRun) (input : Option String) :
    Treats number (fun launch => { launch with input }.did (ChildScript.runs run).deeds)
      (await number run input) := by
  have ended : Treats number
      (Launch.did (if run.overruns then .kill :: .wait :: Deed.kills run.lateTerminations else []))
      (if run.overruns then (do
        kill number
        wait number
        run.lateTerminations.forM fun status => terminate status
        return false) else return true : Work Session Bool) := by
    cases run.overruns with
    | false => exact Launch.did_nil ▸ .pure true
    | true =>
      have late := (treats_terminations number run.lateTerminations).andThen
        (Launch.did_nil ▸ .pure false : Treats number (Launch.did []) (pure false : Work Session Bool))
      rw [List.append_nil] at late
      exact (treats_modifyLaunch number (Launch.did [.kill])).andThen
        ((treats_modifyLaunch number (Launch.did [.wait])).andThen late)
  have whole := (treats_modifyLaunch number (Launch.did [.wait])).bind fun _ =>
    (treats_modifyLaunch number ({ · with input })).bind fun _ =>
      (treats_interrupt number run).andThen ended
  have order : (Launch.did (Deed.kills run.requests ++
        if run.overruns then .kill :: .wait :: Deed.kills run.lateTerminations else []) ∘
      fun launch : Launch => { launch with input }) ∘ Launch.did [.wait] =
      fun launch => { launch with input }.did (ChildScript.runs run).deeds := by
    funext launch
    simp [Launch.did, ChildScript.deeds]
  rw [order] at whole
  exact whole

private theorem handling_report (path message : String) (severity : Severity) (session : Session) :
    ((report path message severity).runFrom session).2.handling =
      (session.parser.running, session.world.launches, Report.hear session.heard
        ⟨"preprocessor",
          { message := Text.trimmed message, location := { file := some path }, severity }⟩) :=
  Prod.ext rfl (Prod.ext rfl (Session.heard_report _ _ session))

private theorem handling_collect (path binary timeout : String) {run : ChildRun}
    (inTime : run.overruns = false) (session : Session) :
    ((collect path run).runFrom session).2.handling =
      (session.parser.running, session.world.launches,
        ((ChildScript.runs run).report? path binary timeout).toList.foldl Report.hear
          session.heard) := by
  rw [collect, ChildScript.report?]
  simp only [inTime, Bool.false_eq_true, ↓reduceIte]
  by_cases exited : (run.exitCode != 0) = true
  · simp only [exited, ↓reduceIte]
    exact handling_report path _ .error session
  · simp only [exited, Bool.false_eq_true, ↓reduceIte]
    cases run.stderr.isEmpty with
    | true => rfl
    | false => exact handling_report path run.stderr .warning session

private theorem handling_of_await {arguments : List String} {input : Option String} {run : ChildRun}
    {waited : Session} {inTime : Bool}
    (waits : (await session.world.launches.length run input).runFrom
      (attending arguments input session) = (.ok inTime, waited)) :
    waited.handling = (some session.world.launches.length,
      session.world.launches ++ [(launchOf arguments input session.parser.stage (.runs run)).did
        (ChildScript.runs run).deeds], session.heard) := by
  obtain ⟨_, left, ran, treated⟩ := treats_await session.world.launches.length run input
    (attending arguments input session) rfl
  cases waits.symm.trans ran
  exact treated.trans (Prod.ext rfl
    (Prod.ext (modify_concat session.world.launches (noted arguments input session) _) rfl))

/-- A launch is the last one, its child process is dealt with and reported about, and no longer
running. -/
theorem handling_invoke (path : String) (arguments : List String) (input : Option String)
    (alone : session.Alone) :
    ((invoke path arguments input).runFrom session).2.handling =
      (none,
        session.world.launches ++
          [(launchOf arguments input session.parser.stage session.world.nextChild.1).did
            session.world.nextChild.1.deeds],
        (session.world.nextChild.1.report? path (arguments.headD "")
          session.parser.timeout).toList.foldl Report.hear session.heard) := by
  obtain ⟨message, goes⟩ := exists_invocation path arguments input session
  let announced : Session :=
    { session with journal := session.journal.add ⟨.debug, .preprocessor, message⟩ }
  have heard : announced.heard = session.heard :=
    Prod.ext rfl (session.journal.heard_add_of_ne (show Channel.preprocessor ≠ .diagnostic by decide))
  rw [← heard]
  generalize (invoke path arguments input).runFrom session = ended at goes ⊢
  generalize session.world.nextChild.1 = script at goes ⊢
  cases goes with
  | refused reason =>
    have refused := handling_report path
      ("unable to launch '" ++ arguments.headD "" ++ "': " ++ reason) .error
      (launching arguments input announced)
    exact refused.trans (Prod.ext alone rfl)
  | barred => exact Prod.ext alone (Prod.ext rfl rfl)
  | @late run waited overruns waits =>
    have timeout : waited.parser.timeout = session.parser.timeout :=
      congrArg (fun view => view.1.parser.timeout) (awaited_of_await waits)
    have late : (ChildScript.runs run).report? path (arguments.headD "") waited.parser.timeout =
        some ⟨"preprocessor",
          { message := Text.trimmed
              ("preprocessor timed out after " ++ waited.parser.timeout ++ " seconds")
            location := { file := some path }, severity := .error }⟩ := if_pos overruns
    have reported := handling_report path
      ("preprocessor timed out after " ++ waited.parser.timeout ++ " seconds") .error waited
    have handled := handling_of_await waits
    have launches : waited.world.launches = _ := congrArg (·.2.1) handled
    have heard : waited.heard = announced.heard := congrArg (·.2.2) handled
    rw [launches, heard] at reported
    rw [← timeout, late]
    exact Prod.ext rfl (congrArg (·.2) reported)
  | @inTime run waited inTime waits =>
    have handled := handling_of_await waits
    have collected := handling_collect path (arguments.headD "") session.parser.timeout inTime
      (released waited)
    refine collected.trans (Prod.ext rfl (Prod.ext (congrArg (·.2.1) handled) ?_))
    exact congrArg (List.foldl Report.hear · _) (congrArg (·.2.2) handled)

end Child

end UnitLift
