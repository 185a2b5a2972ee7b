import UnitLift.Session

/-!
Child processes of the preprocessor. One child runs at a time; it is waited for until it ends or its
time is up, in which case it is killed and waited for again. Others may ask for the running child to
be killed while it is waited for.
-/

namespace UnitLift.Child

/-- The number of child processes is not told; this one stands for the one that runs. -/
def processNumber : Nat := 4242

def report (path message : String) (severity : Severity) : Work Session Unit :=
  Session.report "preprocessor"
    { message := Text.trimmed message, location := { file := some path }, severity }

/-- Notes that the running child was killed. -/
def kill (number : Nat) : Work Session Unit :=
  Session.modifyWorld (·.modifyLaunch number (Launch.did [.kill]))

def wait (number : Nat) : Work Session Unit :=
  Session.modifyWorld (·.modifyLaunch number (Launch.did [.wait]))

/-- Asks for the running child to be killed. There is nothing to do if none is running, or if it has
ended with `status` already. -/
def terminate (status : Option Int := none) : Work Session Unit := do
  match (← get).parser.running with
  | none => return
  | some number =>
    if status.isNone then
      Session.log .debug .preprocessor
        ("Killing preprocessor process " ++ toString processNumber)
      kill number

/-- Closes the parser, whose running child is killed. -/
def closeParser (status : Option Int := none) : Work Session Unit := do
  terminate status
  Session.modifyParser ({ · with closed := true })

/-- What others do while a child is waited for. -/
def interrupt (run : ChildRun) : Work Session Unit := do
  if run.terminated then terminate run.status
  if run.closed then closeParser run.status
  run.terminations.forM fun status => terminate status

/-- The diagnostic and the failure of a child that could not be launched. -/
def failLaunch (path binary reason : String) : Work Session String := do
  report path ("unable to launch '" ++ binary ++ "': " ++ reason) .error
  Work.fail (.preprocessing (.notLaunched binary reason))

/-- Waits for a running child: whether it came to its end in time. -/
def await (number : Nat) (run : ChildRun) (input : Option String) : Work Session Bool := do
  wait number
  Session.modifyWorld (·.modifyLaunch number ({ · with input }))
  interrupt run
  if run.overruns then
    kill number
    wait number
    run.lateTerminations.forM fun status => terminate status
    return false
  else return true

/-- The output of a child that came to its end. -/
def collect (path : String) (run : ChildRun) : Work Session String := do
  if run.exitCode != 0 then
    report path
      (if run.stderr.isEmpty then "preprocessor exited with code " ++ toString run.exitCode
       else run.stderr) .error
    Work.fail (.preprocessing (.exited path run.exitCode run.stderr))
  if !run.stderr.isEmpty then report path run.stderr .warning
  return run.stdout

/-- Runs a child over the file at `path` and gives its output. -/
def invoke (path : String) (arguments : List String) (input : Option String) :
    Work Session String := do
  let binary := arguments.headD ""
  Session.log .debug .preprocessor
    ("Running preprocessor: " ++
      String.intercalate " " (arguments.take 1 ++ (arguments.getLast?).toList) ++
      " (" ++ toString arguments.length ++ " arguments)")
  let session ← get
  let (script, world) := session.world.nextChild
  let number := world.launches.length
  let launch : Launch := { arguments, piped := input.isSome, stage := session.parser.stage }
  set { session with world := { world with launches := world.launches ++ [launch] } }
  match script with
  | .refused reason => failLaunch path binary reason
  | .barred => Work.fault .badArgument
  | .runs run =>
    Session.modifyParser ({ · with running := some number })
    let inTime ← await number run input
    if inTime then
      Session.modifyParser ({ · with running := none })
      collect path run
    else
      let seconds := (← get).parser.timeout
      report path ("preprocessor timed out after " ++ seconds ++ " seconds") .error
      Session.modifyParser ({ · with running := none })
      Work.fail (.preprocessing (.timedOut path seconds))

end UnitLift.Child
