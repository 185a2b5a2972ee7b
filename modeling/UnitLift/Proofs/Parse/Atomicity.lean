import UnitLift.Proofs.Compile.Calls
import UnitLift.Proofs.Parse.File

namespace UnitLift.Parser

open Work

variable {session left : Session}

/-- However a parse of a file stops, it has not come to lifting. -/
theorem FileRun.index_of_error {path : String} {view : ConfigView} {stop : Stop}
    (run : FileRun path view session (.error stop) left) :
    left.index = session.index ∧ left.graph = session.graph := by
  cases run with
  | unprepared ran =>
    have kept := unwritten_of_prepare ran
    exact ⟨congrArg (·.index) kept, congrArg (·.graph) kept⟩
  | released ran _ same =>
    have kept := unwritten_of_prepare ran
    rw [same]
    exact ⟨congrArg (·.index) kept, congrArg (·.graph) kept⟩
  | unparsed _ _ _ _ graph index => exact ⟨index, graph⟩

theorem unchanged_of_failure {path : PathArgument} {config : AnyConfig} {failure : Failure}
    (ran : (parse path config).runFrom session = (.error (.failure failure), left)) :
    left.index = session.index ∧ left.graph = session.graph ∧
      (¬Admits session config → ∃ refusal, failure = .invalidArgument refusal ∧ left = session) := by
  by_cases admitted : Admits session config
  · refine and_assoc.mp ⟨?_, fun refused => absurd admitted refused⟩
    cases config with
    | plain flags => exact admitted.elim
    | library config =>
      cases path with
      | other printed =>
        rw [runFrom_parse_other admitted] at ran
        cases ran
      | path path =>
        obtain ⟨result, after, run, settled⟩ := exists_fileRun admitted path
        obtain ⟨rfl, rfl⟩ := eq_of_settle_failure (settled.symm.trans ran)
        exact run.index_of_error
  · obtain ⟨refusal, unmoved⟩ := runFrom_parse_of_not admitted path
    rw [unmoved] at ran
    cases ran
    exact ⟨rfl, rfl, fun _ => ⟨refusal, rfl, rfl⟩⟩

/-- A session with a file in its index, in which a unit has an error and a fatal diagnostic. -/
def fatalSample : Session :=
  { defaults := .sample
    world :=
      { currentDirectory := "/src"
        children := [.runs { stdout := "# 1 \"/src/a.cpp\"\nint a;\n" }]
        units := [.unit [] [⟨3, "first", {}⟩, ⟨4, "second", {}⟩]] }
    index := { files := ⟨[("/src/b.cpp", 0)]⟩ } }

theorem unchanged_of_fatal_sample :
    let config : AnyConfig := .library (.blank BuildDefaults.sample.toolchain)
    let failure : Failure := .parsing (.fatalDiagnostic "/src/a.cpp" "<unknown>" "second")
    (∃ left, (parse (.path "a.cpp") config).runFrom fatalSample = (.error (.failure failure), left) ∧
      left.index = fatalSample.index ∧ left.graph = fatalSample.graph) ∧
    let closed : Session := { fatalSample with parser := { closed := true } }
    (parse (.path "a.cpp") config).runFrom closed = (.error (.refused .parserClosed), closed) := by
  intro config failure
  have stops : ((parse (.path "a.cpp") config).runFrom fatalSample).1 =
      .error (.failure failure) := by
    decide +kernel
  obtain ⟨left, fatal⟩ := exists_runFrom stops
  obtain ⟨index, graph, -⟩ := unchanged_of_failure fatal
  refine ⟨⟨left, fatal, index, graph⟩, ?_⟩
  intro closed
  have stops : ((parse (.path "a.cpp") config).runFrom closed).1 =
      .error (.refused .parserClosed) := by
    decide +kernel
  obtain ⟨left, refused⟩ := exists_runFrom stops
  obtain ⟨-, -, unmoved⟩ := unchanged_of_failure refused
  obtain ⟨refusal, -, same⟩ := unmoved (by decide)
  rw [refused, same]

end UnitLift.Parser
