import UnitLift.Proofs.Compile.Lifting
import UnitLift.Proofs.Database.Lookup

namespace UnitLift

/-- The commands that an open database has recorded for a file. -/
def Session.recorded? (session : Session) (id : DatabaseId) (file : String) :
    Option (List Command) := do
  let database ← session.databases[id]?
  let records ← database.records
  records.get? file

namespace Database

variable {session : Session} {id : DatabaseId} {file : String} {commands : List Command}

/-- The configuration of a recorded file is a fresh one that took over the recorded commands. -/
theorem configOf_of_recorded {toolchain : Option Toolchain} {fresh : CompileConfig}
    (recorded : session.recorded? id file = some commands)
    (created : CompileConfig.fresh session.defaults toolchain = .ok fresh) :
    ((configOf id (.path file) toolchain).runFrom session).1 =
      .ok (Takeover.ofCommands fresh commands).config := by
  obtain ⟨database, found, rest⟩ := Option.bind_eq_some_iff.mp recorded
  obtain ⟨records, opened, present⟩ := Option.bind_eq_some_iff.mp rest
  have known : records.contains file = true := by rw [Table.contains, present, Option.isSome_some]
  obtain ⟨left, ran, -⟩ := runFrom_configOf
    (Option.bind_eq_some_iff.mpr ⟨database, found, opened⟩) known toolchain
  rw [ran, configFrom, created, present]
  rfl

/-- Only a recorded file has a configuration, and only if a fresh one can be made. -/
theorem exists_of_configOf {name : PathArgument} {toolchain : Option Toolchain}
    {config : CompileConfig} (ran : ((configOf id name toolchain).runFrom session).1 = .ok config) :
    ∃ fresh commands, CompileConfig.fresh session.defaults toolchain = .ok fresh ∧
      config = (Takeover.ofCommands fresh commands).config := by
  cases opened : session.records? id with
  | none =>
    have refused : (hasConfig id name).runFrom session = (.error (.refused .databaseReleased), session) :=
      Work.runFrom_bind_of_error (runFrom_recordsOf_of_closed opened) _
    rw [configOf, Work.runFrom_bind_of_error refused] at ran
    cases ran
  | some records =>
    cases name with
    | other printed =>
      have broken : (hasConfig id (.other printed)).runFrom session =
          (.error (.fault .notAPath), session) :=
        Work.runFrom_bind_of_ok (runFrom_recordsOf_of_open opened) _
      rw [configOf, Work.runFrom_bind_of_error broken] at ran
      cases ran
    | path file =>
      cases known : records.contains file with
      | false =>
        obtain ⟨asked, knows, -⟩ := runFrom_hasConfig opened file
        rw [known] at knows
        rw [configOf, Work.runFrom_bind_of_ok knows] at ran
        cases ran
      | true =>
        obtain ⟨left, given, -⟩ := runFrom_configOf opened known toolchain
        rw [given, configFrom] at ran
        cases created : CompileConfig.fresh session.defaults toolchain with
        | error stop =>
          rw [created] at ran
          cases ran
        | ok fresh =>
          rw [created] at ran
          cases ran
          exact ⟨fresh, _, rfl, rfl⟩

/-- A recorded file has a configuration if the usual standard is known, and it is the one that all
recorded options describe together. -/
theorem configOf_describes (toolchain : Option Toolchain) {standard : Standard}
    (recorded : session.recorded? id file = some commands)
    (known : session.defaults.standard.resolve = .ok standard) :
    ∃ fresh config, CompileConfig.fresh session.defaults toolchain = .ok fresh ∧
      ((configOf id (.path file) toolchain).runFrom session).1 = .ok config ∧
      fresh.Describes ((CompileConfig.openingCalls session.defaults toolchain none).filterMap
        ConfigChange.mention?) (Takeover.options commands) config := by
  obtain ⟨fresh, created⟩ : ∃ fresh,
      CompileConfig.fresh session.defaults toolchain = .ok fresh := by
    rw [CompileConfig.fresh_eq, Option.getD_none, known]
    exact ⟨_, rfl⟩
  have extensions := CompileConfig.extensions_of_fresh created
  refine ⟨fresh, _, created, configOf_of_recorded recorded created, ?_⟩
  rw [Takeover.ofCommands_eq]
  exact CompileConfig.describes_takeAll (CompileConfig.records_of_fresh created)
    (by rw [extensions]) (by rw [extensions]) (Takeover.options commands)

end Database

/-- Two commands for one file: relative and absolute directories, an empty one, a standard that is
not known, and one name mentioned in two ways. -/
def Command.sample : List Command :=
  [⟨"/build", ["clang++", "-fms-extensions", "-I", "include", "-isystem", "/usr/../x", "-DF(x)=x",
      "-std=c++42", "-I", "", "main.cpp"]⟩,
    ⟨"/build/sub", ["clang++", "-std=gnu++14", "-I../include", "-UF(y)", "-DG=",
      "-isystem/usr/../x"]⟩]

def Session.sample : Session :=
  { defaults := .sample
    databases := #[{ directory := "/build", records := some ⟨[("main.cpp", Command.sample)]⟩ }] }

theorem Database.configOf_describes_sample :
    ∃ config, ((configOf 0 (.path "main.cpp")).runFrom .sample).1 = .ok config ∧
      (config.standard, config.extensions.gnu) = (.cpp14, true) ∧
      config.extensions.microsoft = true ∧
      config.shownDirs = ["/inc", "/build/include", "/usr/../x"] ∧
      config.shownAbout "F".toList = ["-UF"] ∧ config.shownAbout "G".toList = ["-DG="] := by
  have recorded : Session.sample.recorded? 0 "main.cpp" = some Command.sample := by decide
  have known : Session.sample.defaults.standard.resolve = .ok .cpp17 := by decide
  obtain ⟨fresh, config, created, ran, described⟩ := configOf_describes none recorded known
  cases created
  refine ⟨config, ran, ?_, ?_, ?_, ?_, ?_⟩
  · exact described.standard.trans (by decide)
  · exact described.microsoft.mpr (by decide)
  · exact described.includeDirs.trans (by decide)
  · exact (described.definitions _).trans (by decide)
  · exact (described.definitions _).trans (by decide)

end UnitLift
