import UnitLift.Proofs.Parse.Lifecycle
import UnitLift.Proofs.Parse.Lifting

/-! What diagnostics of the library make of a parse. Those of a known severity are reported in order, up
to the first fatal one. That one stops the parse; otherwise the root of the file tells whether there was
an error. -/

namespace UnitLift

open Work

namespace UnitDiagnostic

def isFatal (diagnostic : UnitDiagnostic) : Bool := diagnostic.severity == 4

/-- The library gives a diagnostic a severity from 1, a note, to 4, if it is not to be ignored. -/
def isKnown (diagnostic : UnitDiagnostic) : Bool :=
  1 ≤ diagnostic.severity && diagnostic.severity ≤ 4

/-- The place of a diagnostic in its file, if it has one. -/
def location (diagnostic : UnitDiagnostic) : SourceLocation :=
  match diagnostic.place.file with
  | none => {}
  | some file => ⟨some file, some diagnostic.place.line, some diagnostic.place.column⟩

/-- How a diagnostic of the library is reported. -/
structure ReportedAs (diagnostic : UnitDiagnostic) (report : Report) : Prop where
  source : report.source = "libclang"
  message : report.diagnostic.message = diagnostic.message
  location : report.diagnostic.location = diagnostic.location
  unplaced : report.diagnostic.location = {} ↔ diagnostic.place.file = none
  note : diagnostic.severity = 1 → report.diagnostic.severity = .info
  warning : diagnostic.severity = 2 → report.diagnostic.severity = .warning
  error : diagnostic.severity = 3 → report.diagnostic.severity = .error
  fatal : diagnostic.severity = 4 → report.diagnostic.severity = .critical

end UnitDiagnostic

namespace Parser

open UnitDiagnostic (isFatal isKnown ReportedAs)

/-- Items up to and including the first one that is the last. -/
def upTo {α : Type} (isLast : α → Bool) : List α → List α
  | [] => []
  | item :: rest => if isLast item then [item] else item :: upTo isLast rest

/-- The diagnostics of a unit that are passed on: those of a known severity, up to and including the
first fatal one. -/
def passedOn (diagnostics : List UnitDiagnostic) : List UnitDiagnostic :=
  (upTo isFatal diagnostics).filter isKnown

private def reportsOf (diagnostics : List UnitDiagnostic) : List Report :=
  (upTo (·.severity == .critical) (diagnostics.filterMap diagnostic?)).map (Report.mk "libclang")

private theorem isSome_diagnostic? (unitDiagnostic : UnitDiagnostic) :
    (diagnostic? unitDiagnostic).isSome = isKnown unitDiagnostic := by
  rw [diagnostic?, Option.isSome_map]
  grind [severity?, isKnown]

private theorem reportedAs_of_diagnostic? {unitDiagnostic : UnitDiagnostic} {diagnostic : Diagnostic}
    (counts : diagnostic? unitDiagnostic = some diagnostic) :
    ReportedAs unitDiagnostic ⟨"libclang", diagnostic⟩ := by
  obtain ⟨severity, known, rfl⟩ := Option.map_eq_some_iff.mp counts
  have unplaced : unitDiagnostic.location = {} ↔ unitDiagnostic.place.file = none := by
    rw [UnitDiagnostic.location]
    cases unitDiagnostic.place.file with
    | none => simp
    | some file => simp
  constructor
  case source => rfl
  case message => rfl
  case location => rfl
  case unplaced => exact unplaced
  all_goals grind [severity?]

private theorem any_fatal (unitDiagnostic : UnitDiagnostic) :
    (diagnostic? unitDiagnostic).any (·.severity == .critical) = isFatal unitDiagnostic := by
  rw [diagnostic?, Option.any_map]
  grind [severity?, isFatal]

private theorem any_error (unitDiagnostic : UnitDiagnostic) :
    (diagnostic? unitDiagnostic).any (·.severity == .error) = (unitDiagnostic.severity == 3) := by
  rw [diagnostic?, Option.any_map]
  grind [severity?]

private theorem reported (diagnostics : List UnitDiagnostic) :
    List.Forall₂ ReportedAs (passedOn diagnostics) (reportsOf diagnostics) := by
  induction diagnostics with
  | nil => exact .nil
  | cons unitDiagnostic rest ih =>
    have known := isSome_diagnostic? unitDiagnostic
    have fatal := any_fatal unitDiagnostic
    rw [passedOn, reportsOf, upTo, List.filterMap_cons, ← fatal]
    cases counts : diagnostic? unitDiagnostic with
    | none =>
      rw [counts, Option.isSome_none] at known
      rw [Option.any_none, if_neg (by simp), List.filter_cons_of_neg (by simp [← known])]
      exact ih
    | some diagnostic =>
      rw [counts, Option.isSome_some] at known
      have first := reportedAs_of_diagnostic? counts
      rw [Option.any_some, upTo]
      by_cases last : (diagnostic.severity == .critical) = true
      · rw [if_pos last, if_pos last, List.filter_cons_of_pos known.symm]
        exact .cons first .nil
      · rw [if_neg last, if_neg last, List.filter_cons_of_pos known.symm]
        exact .cons first ih

private theorem heard_drain (path : String) (errors warnings : Nat) (diagnostics : List Diagnostic)
    (session : Session) :
    ((drain path errors warnings diagnostics).runFrom session).2.heard =
      ((upTo (·.severity == .critical) diagnostics).map (Report.mk "libclang")).foldl Report.hear
        session.heard := by
  induction diagnostics generalizing errors warnings session with
  | nil => rfl
  | cons diagnostic rest ih =>
    obtain ⟨_, reported, ranReport, -⟩ := Session.passes_report "libclang" diagnostic session
    have once := Session.heard_report "libclang" diagnostic session
    rw [ranReport] at once
    rw [drain, runFrom_bind_of_ok ranReport, upTo]
    cases severity : diagnostic.severity with
    | critical => exact once
    | _ => exact (ih _ _ reported).trans (by rw [once]; rfl)

private theorem heard_drainDiagnostics (path : String) (diagnostics : List UnitDiagnostic)
    (session : Session) :
    ((drainDiagnostics path diagnostics).runFrom session).2.heard =
      (reportsOf diagnostics).foldl Report.hear session.heard := by
  have logged (level : Level) (message : String) :
      Keeps Session.heard (Session.log level .parser message) :=
    fun session => Prod.ext rfl (session.journal.heard_add_of_ne (by simp))
  have heard := heard_drain path 0 0 (diagnostics.filterMap diagnostic?) session
  rw [drainDiagnostics, reportsOf, ← heard]
  refine Keeps.bind_last (fun counts => ?_) session
  obtain ⟨errors, warnings⟩ := counts
  simp only
  split
  · exact (logged _ _).bind fun _ => .pure _
  · split
    · exact (logged _ _).bind fun _ => .pure _
    · exact .pure _

/-- The session after a parse has heard what is passed on of the diagnostics of the unit. -/
private theorem heard_parseFile {session prepared : Session} {path : String} {view : ConfigView}
    {preprocessed : Preprocessed} {cursors : List Cursor} {diagnostics : List UnitDiagnostic}
    (ran : (prepare path view).runFrom session = (.ok preprocessed, prepared))
    (opened : prepared.parser.closed = false)
    (script : prepared.world.nextUnit.1 = .unit cursors diagnostics) :
    ((parseFile path view).runFrom session).2.heard =
      (reportsOf diagnostics).foldl Report.hear prepared.heard := by
  have lifted (preprocessed : Preprocessed) (unit : List Cursor × Bool) :
      Keeps Session.heard (liftUnit path preprocessed unit.1 unit.2) :=
    (keeps_liftUnit path preprocessed unit.1 unit.2).comp (·.1.2.2)
  let entered : Session := { prepared with parser := { prepared.parser with stage := .parsing } }
  obtain ⟨asked, ranUnit, -, heard⟩ := runFrom_parseUnit path view preprocessed entered opened
  have answered : answer path entered.world.nextUnit.1 = .ok (cursors, diagnostics) := by
    rw [show entered.world.nextUnit.1 = _ from script, answer]
  rw [answered] at ranUnit
  rw [parseFile_eq, runFrom_bind_of_ok ran]
  refine (Keeps.bind_last (lifted preprocessed) prepared).trans ?_
  rw [askLibrary, runFrom_bind_of_ok (Session.runFrom_enter _ _), runFrom_bind_of_ok ranUnit]
  refine (Keeps.bind_last (fun _ => .pure _) asked).trans ?_
  rw [heard_drainDiagnostics, heard]
  rfl

private theorem mem_of_mem_upTo {α : Type} {isLast : α → Bool} {item : α} {items : List α}
    (member : item ∈ upTo isLast items) : item ∈ items := by
  induction items with
  | nil => cases member
  | cons first rest ih =>
    rw [upTo] at member
    split at member
    · exact List.mem_singleton.mp member ▸ List.mem_cons_self
    · exact (List.mem_cons.mp member).elim (· ▸ List.mem_cons_self)
        (List.mem_cons_of_mem first <| ih ·)

private theorem severity_of_mem_reportsOf {diagnostics : List UnitDiagnostic} {report : Report}
    (member : report ∈ reportsOf diagnostics) : report.diagnostic.severity ≠ .debug := by
  obtain ⟨diagnostic, inside, rfl⟩ := List.mem_map.mp member
  obtain ⟨unitDiagnostic, -, counts⟩ := List.mem_filterMap.mp (mem_of_mem_upTo inside)
  obtain ⟨severity, known, rfl⟩ := Option.map_eq_some_iff.mp counts
  grind [severity?]

/-- What the library's answer comes to if it gives a unit. -/
private theorem outcomeOf_unit (path : String) (cursors : List Cursor)
    (diagnostics : List UnitDiagnostic) :
    outcomeOf path (.unit cursors diagnostics) =
      match diagnostics.find? isFatal with
      | some fatal => .error (.parsing (.fatalDiagnostic path fatal.location.text fatal.message))
      | none => .ok (cursors, diagnostics.any (·.severity == 3)) := by
  have judged : verdict path (diagnostics.filterMap diagnostic?) =
      match diagnostics.find? isFatal with
      | some fatal => .error (.parsing (.fatalDiagnostic path fatal.location.text fatal.message))
      | none => .ok (diagnostics.any (·.severity == 3)) := by
    have errors : (diagnostics.filterMap diagnostic?).any (·.severity == .error) =
        diagnostics.any (·.severity == 3) := by
      rw [List.any_filterMap]
      congr 1
      funext unitDiagnostic
      rw [← any_error unitDiagnostic]
      cases diagnostic? unitDiagnostic <;> rfl
    rw [verdict, List.find?_filterMap, errors]
    simp only [any_fatal]
    cases first : diagnostics.find? isFatal with
    | none => rfl
    | some fatal =>
      have fatally := List.find?_some first
      rw [← any_fatal] at fatally
      cases counts : diagnostic? fatal with
      | none =>
        rw [counts] at fatally
        cases fatally
      | some diagnostic =>
        have reported := reportedAs_of_diagnostic? counts
        rw [Option.bind_some, counts]
        simp only [← reported.location, ← reported.message]
  rw [outcomeOf, answer]
  simp only [bind, Except.bind, judged]
  cases diagnostics.find? isFatal with
  | some fatal => rfl
  | none => rfl

/-- A file is in a graph below its root, which tells whether there were errors. -/
structure LiftedFrom (session : Session) (path : String) (cursors : List Cursor)
    (hadErrors : Prop) (root : EntityId) (left : Session) : Prop where
  facts : ∃ facts, (left.graph.get? root).bind (·.facts) = some facts ∧
    (facts.hadErrors = true ↔ hadErrors)
  lifts : ∃ lifted,
    Lifts session.world.pathView (session.world.pathView.resolve path) cursors left.graph root lifted
  index : left.index =
    (session.index.registerAll left.graph (left.graph.below root)).registerFile left.graph root

variable {session prepared left : Session} {path : String} {config : CompileConfig}
  {result : Except Stop EntityId} {preprocessed : Preprocessed} {cursors : List Cursor}
  {diagnostics : List UnitDiagnostic} {rest : List UnitScript}

private theorem ends_of_unit (admitted : Admits session (.library config))
    (prepares : preparation session path config.view = (.ok preprocessed, prepared))
    (opened : prepared.parser.closed = false)
    (units : session.world.units = .unit cursors diagnostics :: rest)
    (ran : (parse (.path path) (.library config)).runFrom session = (result, left)) :
    let absolute := Path.absolute session.world.currentDirectory path
    match diagnostics.find? isFatal with
    | some fatal => result = .error (.failure (.parsing
        (.fatalDiagnostic absolute fatal.location.text fatal.message)))
    | none => ∃ root, result = .ok root ∧ LiftedFrom session absolute cursors
        (∃ diagnostic ∈ diagnostics, diagnostic.severity = 3) root left := by
  intro absolute
  have script : session.world.nextUnit.1 = .unit cursors diagnostics := by
    rw [World.nextUnit, units]
  have outcome := outcomeOf_unit absolute cursors diagnostics
  rw [← script] at outcome
  obtain ⟨parsed, after, run, settled⟩ := exists_fileRun admitted path
  have same := ran.symm.trans settled
  rw [preparation] at prepares
  cases run with
  | unprepared stops => cases prepares.symm.trans stops
  | released ready closed =>
    cases prepares.symm.trans ready
    cases opened.symm.trans closed
  | unparsed _ _ answered =>
    have judged := answered.symm.trans outcome
    cases first : diagnostics.find? isFatal with
    | none =>
      rw [first] at judged
      cases judged
    | some fatal =>
      rw [first] at judged
      cases judged
      exact congrArg (·.1) same
  | lifted _ _ answered grew _ graph index =>
    have judged := answered.symm.trans outcome
    cases first : diagnostics.find? isFatal with
    | some fatal =>
      rw [first] at judged
      cases judged
    | none =>
      rw [first] at judged
      cases judged
      cases same
      subst graph
      obtain ⟨lifts, planted, facts⟩ := exists_lifts_of_grown grew
      rw [planted] at index
      have errors : (diagnostics.any (·.severity == 3)) = true ↔
          ∃ diagnostic ∈ diagnostics, diagnostic.severity = 3 := by simp
      exact ⟨_, rfl, { facts := ⟨_, facts, errors⟩, lifts, index }⟩

/-- Diagnostics decide how a call ends that gets a unit from the library. Those of a known severity are
reported, in order, up to the first fatal one. If there is a fatal one, the call fails and names the
first; otherwise it lifts the cursors of the unit, and the root tells whether there was an error. -/
theorem outcome_of_diagnostics (admitted : Admits session (.library config))
    (prepares : preparation session path config.view = (.ok preprocessed, prepared))
    (opened : prepared.parser.closed = false)
    (units : session.world.units = .unit cursors diagnostics :: rest)
    (ran : (parse (.path path) (.library config)).runFrom session = (result, left)) :
    let absolute := Path.absolute session.world.currentDirectory path
    (∃ reports, List.Forall₂ ReportedAs (passedOn diagnostics) reports ∧
      left.heard = reports.foldl Report.hear prepared.heard ∧
      (prepared.sink.delivery = .record →
        left.sink.records = prepared.sink.records ++ reports)) ∧
    ((∃ cause, result = .error (.failure (.parsing cause))) ↔
      ∃ diagnostic ∈ diagnostics, diagnostic.severity = 4) ∧
    (∀ fatal, diagnostics.find? isFatal = some fatal → ∃ cause,
      result = .error (.failure (.parsing cause)) ∧ cause.path = some absolute ∧
        cause.message = "fatal error while parsing '" ++ absolute ++ "': " ++
          fatal.location.text ++ ": " ++ fatal.message) ∧
    ((∀ diagnostic ∈ diagnostics, diagnostic.severity ≠ 4) → ∃ root, result = .ok root ∧
      LiftedFrom session absolute cursors (∃ diagnostic ∈ diagnostics, diagnostic.severity = 3) root
        left) := by
  intro absolute
  have ends := ends_of_unit admitted prepares opened units ran
  have script : prepared.world.nextUnit.1 = .unit cursors diagnostics := by
    have kept : prepared.world.units = session.world.units :=
      congrArg (·.world.units) (unwritten_of_prepare prepares)
    rw [World.nextUnit, kept, units]
  have heard : left.heard = (reportsOf diagnostics).foldl Report.hear prepared.heard := by
    have handled := (handled_settle ((parseFile absolute config.view).runFrom (begun session))).1
    rw [← runFrom_parse admitted path, ran] at handled
    exact (congrArg (·.1.2.2) handled).trans (heard_parseFile prepares opened script)
  have recorded : prepared.sink.delivery = .record →
      left.sink.records = prepared.sink.records ++ reportsOf diagnostics := by
    intro recording
    have shown : ∀ report ∈ reportsOf diagnostics, report.diagnostic.severity ≠ .debug :=
      fun _ => severity_of_mem_reportsOf
    exact (congrArg (·.1.records) heard).trans (Report.records_foldl_hear shown recording)
  refine ⟨⟨_, reported diagnostics, heard, recorded⟩, ?_⟩
  cases first : diagnostics.find? isFatal with
  | none =>
    rw [first] at ends
    have mild : ∀ diagnostic ∈ diagnostics, diagnostic.severity ≠ 4 := by
      simpa [isFatal] using first
    refine ⟨iff_of_false ?_ ?_, by simp, fun _ => ends⟩
    · obtain ⟨root, rfl, -⟩ := ends
      simp
    · rintro ⟨diagnostic, member, fatal⟩
      exact mild diagnostic member fatal
  | some fatal =>
    rw [first] at ends
    have member := List.mem_of_find?_eq_some first
    have fatally : fatal.severity = 4 := by simpa [isFatal] using List.find?_some first
    refine ⟨iff_of_true ⟨_, ends⟩ ⟨fatal, member, fatally⟩, ?_, fun mild => ?_⟩
    · rintro _ ⟨⟩
      exact ⟨_, ends, rfl, rfl⟩
    · exact absurd fatally (mild fatal member)

/-- A session with a new parser, to which the library gives a unit with diagnostics: an ignored one, a
warning, an error, a fatal one, and a note that comes too late. -/
def diagnosedSample : Session :=
  { defaults := .sample
    world :=
      { currentDirectory := "/src"
        children := [.runs { stdout := "# 1 \"/src/a.cpp\"\nint a;\n" }]
        units := [.unit [] [⟨0, "ignored", {}⟩, ⟨2, "unused", ⟨some "/src/a.cpp", 1, 5⟩⟩,
          ⟨3, "no such name", {}⟩, ⟨4, "no such file", ⟨some "/src/a.cpp", 2, 1⟩⟩,
          ⟨1, "late", {}⟩]] } }

theorem outcome_of_diagnostics_sample :
    let config : CompileConfig := .blank BuildDefaults.sample.toolchain
    ∃ cause left, (parse (.path "a.cpp") (.library config)).runFrom diagnosedSample =
        (.error (.failure (.parsing cause)), left) ∧
      cause.message = "fatal error while parsing '/src/a.cpp': /src/a.cpp:2:1: no such file" ∧
      left.sink.records.map (·.diagnostic.severity) = [.warning, .error, .critical] := by
  intro config
  have admitted : Admits diagnosedSample (.library config) := by decide +kernel
  have ready : (preparation diagnosedSample "a.cpp" config.view).1.isOk = true := by decide +kernel
  have opened : (preparation diagnosedSample "a.cpp" config.view).2.parser.closed = false := by
    decide +kernel
  have empty : (preparation diagnosedSample "a.cpp" config.view).2.sink = .recording := by
    decide +kernel
  rcases prepares : preparation diagnosedSample "a.cpp" config.view with ⟨stop | preprocessed, prepared⟩
  · rw [prepares] at ready
    cases ready
  · rw [prepares] at opened empty
    rcases ran : (parse (.path "a.cpp") (.library config)).runFrom diagnosedSample with ⟨result, left⟩
    obtain ⟨⟨reports, reported, -, recorded⟩, -, fails, -⟩ :=
      outcome_of_diagnostics admitted prepares opened rfl ran
    obtain ⟨cause, rfl, -, message⟩ := fails ⟨4, "no such file", ⟨some "/src/a.cpp", 2, 1⟩⟩ rfl
    have absolute : Path.absolute diagnosedSample.world.currentDirectory "a.cpp" = "/src/a.cpp" := by
      decide +kernel
    rw [absolute] at message
    refine ⟨cause, left, rfl, message.trans (by decide +kernel), ?_⟩
    rw [recorded (by rw [empty]; rfl), empty]
    cases reported with
    | cons warning rest =>
      cases rest with
      | cons error rest =>
        cases rest with
        | cons fatal rest =>
          cases rest
          simp [Sink.recording, warning.warning rfl, error.error rfl, fatal.fatal rfl]

end Parser

end UnitLift
