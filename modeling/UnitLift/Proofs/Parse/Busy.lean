import UnitLift.Proofs.Parse.Reuse
import UnitLift.Proofs.Preprocess.Outcomes

namespace UnitLift.Parser

open Work

variable {session : Session} {config : AnyConfig} {jammed : Bool}

/-- A call that is taken up though it has no path. -/
def Jams (session : Session) : PathArgument → AnyConfig → Prop
  | .path _, _ => False
  | .other _, config => Admits session config

instance (session : Session) : (path : PathArgument) → (config : AnyConfig) →
    Decidable (Jams session path config)
  | .path _, _ => .isFalse id
  | .other _, config => inferInstanceAs (Decidable (Admits session config))

/-- Sessions with a new parser, and what they come to by calls on it with arguments of any kind, however
these end, and by closing it; `jammed` says whether a call was taken up that had no path. All but the
parser may change between calls. -/
inductive Tried : Bool → Session → Prop
  | new {session : Session} (timeout : String) (fresh : session.parser = { timeout }) :
      Tried false session
  | outside {jammed : Bool} {before after : Session} (tried : Tried jammed before)
      (same : after.parser = before.parser) : Tried jammed after
  | call {jammed : Bool} {before : Session} (tried : Tried jammed before) (course : Course)
      (path : PathArgument) (config : AnyConfig) :
      Tried (jammed || decide (Jams before path config))
        ((course.call path config).runFrom before).2
  | close {jammed : Bool} {before : Session} (tried : Tried jammed before) :
      Tried jammed (Parser.close.runFrom before).2

/-- The refusal for a busy parser, which comes after all other refusals. -/
theorem accept_refuses_busy_iff (path : PathArgument) (config : AnyConfig) :
    ((accept path config).runFrom session).1 = .error (.refused .parserBusy) ↔
      Suits config ∧ session.parser.closed = false ∧ session.parser.busy = true := by
  by_cases suits : Suits config
  · cases config with
    | plain flags => exact suits.elim
    | library config =>
      rw [runFrom_accept_of_suits suits]
      cases closed : session.parser.closed with
      | true => exact iff_of_false (by rintro ⟨⟩) (by simp)
      | false =>
        cases busy : session.parser.busy with
        | true => exact iff_of_true rfl ⟨suits, rfl, rfl⟩
        | false => exact iff_of_false (by rintro ⟨⟩) (by simp)
  · obtain ⟨refusal, ran, other⟩ := runFrom_accept_of_not_suits suits path
    rw [ran]
    refine iff_of_false (fun same => other ?_) fun busy => suits busy.1
    cases same
    rfl

private theorem prepare_ne_refused (path : String) (view : ConfigView) (session : Session)
    (refusal : Refusal) :
    ((prepare path view).runFrom session).1 ≠ .error (.refused refusal) := by
  intro stops
  have fails := Preprocessed.failsAsForeseen_run path view _ _ stops
  simp [Failure.kind] at fails

private theorem outcomeOf_ne_refused (path : String) (script : UnitScript) (refusal : Refusal) :
    outcomeOf path script ≠ .error (.invalidArgument refusal) := by
  intro refused
  cases script with
  | unit cursors diagnostics =>
    simp only [outcomeOf, answer, verdict, bind, Except.bind] at refused
    split at refused
    · rename_i stopped
      split at stopped
      · cases stopped
        cases refused
      · cases stopped
    · cases refused
  | _ => cases refused

/-- The parse of a file refuses nothing: that is done before. -/
private theorem Course.parseFile_ne_refused (course : Course) (path : String) (view : ConfigView)
    (session : Session) (refusal : Refusal) :
    ((course.parseFile path view).runFrom session).1 ≠ .error (.refused refusal) := by
  have prepared := prepare_ne_refused path view session refusal
  cases course with
  | answers =>
    have run := fileRun_parseFile path view session
    change ((Parser.parseFile path view).runFrom session).1 ≠ _
    generalize (Parser.parseFile path view).runFrom session = ended at run ⊢
    obtain ⟨result, left⟩ := ended
    cases run with
    | unprepared ran => simpa [ran] using prepared
    | released => simp
    | unparsed _ _ answered =>
      rintro ⟨⟩
      exact outcomeOf_ne_refused _ _ refusal answered
    | lifted => simp
  | breaksDown stage done =>
    change ((breakDown stage done path view).runFrom session).1 ≠ _
    rw [breakDown]
    rcases ran : (prepare path view).runFrom session with ⟨stop | preprocessed, left⟩
    · rw [runFrom_bind_of_error ran]
      simpa [ran] using prepared
    · rw [runFrom_bind_of_ok ran, runFrom_bind_of_ok (Session.runFrom_enter _ _),
        runFrom_bind_of_ok (runFrom_get _)]
      cases closed : left.parser.closed with
      | true =>
        simp only [closed, ↓reduceIte]
        nofun
      | false =>
        simp only [closed, Bool.false_eq_true, ↓reduceIte]
        nofun

theorem busy_of_call (course : Course) (path : PathArgument) (config : AnyConfig)
    (session : Session) :
    ((course.call path config).runFrom session).2.parser.busy =
      (session.parser.busy || decide (Jams session path config)) := by
  obtain ⟨_, ran, calling⟩ := exists_calling course.parseFile session path config
  rw [Course.call, ran]
  cases calling with
  | refused untaken =>
    have kept : ¬Jams session path config := by
      cases path with
      | path text => exact id
      | other printed => exact untaken
    simp [kept]
  | @pathless config admitted printed =>
    have jams : Jams session (.other printed) (.library config) := admitted
    simp [jams]
  | @settled config admitted text =>
    have free : session.parser.busy = false := (admits_iff.mp admitted).2.2
    have kept : ¬Jams session (.path text) (.library config) := id
    simp [free, kept]

/-- The parser is busy exactly after a call that was taken up though it had no path. -/
theorem Tried.busy (tried : Tried jammed session) : session.parser.busy = jammed := by
  induction tried with
  | new timeout fresh => rw [fresh]
  | outside _ same ih => rwa [same]
  | call _ course path config ih => rw [busy_of_call, ih]
  | @close _ before _ ih =>
    have kept := (Child.passes_closeParser none).keeps before
    exact (congrArg (·.1.parser.busy) kept).trans ih

/-- After any calls on a parser, the next one is refused since the parser is busy exactly if it would be
taken up otherwise, and a call was taken up before that had no path. -/
theorem refused_as_busy_iff (tried : Tried jammed session) (course : Course) (path : PathArgument)
    (config : AnyConfig) :
    ((course.call path config).runFrom session).1 = .error (.refused .parserBusy) ↔
      jammed = true ∧ Suits config ∧ session.parser.closed = false := by
  have busy := tried.busy
  have refuses := @accept_refuses_busy_iff session path config
  by_cases admitted : Admits session config
  · obtain ⟨suits, opened, free⟩ := admits_iff.mp admitted
    refine iff_of_false ?_ fun expected => ?_
    · cases config with
      | plain flags => exact admitted.elim
      | library config =>
        cases path with
        | other printed =>
          rw [Course.call, runFrom_callWith_other admitted]
          simp
        | path text =>
          rw [Course.call, runFrom_callWith admitted]
          intro refused
          have stopped := eq_of_settle_failure (Prod.ext refused rfl)
          exact course.parseFile_ne_refused _ _ _ _ stopped.1
    · rw [free, expected.1] at busy
      cases busy
  · obtain ⟨refusal, ran⟩ := runFrom_accept_of_not admitted path
    have call : (course.call path config).runFrom session = (.error (.refused refusal), session) :=
      runFrom_bind_of_error ran _
    simp only [ran, Except.error.injEq] at refuses
    simp only [call, Except.error.injEq, refuses, busy]
    tauto

/-- After a failure, a call on which the library broke down and one that was refused though it had no
path, the parser takes up a call. -/
theorem free_after_calls_sample :
    let config : AnyConfig := .library (.blank BuildDefaults.sample.toolchain)
    let session := ((parse (.other "5") (.plain [])).runFrom crashedSample).2
    Tried false session ∧
      ((parse (.path "a.cpp") config).runFrom session).1 ≠ .error (.refused .parserBusy) ∧
      ((parse (.path "a.cpp") config).runFrom session).1 = .ok 0 := by
  intro config session
  have failed : Tried false retriedSample :=
    (Tried.new "None" rfl).call .answers (.path "a.cpp") config
  have crashed : Tried false crashedSample :=
    failed.call (.breaksDown .lifting fun _ session => session) (.path "a.cpp") config
  have tried : Tried false session := crashed.call .answers (.other "5") (.plain [])
  have refuses := refused_as_busy_iff tried .answers (.path "a.cpp") config
  refine ⟨tried, fun refused => ?_, by decide +kernel⟩
  cases (refuses.mp refused).1

/-- Once a call without a path has been taken up, a call that a new parser takes up is refused. -/
theorem busy_after_call_sample :
    let config : AnyConfig := .library (.blank BuildDefaults.sample.toolchain)
    let fresh : Session := { retrySample with world := { retrySample.world with
      children := [.runs { stdout := "# 1 \"/src/a.cpp\"\nint a;\n" }] } }
    let jammed := ((parse (.other "5") config).runFrom fresh).2
    ((parse (.other "5") config).runFrom fresh).1 = .error (.fault .notAPath) ∧
      jammed.parser.closed = false ∧
      ((parse (.path "a.cpp") config).runFrom fresh).1 = .ok 0 ∧
      ((parse (.path "a.cpp") config).runFrom jammed).1 = .error (.refused .parserBusy) := by
  decide +kernel

end UnitLift.Parser
