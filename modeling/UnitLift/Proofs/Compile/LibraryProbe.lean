import UnitLift.Compile.LibraryProbe
import UnitLift.Proofs.Work

/-! What the search for a library finds. A library that is asked for and cannot be loaded stays chosen, so
that it is tried again in the place of the default one; the libraries in the usual directories are
tried all the same. -/

namespace UnitLift

open Work

namespace LibraryHost

/-- Whether a library can be chosen and loaded. -/
def loads (host : LibraryHost) (path : String) : Bool :=
  !host.refused.contains path && host.loadable.contains (some path)

/-- Whether there is a file at the end of a path. -/
def leadsToFile (host : LibraryHost) (path : String) : Bool :=
  !host.missing.contains ((host.targets.get? path).getD path)

/-- The files in a directory that may be libraries. -/
def librariesIn (host : LibraryHost) (directory : String) : List String :=
  ((host.directories.get? directory).getD []).filter LibraryProbe.isLibraryName
    |>.map (Path.join directory)

/-- The files in the usual directories that may be libraries, and are there. -/
def installed (host : LibraryHost) : List String :=
  LibraryProbe.searchPatterns.flatMap fun pattern =>
    ((host.patterns.get? pattern).getD []).flatMap fun directory =>
      (host.librariesIn directory).filter host.leadsToFile

end LibraryHost

namespace LibraryProbe

variable {host : LibraryHost} {probe : LibraryProbe} {answer : Bool}

/-- An operation gives an answer on a machine, which it leaves alone, whatever library is chosen. -/
def Answers (host : LibraryHost) (answer : Bool) (work : Work LibraryProbe Bool) : Prop :=
  ∀ probe : LibraryProbe, probe.host = host →
    ∃ left, work.runFrom probe = (.ok answer, left) ∧ left.host = host

private theorem runFrom_recordCall (call : ProbeCall) (probe : LibraryProbe) :
    (recordCall call).runFrom probe = (.ok ⟨⟩, { probe with calls := probe.calls ++ [call] }) :=
  rfl

private theorem runFrom_note (level : Level) (message : String) (probe : LibraryProbe) :
    ∃ left, (note level message).runFrom probe = (.ok ⟨⟩, left) ∧
      left.host = probe.host ∧ left.chosen = probe.chosen ∧ left.setting = probe.setting :=
  ⟨_, rfl, rfl, rfl, rfl⟩

private theorem answers_anyM {α : Type} {each : α → Work LibraryProbe Bool} {test : α → Bool}
    (answers : ∀ item, Answers host (test item) (each item)) (items : List α) :
    Answers host (items.any test) (items.anyM each) := by
  induction items with
  | nil => exact fun probe same => ⟨probe, rfl, same⟩
  | cons item rest ih =>
    intro probe same
    obtain ⟨left, ran, kept⟩ := answers item probe same
    rw [List.anyM, runFrom_bind_of_ok ran, List.any_cons]
    cases test item with
    | true => exact ⟨left, rfl, kept⟩
    | false => exact ih left kept

/-- What comes of a library, whether it is chosen before or not. -/
private theorem runFrom_load (probe : LibraryProbe) :
    ∃ reason left, load.runFrom probe = (.ok reason, left) ∧
      left.host = probe.host ∧ left.chosen = probe.chosen ∧
      reason.isNone = probe.host.loadable.contains probe.chosen := by
  rw [load, runFrom_bind_of_ok (runFrom_recordCall _ probe), runFrom_bind_of_ok (runFrom_get _)]
  simp only
  cases probe.host.loadable.contains probe.chosen with
  | true => exact ⟨_, _, rfl, rfl, rfl, rfl⟩
  | false => exact ⟨_, _, rfl, rfl, rfl, rfl⟩

private theorem runFrom_loadFrom (path : String) (probe : LibraryProbe) :
    ∃ reason left, (loadFrom path).runFrom probe = (.ok reason, left) ∧
      left.host = probe.host ∧
      left.chosen = (if probe.host.refused.contains path then probe.chosen else some path) ∧
      reason.isNone = probe.host.loads path := by
  rw [loadFrom, runFrom_bind_of_ok (runFrom_recordCall _ probe), runFrom_bind_of_ok (runFrom_get _)]
  simp only [LibraryHost.loads]
  cases probe.host.refused.contains path with
  | true => exact ⟨_, _, rfl, rfl, rfl, rfl⟩
  | false =>
    simp only [Bool.false_eq_true, ↓reduceIte]
    rw [runFrom_bind_of_ok (runFrom_modify _ _)]
    obtain ⟨reason, left, ran, kept, chosen, known⟩ := runFrom_load _
    exact ⟨reason, left, ran, kept, chosen, known⟩

/-- Trying a library comes to whether it can be loaded, whatever is noted about that. -/
private theorem runFrom_tried {work : Work LibraryProbe (Option String)} {reason : Option String}
    {left : LibraryProbe} (ran : work.runFrom probe = (.ok reason, left))
    (level other : Level) (message : String) (complaint : String → String) :
    ∃ noted, (do
        match ← work with
        | none =>
          note level message
          return true
        | some reason =>
          note other (complaint reason)
          return false : Work LibraryProbe Bool).runFrom probe = (.ok reason.isNone, noted) ∧
      noted.host = left.host ∧ noted.chosen = left.chosen := by
  rw [runFrom_bind_of_ok ran]
  cases reason with
  | none => exact ⟨_, rfl, rfl, rfl⟩
  | some reason => exact ⟨_, rfl, rfl, rfl⟩

/-- A library that is asked for and cannot be loaded stays chosen, unless it could not be chosen. -/
private theorem runFrom_tryWanted (path : String) (probe : LibraryProbe) :
    ∃ left, (tryWanted path).runFrom probe = (.ok (probe.host.loads path), left) ∧
      left.host = probe.host ∧
      left.chosen = (if probe.host.refused.contains path then probe.chosen else some path) := by
  obtain ⟨reason, tried, ran, kept, chosen, known⟩ := runFrom_loadFrom path probe
  obtain ⟨left, noted, sameHost, sameChosen⟩ := runFrom_tried ran .info .warning _ _
  exact ⟨left, known ▸ noted, sameHost.trans kept, sameChosen.trans chosen⟩

private theorem runFrom_tryDefault (probe : LibraryProbe) :
    ∃ left, tryDefault.runFrom probe = (.ok (probe.host.loadable.contains probe.chosen), left) ∧
      left.host = probe.host := by
  obtain ⟨reason, tried, ran, kept, -, known⟩ := runFrom_load probe
  obtain ⟨left, noted, sameHost, -⟩ := runFrom_tried ran .debug .debug _ _
  exact ⟨left, known ▸ noted, sameHost.trans kept⟩

private theorem answers_tryFound (path : String) :
    Answers host (host.leadsToFile path && host.loads path) (tryFound path) := by
  rintro probe rfl
  rw [tryFound, runFrom_bind_of_ok (runFrom_get probe), LibraryHost.leadsToFile]
  simp only
  cases probe.host.missing.contains ((probe.host.targets.get? path).getD path) with
  | true => exact ⟨_, rfl, rfl⟩
  | false =>
    simp only [Bool.false_eq_true, ↓reduceIte]
    obtain ⟨reason, tried, ran, kept, -, known⟩ := runFrom_loadFrom path probe
    obtain ⟨left, noted, sameHost, -⟩ := runFrom_tried ran .info .debug _ _
    exact ⟨left, known ▸ noted, sameHost.trans kept⟩

private theorem answers_tryDirectory (directory : String) :
    Answers host ((host.librariesIn directory).any fun path =>
      host.leadsToFile path && host.loads path) (tryDirectory directory) := by
  rintro probe rfl
  rw [tryDirectory, runFrom_bind_of_ok (runFrom_get probe), LibraryHost.librariesIn, List.any_map]
  exact answers_anyM (fun name => answers_tryFound (Path.join directory name)) _ probe rfl

private theorem answers_tryPattern (pattern : String) :
    Answers host (((host.patterns.get? pattern).getD []).any fun directory =>
      (host.librariesIn directory).any fun path => host.leadsToFile path && host.loads path)
      (tryPattern pattern) := by
  rintro probe rfl
  rw [tryPattern, runFrom_bind_of_ok (runFrom_recordCall _ probe), runFrom_bind_of_ok (runFrom_get _)]
  exact answers_anyM answers_tryDirectory _ _ rfl

/-- The search in the usual directories finds whatever can be loaded there. -/
theorem answers_search : Answers host (host.installed.any host.loads) search := by
  rintro probe rfl
  obtain ⟨noted, ranNote, sameHost, -⟩ := runFrom_note .debug
    ("Searching for libclang in common locations: " ++ Text.quotedList searchPatterns) probe
  obtain ⟨searched, ran, kept⟩ := answers_anyM answers_tryPattern searchPatterns noted sameHost
  rw [search, runFrom_bind_of_ok ranNote, runFrom_bind_of_ok ran]
  simp only [LibraryHost.installed, List.any_flatMap, List.any_filter]
  cases searchPatterns.any _ with
  | true => exact ⟨_, rfl, kept⟩
  | false => exact ⟨_, rfl, kept⟩

/-- What the first search comes to: a library that is asked for and cannot be loaded takes the place of
the default one, unless it cannot even be chosen. -/
def finds (host : LibraryHost) (wanted : Option String) : Bool :=
  host.installed.any host.loads ||
    match wanted with
    | none => host.loadable.contains none
    | some path =>
      host.loads path || (host.refused.contains path && host.loadable.contains none)

private theorem runFrom_defaultOrSearch (probe : LibraryProbe) :
    ∃ left, (do
        if ← tryDefault then return true
        search : Work LibraryProbe Bool).runFrom probe =
      (.ok (probe.host.loadable.contains probe.chosen ||
        probe.host.installed.any probe.host.loads), left) := by
  obtain ⟨tried, ran, kept⟩ := runFrom_tryDefault probe
  rw [runFrom_bind_of_ok ran]
  cases probe.host.loadable.contains probe.chosen with
  | true => exact ⟨_, rfl⟩
  | false =>
    obtain ⟨left, searched, -⟩ := answers_search tried kept
    exact ⟨left, searched⟩

theorem runFrom_configureOnce {argument : Value} {path : Option String}
    (unchosen : probe.chosen = none) (given : wanted argument probe.setting = .ok path) :
    ∃ left, (configureOnce argument).runFrom probe = (.ok (finds probe.host path), left) := by
  obtain ⟨noted, ranNote, sameHost, sameChosen, sameSetting⟩ := runFrom_note .debug
    "Python libclang module loaded from: clang/__init__.py" probe
  have asked : (Work.ofFault (wanted argument noted.setting) : Work LibraryProbe _).runFrom noted =
      (.ok path, noted) := by
    rw [sameSetting, given]
    rfl
  rw [configureOnce, runFrom_bind_of_ok ranNote, runFrom_bind_of_ok (runFrom_get noted),
    runFrom_bind_of_ok asked]
  cases path with
  | none =>
    obtain ⟨left, ran⟩ := runFrom_defaultOrSearch noted
    rw [sameHost, sameChosen, unchosen] at ran
    rw [finds, Bool.or_comm]
    exact ⟨left, ran⟩
  | some path =>
    obtain ⟨tried, ran, kept, chosen⟩ := runFrom_tryWanted path noted
    rw [sameHost] at ran kept chosen
    simp only
    rw [runFrom_bind_of_ok ran, finds]
    cases loads : probe.host.loads path with
    | true => exact ⟨tried, by simp⟩
    | false =>
      obtain ⟨left, ranRest⟩ := runFrom_defaultOrSearch tried
      refine ⟨left, ranRest.trans ?_⟩
      rw [kept, chosen, sameChosen, unchosen]
      cases refused : probe.host.refused.contains path with
      | true => simp [Bool.or_comm]
      | false =>
        have unloadable : probe.host.loadable.contains (some path) = false := by
          simpa only [LibraryHost.loads, refused, Bool.not_false, Bool.true_and] using loads
        simp only [Bool.false_eq_true, ↓reduceIte, unloadable, Bool.false_or, Bool.false_and,
          Bool.or_false]

/-- The first call finds a library if the one that is asked for can be loaded, or one in the usual
directories, or the default one unless another was asked for and could be chosen. All later calls give
the same answer, and do not ask the machine again. -/
theorem configure_finds_iff {argument : Value} {path : Option String}
    (fresh : probe.outcome = none) (unchosen : probe.chosen = none)
    (given : wanted argument probe.setting = .ok path) :
    ∃ found left, (configure argument).runFrom probe = (.ok found, left) ∧
      (found = true ↔ (∃ asked, path = some asked ∧ probe.host.loads asked = true) ∨
        (none ∈ probe.host.loadable ∧ ∀ asked, path = some asked → asked ∈ probe.host.refused) ∨
        ∃ library ∈ probe.host.installed, probe.host.loads library = true) ∧
      ∀ now : LibraryProbe, now.outcome = left.outcome →
        ∀ other, (configure other).runFrom now = (.ok found, now) := by
  obtain ⟨probed, ran⟩ := runFrom_configureOnce unchosen given
  refine ⟨finds probe.host path, { probed with outcome := some (finds probe.host path) }, ?_, ?_, ?_⟩
  · rw [configure, runFrom_bind_of_ok (runFrom_get probe)]
    simp only [fresh]
    rw [runFrom_bind_of_ok ran]
    rfl
  · cases path with
    | none => simp [finds, or_comm]
    | some path =>
      simp only [finds, Bool.or_eq_true, Bool.and_eq_true, List.any_eq_true, List.contains_iff_mem,
        Option.some.injEq, exists_eq_left', forall_eq']
      grind
  · intro now known other
    rw [configure, runFrom_bind_of_ok (runFrom_get now), known]
    rfl

/-- A machine with a library in one of the usual directories, of which the setting does not know. -/
def installedSample : LibraryProbe where
  host :=
    { loadable := [some "/usr/lib/libclang-17.so"]
      patterns := .ofList [("/usr/lib", ["/usr/lib"])]
      directories := .ofList [("/usr/lib", ["libc.so", "libclang-9.so", "libclang-17.so"])]
      missing := ["/usr/lib/libclang-9.so"] }
  setting := .ok (.text "/opt/libclang.so")

theorem configure_finds_installed_sample :
    ∃ left, (configure .null).runFrom installedSample = (.ok true, left) ∧
      (configure (.text "/opt/libclang.so")).runFrom left = (.ok true, left) := by
  obtain ⟨found, left, ran, finds, later⟩ :=
    @configure_finds_iff installedSample .null (some "/opt/libclang.so") rfl rfl rfl
  have works : found = true := by
    refine finds.mpr (.inr (.inr ⟨"/usr/lib/libclang-17.so", ?_, ?_⟩))
    · decide +kernel
    · decide +kernel
  subst works
  exact ⟨left, ran, later left rfl _⟩

/-- The default library can be loaded, but not the one that is asked for: it hides the default one. -/
theorem configure_hides_default_sample :
    let probe : LibraryProbe := { host := { loadable := [none] } }
    ((configure .null).runFrom probe).1 = .ok true ∧
      none ∈ probe.host.loadable ∧ probe.host.refused = [] ∧
      ((configure (.text "/opt/libclang.so")).runFrom probe).1 = .ok false := by
  intro probe
  exact ⟨rfl, by decide, rfl, rfl⟩

end LibraryProbe

end UnitLift
