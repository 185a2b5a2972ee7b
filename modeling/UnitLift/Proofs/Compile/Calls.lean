import UnitLift.Proofs.Compile.Arguments

namespace UnitLift

/-- Defaults with a toolchain that has a system include directory. -/
def BuildDefaults.sample : BuildDefaults :=
  { toolchain := ⟨"/usr/bin/clang++", ⟨17, 0, 6⟩, some "/inc"⟩
    standard := .token "c++17"
    release := (0, 3) }

namespace ConfigChange

/-- The standard and the extensions that a call selects, if it names a known standard. -/
def language? : ConfigChange → Option (Standard × Extensions)
  | setStandard choice extensions =>
    match choice.resolve with
    | .ok standard => some (standard, if choice.gnu then extensions.insert .gnu else extensions)
    | .error _ => none
  | _ => none

/-- What a call that can be made wants to stand in the arguments. -/
def mention? : ConfigChange → Option Mention
  | setStandard choice _ =>
    match choice.resolve with
    | .ok _ => some .language
    | .error _ => none
  | addIncludeDir (.path path) => some (.includeDir path)
  | define name value => some (.define (definitionText name value))
  | undefine name => some (.undefine (String.ofList (definedName name)))
  | _ => none

end ConfigChange

namespace CompileConfig

/-- The configuration after a caller tried a change. -/
def attempt (config : CompileConfig) (change : ConfigChange) : CompileConfig :=
  match config.apply change with
  | .ok changed => changed
  | .error _ => config

def attemptAll (config : CompileConfig) (changes : List ConfigChange) : CompileConfig :=
  changes.foldl attempt config

/-- A configuration that nothing has been called on. -/
def blank (toolchain : Toolchain) : CompileConfig :=
  { name := libraryName, binary := toolchain.binary, version := toolchain.version.packed
    flags := [], standard := .cpp17, extensions := {}, writePreprocessed := false
    fastPreprocessing := false, keepComments := false }

/-- The call that adds the system include directory of a toolchain, if it has one. -/
def systemIncludeCalls (toolchain : Toolchain) : List ConfigChange :=
  (toolchain.systemIncludeDir.toList.filter (!·.isEmpty)).map fun path =>
    .addIncludeDir (.path path)

/-- The calls by which a configuration is created. -/
def openingCalls (defaults : BuildDefaults) (toolchain : Option Toolchain)
    (standard : Option StandardChoice) : List ConfigChange :=
  systemIncludeCalls (toolchain.getD defaults.toolchain) ++
    [.setStandard (standard.getD defaults.standard) {},
      .define "__cppast__" (some "\"libclang\""),
      .define "__cppast_major__" (some (toString defaults.release.1)),
      .define "__cppast_minor__" (some (toString defaults.release.2))]

theorem attemptAll_append (config : CompileConfig) (first second : List ConfigChange) :
    config.attemptAll (first ++ second) = (config.attemptAll first).attemptAll second :=
  List.foldl_append

private theorem attemptAll_systemIncludeCalls (toolchain : Toolchain) :
    (blank toolchain).attemptAll (systemIncludeCalls toolchain) =
      match toolchain.systemIncludeDir with
      | some path =>
        if path.isEmpty then blank toolchain else (blank toolchain).addIncludeDir path
      | none => blank toolchain := by
  rw [systemIncludeCalls]
  cases toolchain.systemIncludeDir with
  | none => rfl
  | some path =>
    by_cases empty : path.isEmpty = true <;> simp [empty, attemptAll, attempt, apply]

theorem fresh_eq (defaults : BuildDefaults) (toolchain : Option Toolchain)
    (standard : Option StandardChoice) :
    fresh defaults toolchain standard =
      (standard.getD defaults.standard).resolve.map fun _ =>
        (blank (toolchain.getD defaults.toolchain)).attemptAll
          (openingCalls defaults toolchain standard) := by
  rw [openingCalls, attemptAll_append, attemptAll_systemIncludeCalls]
  simp only [fresh, setStandard, attemptAll, attempt, apply, List.foldl_cons, List.foldl_nil]
  cases (standard.getD defaults.standard).resolve <;> rfl

variable {log : List Mention} {config : CompileConfig}

theorem Records.attempt (records : config.Records log) (change : ConfigChange) :
    (config.attempt change).Records (log ++ change.mention?.toList) := by
  cases change with
  | setStandard choice extensions =>
    simp only [CompileConfig.attempt, apply, setStandard, ConfigChange.mention?]
    cases choice.resolve with
    | error stop => simpa [bind, Except.bind] using records
    | ok standard => exact records.selectStandard standard _
  | addIncludeDir path =>
    cases path with
    | path path => exact records.addIncludeDir path
    | other printed =>
      change config.Records (log ++ [])
      rwa [List.append_nil]
  | define name value => exact records.define name value
  | undefine name => exact records.undefine name
  | setBinary binary version =>
    cases binary <;> change config.Records (log ++ []) <;> rwa [List.append_nil]
  | setWritePreprocessed | setFastPreprocessing | setKeepComments =>
    change config.Records (log ++ [])
    rwa [List.append_nil]

theorem language_attempt (config : CompileConfig) (change : ConfigChange) :
    ((config.attempt change).standard, (config.attempt change).extensions) =
      change.language?.getD (config.standard, config.extensions) := by
  cases change with
  | setStandard choice extensions =>
    simp only [attempt, apply, setStandard, ConfigChange.language?]
    cases choice.resolve <;> rfl
  | addIncludeDir path =>
    cases path with
    | path path =>
      simp only [attempt, apply, addIncludeDir]
      split <;> rfl
    | other printed => rfl
  | define | undefine | setWritePreprocessed | setFastPreprocessing | setKeepComments => rfl
  | setBinary binary version => cases binary <;> rfl

theorem Records.attemptAll (records : config.Records log) (changes : List ConfigChange) :
    (config.attemptAll changes).Records (log ++ changes.filterMap ConfigChange.mention?) := by
  induction changes generalizing config log with
  | nil => simpa [CompileConfig.attemptAll] using records
  | cons change rest ih =>
    have next := ih (records.attempt change)
    have said : log ++ change.mention?.toList ++ rest.filterMap ConfigChange.mention? =
        log ++ (change :: rest).filterMap ConfigChange.mention? := by
      cases mentioned : change.mention? <;> simp [mentioned]
    rwa [said] at next

theorem language_attemptAll (config : CompileConfig) (changes : List ConfigChange) :
    ((config.attemptAll changes).standard, (config.attemptAll changes).extensions) =
      (changes.filterMap ConfigChange.language?).getLast?.getD
        (config.standard, config.extensions) := by
  induction changes generalizing config with
  | nil => rfl
  | cons change rest ih =>
    have next := ih (config.attempt change)
    rw [language_attempt] at next
    refine next.trans ?_
    cases selected : change.language? with
    | none => simp [selected]
    | some language => simp [selected, List.getLast?_cons]

theorem blank_records (toolchain : Toolchain) : (blank toolchain).Records [] := rfl

/-- A configuration that was created had its opening calls, one of which selected a standard. -/
theorem created_eq {defaults : BuildDefaults} {toolchain : Option Toolchain}
    {standard : Option StandardChoice} {fresh : CompileConfig}
    (created : CompileConfig.fresh defaults toolchain standard = .ok fresh) :
    fresh = (blank (toolchain.getD defaults.toolchain)).attemptAll
        (openingCalls defaults toolchain standard) ∧
      ∃ selected, (standard.getD defaults.standard).resolve = .ok selected := by
  rw [fresh_eq] at created
  cases chosen : (standard.getD defaults.standard).resolve with
  | error stop =>
    rw [chosen] at created
    cases created
  | ok selected =>
    rw [chosen] at created
    cases created
    exact ⟨rfl, selected, rfl⟩

theorem language_mem_openingCalls {defaults : BuildDefaults} {toolchain : Option Toolchain}
    {standard : Option StandardChoice} {selected : Standard}
    (chosen : (standard.getD defaults.standard).resolve = .ok selected) :
    Mention.language ∈
      (openingCalls defaults toolchain standard).filterMap ConfigChange.mention? := by
  have call : ConfigChange.setStandard (standard.getD defaults.standard) {} ∈
      openingCalls defaults toolchain standard := by
    simp [openingCalls]
  exact List.mem_filterMap.mpr ⟨_, call, by simp [ConfigChange.mention?, chosen]⟩

theorem records_of_fresh {defaults : BuildDefaults} {toolchain : Option Toolchain}
    {standard : Option StandardChoice} {fresh : CompileConfig}
    (created : CompileConfig.fresh defaults toolchain standard = .ok fresh) :
    fresh.Records ((openingCalls defaults toolchain standard).filterMap ConfigChange.mention?) := by
  rw [(created_eq created).1]
  exact (blank_records _).attemptAll _

/-- A created configuration has no extension but those that its standard asks for. -/
theorem extensions_of_fresh {defaults : BuildDefaults} {toolchain : Option Toolchain}
    {standard : Option StandardChoice} {fresh : CompileConfig}
    (created : CompileConfig.fresh defaults toolchain standard = .ok fresh) :
    fresh.extensions = { gnu := (standard.getD defaults.standard).gnu } := by
  obtain ⟨_, selected, chosen⟩ := created_eq created
  simp only [CompileConfig.fresh, setStandard, chosen] at created
  cases created
  cases (standard.getD defaults.standard).gnu <;> rfl

end CompileConfig

end UnitLift
