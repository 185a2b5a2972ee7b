import UnitLift.Proofs.Compile.Edits
import UnitLift.Proofs.Database.RoundTrip

/-! Equal configurations. They are compared by what a parser is told about them, which leaves out the
standard and the extensions; but the arguments tell these, so that equal configurations cannot be
told apart by any later change. -/

namespace UnitLift

namespace Flag

def ofArgument? (argument : String) : Option Flag :=
  ((CompileOption.valueAfter? "-I" argument).map includeDir).or <|
    ((CompileOption.valueAfter? "-D" argument).map define).or <|
      ((CompileOption.valueAfter? "-U" argument).map undefine).or <|
        ((CompileOption.valueAfter? "-std=" argument).bind fun token =>
          (Standard.ofToken? token).map (standard · (Standard.asksForGnu token))).or <|
          (Extension.ofArgument? argument).map extension

/-- Every flag but that of the GNU extensions, which are part of the standard, is shown by its
argument. -/
theorem ofArgument?_render {flag : Flag} (shown : flag ≠ .extension .gnu) :
    ofArgument? flag.render = some flag := by
  cases flag with
  | includeDir path =>
    rw [ofArgument?, render, valueAfter?_append]
    rfl
  | define definition =>
    have other : CompileOption.valueAfter? "-I" ("-D" ++ definition) = none := by
      simp [CompileOption.valueAfter?]
    rw [ofArgument?, render, other, valueAfter?_append]
    rfl
  | undefine name =>
    have others : CompileOption.valueAfter? "-I" ("-U" ++ name) = none ∧
        CompileOption.valueAfter? "-D" ("-U" ++ name) = none := by
      simp [CompileOption.valueAfter?]
    rw [ofArgument?, render, others.1, others.2, valueAfter?_append]
    rfl
  | standard chosen gnu =>
    have others : ∀ lead ∈ ["-I", "-D", "-U"],
        CompileOption.valueAfter? lead ("-std=" ++ chosen.spelling gnu) = none := by
      simp [CompileOption.valueAfter?]
    rw [ofArgument?, render, others "-I" (by simp), others "-D" (by simp), others "-U" (by simp),
      valueAfter?_append]
    simp [Standard.ofToken?_spelling, Standard.asksForGnu_spelling]
  | extension chosen =>
    cases chosen with
    | gnu => exact absurd rfl shown
    | microsoft | microsoftCompatibility => decide

theorem eq_of_map_render {first second : List Flag}
    (shownFirst : ∀ flag ∈ first, flag ≠ .extension .gnu)
    (shownSecond : ∀ flag ∈ second, flag ≠ .extension .gnu)
    (same : first.map render = second.map render) : first = second := by
  have read {flags : List Flag} (shown : ∀ flag ∈ flags, flag ≠ .extension .gnu) :
      (flags.map render).map ofArgument? = flags.map some := by
    rw [List.map_map]
    exact List.map_congr_left fun flag member => ofArgument?_render (shown flag member)
  have readSame := (read shownFirst).symm.trans ((congrArg _ same).trans (read shownSecond))
  exact List.map_injective_iff.mpr (fun _ _ => Option.some.inj) readSame

end Flag

namespace CompileConfig

variable {log : List Mention} {config : CompileConfig}

private theorem Records.mem_flags_iff (records : config.Records log)
    (selected : Mention.language ∈ log) {flag : Flag} (language : flag.slot = .language) :
    flag ∈ config.flags ↔ flag ∈ Slot.flags config.standard config.extensions log .language := by
  have written : Slot.language ∈ Slot.arrange (log.map Mention.slot) :=
    (Slot.mem_arrange _ _).mpr (List.mem_map_of_mem selected)
  conv_lhs => rw [records]
  rw [List.mem_flatMap]
  constructor
  · rintro ⟨slot, -, member⟩
    rwa [← Slot.slot_of_mem_flags member, language] at member
  · exact fun member => ⟨.language, written, member⟩

theorem Records.mem_flags_standard (records : config.Records log)
    (selected : Mention.language ∈ log) {standard : Standard} {gnu : Bool} :
    Flag.standard standard gnu ∈ config.flags ↔
      standard = config.standard ∧ gnu = config.extensions.gnu := by
  rw [records.mem_flags_iff selected rfl]
  simp [Slot.flags]

theorem Records.mem_flags_extension (records : config.Records log)
    (selected : Mention.language ∈ log) (extension : Extension) :
    Flag.extension extension ∈ config.flags ↔
      extension ≠ .gnu ∧ config.extensions.has extension = true := by
  rw [records.mem_flags_iff selected rfl]
  cases extension <;> simp [Slot.flags, Extensions.toList, Extension.all, Extension.argument?]

/-- Configurations with the same flags have the same standard and the same extensions. -/
theorem Records.language_eq {other : CompileConfig} {otherLog : List Mention}
    (records : config.Records log) (selected : Mention.language ∈ log)
    (otherRecords : other.Records otherLog) (otherSelected : Mention.language ∈ otherLog)
    (same : config.flags = other.flags) :
    config.standard = other.standard ∧ config.extensions = other.extensions := by
  have extension (chosen : Extension) (separate : chosen ≠ .gnu) :
      config.extensions.has chosen = other.extensions.has chosen := by
    have here := records.mem_flags_extension selected chosen
    have there := otherRecords.mem_flags_extension otherSelected chosen
    rw [same] at here
    simpa [separate] using here.symm.trans there
  have shown := (records.mem_flags_standard selected).mpr ⟨rfl, rfl⟩
  rw [same] at shown
  obtain ⟨standard, gnu⟩ := (otherRecords.mem_flags_standard otherSelected).mp shown
  refine ⟨standard, ?_⟩
  rw [Extensions.mk.injEq]
  exact ⟨gnu, extension .microsoft (by decide), extension .microsoftCompatibility (by decide)⟩

/-- A configuration that is meant for a parser of another name. -/
def named (name : String) (config : CompileConfig) : CompileConfig := { config with name }

theorem Records.named (records : config.Records log) (name : String) :
    (config.named name).Records log := records

/-- Configurations that were created or recorded, for a parser of any name, and then changed. -/
inductive Reached : CompileConfig → Prop
  | created {defaults : BuildDefaults} {toolchain : Option Toolchain}
      {standard : Option StandardChoice} {config : CompileConfig} (name : String)
      (ran : fresh defaults toolchain standard = .ok config) : Reached (config.named name)
  | recorded {session : Session} {id : DatabaseId} {file : PathArgument}
      {toolchain : Option Toolchain} {config : CompileConfig} (name : String)
      (ran : ((Database.configOf id file toolchain).runFrom session).1 = .ok config) :
      Reached (config.named name)
  | changed {config : CompileConfig} (reached : Reached config) (change : ConfigChange) :
      Reached (config.attempt change)

/-- The arguments of a configuration, and a standard among them, were written by some mentions. -/
theorem Reached.records (reached : Reached config) :
    ∃ log, config.Records log ∧ Mention.language ∈ log := by
  induction reached with
  | created name ran =>
    obtain ⟨-, selected, chosen⟩ := created_eq ran
    exact ⟨_, (records_of_fresh ran).named name, language_mem_openingCalls chosen⟩
  | recorded name ran =>
    obtain ⟨fresh, commands, created, same⟩ := Database.exists_of_configOf ran
    obtain ⟨-, selected, chosen⟩ := created_eq created
    rw [same, Takeover.ofCommands_eq]
    let start : Takeover := { config := fresh }
    have opened : start.config.Records _ := records_of_fresh created
    have records := Takeover.records_takeAll opened (Takeover.options commands)
    exact ⟨_, records.named name, List.mem_append_left _ (language_mem_openingCalls chosen)⟩
  | changed _ change ih =>
    obtain ⟨log, records, selected⟩ := ih
    exact ⟨_, records.attempt change, List.mem_append_left _ selected⟩

theorem Reached.attemptAll (reached : Reached config) (changes : List ConfigChange) :
    Reached (config.attemptAll changes) := by
  induction changes generalizing config with
  | nil => exact reached
  | cons change rest ih => exact ih (reached.changed change)

/-- Equal configurations differ at most in the parsers that they are meant for. -/
theorem Reached.named_of_equals {other : CompileConfig} (reached : Reached config)
    (reachedOther : Reached other) (same : config.equals other = true) :
    config = other.named config.name := by
  obtain ⟨log, records, selected⟩ := reached.records
  obtain ⟨otherLog, otherRecords, otherSelected⟩ := reachedOther.records
  have views : config.view = other.view := beq_iff_eq.mp same
  simp only [view, ConfigView.mk.injEq] at views
  obtain ⟨binary, version, arguments, written, fast, comments⟩ := views
  have rendered : config.flags.map Flag.render = other.flags.map Flag.render := by
    simpa [CompileConfig.arguments] using arguments
  have flags := Flag.eq_of_map_render records.ne_gnu otherRecords.ne_gnu rendered
  obtain ⟨standard, extensions⟩ :=
    records.language_eq selected otherRecords otherSelected flags
  rw [named, mk.injEq]
  exact ⟨rfl, binary, version, flags, standard, extensions, written, fast, comments⟩

/-- What may be done to a configuration: a caller's change, or a recorded command taken over. -/
inductive Step where
  | change (change : ConfigChange)
  | takeOver (command : Command)

/-- What a step comes to, and the configuration after it. A change that cannot be made comes to its
cause, and all else to the recorded standards that are not known. -/
def step (config : CompileConfig) : Step → Except Stop (List String) × CompileConfig
  | .change change =>
    match config.apply change with
    | .ok changed => (.ok [], changed)
    | .error stop => (.error stop, config)
  | .takeOver command =>
    let takeover := Takeover.takeCommand { config } command
    (.ok takeover.unknownStandards, takeover.config)

/-- What steps come to, one after the other, and the configuration after them. -/
def walk (config : CompileConfig) : List Step → List (Except Stop (List String)) × CompileConfig
  | [] => ([], config)
  | first :: rest =>
    let (outcome, after) := config.step first
    let (outcomes, last) := after.walk rest
    (outcome :: outcomes, last)

private theorem apply_named (name : String) (config : CompileConfig) (change : ConfigChange) :
    (config.named name).apply change = (config.apply change).map (named name) := by
  cases change with
  | setStandard choice extensions =>
    simp only [apply, setStandard]
    cases choice.resolve with
    | error stop => rfl
    | ok standard => rfl
  | addIncludeDir path =>
    cases path with
    | other printed => rfl
    | path path =>
      have flags : (config.named name).flags = config.flags := rfl
      simp only [apply, addIncludeDir, flags]
      split
      · rfl
      · rfl
  | define | undefine | setWritePreprocessed | setFastPreprocessing | setKeepComments => rfl
  | setBinary binary version =>
    cases binary with
    | path path => rfl
    | other printed => rfl

private theorem takeOption_named (name directory : String) (takeover : Takeover)
    (option : CompileOption) :
    Takeover.takeOption directory { takeover with config := takeover.config.named name } option =
      { Takeover.takeOption directory takeover option with
        config := (Takeover.takeOption directory takeover option).config.named name } := by
  simp only [Takeover.takeOption_eq]
  cases option.kind with
  | includeDir =>
    have flags : (takeover.config.named name).flags = takeover.config.flags := rfl
    simp only [addIncludeDir, flags]
    split
    · rfl
    · rfl
  | define | undefine | extension | other => rfl
  | standard =>
    cases Standard.ofToken? option.value with
    | none => rfl
    | some standard => rfl

private theorem takeCommand_named (name : String) (takeover : Takeover) (command : Command) :
    Takeover.takeCommand { takeover with config := takeover.config.named name } command =
      { Takeover.takeCommand takeover command with
        config := (Takeover.takeCommand takeover command).config.named name } := by
  rw [Takeover.takeCommand, Takeover.takeCommand]
  induction CompileOption.split (command.arguments.drop 1) generalizing takeover with
  | nil => rfl
  | cons option rest ih => rw [List.foldl_cons, takeOption_named, ih, List.foldl_cons]

/-- No step looks at the parser that a configuration is meant for. -/
theorem step_named (name : String) (config : CompileConfig) (step : Step) :
    (config.named name).step step = ((config.step step).1, (config.step step).2.named name) := by
  cases step with
  | change change =>
    simp only [CompileConfig.step, apply_named]
    cases config.apply change with
    | ok changed => rfl
    | error stop => rfl
  | takeOver command =>
    have taken := takeCommand_named name { config } command
    simp only [CompileConfig.step, taken]

theorem walk_named (name : String) (config : CompileConfig) (steps : List Step) :
    (config.named name).walk steps = ((config.walk steps).1, (config.walk steps).2.named name) := by
  induction steps generalizing config with
  | nil => rfl
  | cons first rest ih => simp only [walk, step_named, ih]

/-- Equal configurations have the same standard and the same extensions, every step comes to the same
on both, and they are equal again after it, however many there are. -/
theorem walk_of_equals {first second : CompileConfig} (reachedFirst : Reached first)
    (reachedSecond : Reached second) (same : first.equals second = true) :
    first.standard = second.standard ∧ first.extensions = second.extensions ∧
      ∀ steps, (first.walk steps).1 = (second.walk steps).1 ∧
        (first.walk steps).2.equals (second.walk steps).2 = true := by
  have alike := reachedFirst.named_of_equals reachedSecond same
  refine ⟨(congrArg CompileConfig.standard alike).trans rfl,
    (congrArg CompileConfig.extensions alike).trans rfl, ?_⟩
  intro steps
  have walked := walk_named first.name second steps
  rw [← alike] at walked
  rw [walked]
  exact ⟨rfl, beq_self_eq_true (second.walk steps).2.view⟩

/-- A configuration for a parser of another name, and one that was recorded where the defaults are
others. An extension that is taken over keeps the standard, and a standard that is not known is passed
over in a command and refused to a caller. -/
theorem walk_of_equals_sample :
    let first := (sample.named "renamed").attemptAll ConfigChange.portableSample
    let steps : List Step :=
      [.takeOver ⟨"/b", ["clang++", "-fms-compatibility", "-std=c++42", "-UF"]⟩,
        .change (.setStandard (.token "c++42") {}), .change (.define "F" none)]
    ∃ second,
      ((Database.configOf 0 (.path "main.cpp") (some BuildDefaults.sample.toolchain)).runFrom
        .recordedSample).1 = .ok second ∧
      first.equals second = true ∧ first.standard = second.standard ∧
      (second.walk steps).1 =
        [.ok ["c++42"], .error (.refused (.unknownStandard "c++42")), .ok []] ∧
      (second.walk steps).2.arguments = ["-x", "c++", "-I/inc", "-D__cppast__=\"libclang\"",
        "-D__cppast_major__=0", "-D__cppast_minor__=3", "-I/a", "-DEMPTY=", "-std=gnu++14",
        "-fms-extensions", "-fms-compatibility", "-DF"] := by
  intro first steps
  have created : fresh .sample none none = .ok sample := rfl
  have reachedFirst : Reached first := (Reached.created "renamed" created).attemptAll _
  obtain ⟨second, ran, same⟩ : ∃ second,
      ((Database.configOf 0 (.path "main.cpp") (some BuildDefaults.sample.toolchain)).runFrom
        .recordedSample).1 = .ok second ∧ first.equals second = true :=
    ⟨_, rfl, by decide +kernel⟩
  have reachedSecond : Reached second := .recorded second.name ran
  obtain ⟨standard, -, walked⟩ := walk_of_equals reachedFirst reachedSecond same
  have outcomes : (first.walk steps).1 =
      [.ok ["c++42"], .error (.refused (.unknownStandard "c++42")), .ok []] := by decide +kernel
  have views : (first.walk steps).2.view = (second.walk steps).2.view :=
    beq_iff_eq.mp (walked steps).2
  refine ⟨second, ran, same, standard, (walked steps).1.symm.trans outcomes, ?_⟩
  exact (congrArg ConfigView.arguments views).symm.trans (by decide +kernel)

end CompileConfig

end UnitLift
