import UnitLift.Compile.Recorded
import UnitLift.Proofs.Compile.Calls

namespace UnitLift

inductive OptionKind where
  | includeDir
  | define
  | undefine
  | standard
  | extension (extension : Extension)
  /-- Nothing that is taken over. -/
  | other
deriving DecidableEq, Repr

namespace CompileOption

/-- An option with the name of its kind; a directory or a definition without a text is none. -/
def kind (option : CompileOption) : OptionKind :=
  if option.name = "-I" ∨ option.name = "-isystem" then
    if option.value = "" then .other else .includeDir
  else if option.name = "-D" then if option.value = "" then .other else .define
  else if option.name = "-U" then if option.value = "" then .other else .undefine
  else if option.name = "-std" then .standard
  else if option.name = "-fms-extensions" then .extension .microsoft
  else if option.name = "-fms-compatibility" then .extension .microsoftCompatibility
  else .other

/-- The standard that an option selects, and whether it does so with the GNU extensions. -/
def standard? (option : CompileOption) : Option (Standard × Bool) :=
  match option.kind with
  | .standard => (Standard.ofToken? option.value).map (·, Standard.asksForGnu option.value)
  | _ => none

/-- The directory that an option names in a command that ran in `directory`. -/
def includeDir? (directory : String) (option : CompileOption) : Option String :=
  match option.kind with
  | .includeDir => some (Takeover.includePath directory option.value)
  | _ => none

/-- What an option wants to stand in the arguments about a name. -/
def argumentFor? (name : List Char) (option : CompileOption) : Option String :=
  if definedName option.value = name then
    match option.kind with
    | .define => some ("-D" ++ option.value)
    | .undefine => some ("-U" ++ String.ofList name)
    | _ => none
  else none

/-- What an option of a command that ran in `directory` wants to stand in the arguments. -/
def mention? (directory : String) (option : CompileOption) : Option Mention :=
  match option.kind with
  | .includeDir => some (.includeDir (Takeover.includePath directory option.value))
  | .define => some (.define option.value)
  | .undefine => some (.undefine (String.ofList (definedName option.value)))
  | .standard => (Standard.ofToken? option.value).map fun _ => .language
  | .extension _ => some .language
  | .other => none

theorem kind_ne_gnu (option : CompileOption) : option.kind ≠ .extension .gnu := by
  simp only [kind]
  repeat' split
  all_goals simp

/-- The language is selected by options with these names, and by no others. -/
theorem kind_eq_iff (option : CompileOption) :
    (option.kind = .standard ↔ option.name = "-std") ∧
      (option.kind = .extension .microsoft ↔ option.name = "-fms-extensions") ∧
      (option.kind = .extension .microsoftCompatibility ↔ option.name = "-fms-compatibility") := by
  by_cases directories : option.name = "-I" ∨ option.name = "-isystem"
  · rw [kind, if_pos directories]
    rcases directories with name | name <;> by_cases empty : option.value = "" <;>
      simp [name, empty]
  · rw [kind, if_neg directories]
    repeat' split
    all_goals simp_all

theorem name_of_standard? (option : CompileOption) {selected : Standard × Bool}
    (selects : option.standard? = some selected) : option.name = "-std" := by
  apply option.kind_eq_iff.1.mp
  rw [standard?] at selects
  cases kind : option.kind <;> simp [kind] at selects ⊢

end CompileOption

theorem Extension.ofArgument?_eq (argument : String) :
    ofArgument? argument =
      if argument = "-fms-extensions" then some .microsoft
      else if argument = "-fms-compatibility" then some .microsoftCompatibility
      else none := by
  by_cases microsoft : argument = "-fms-extensions"
  · subst microsoft
    rfl
  · by_cases compatibility : argument = "-fms-compatibility"
    · subst compatibility
      rfl
    · simp [ofArgument?, all, argument?, Ne.symm microsoft, Ne.symm compatibility, microsoft,
        compatibility]

namespace Takeover

/-- The options of commands, each with the directory that its command ran in. -/
def options (commands : List Command) : List (String × CompileOption) :=
  commands.flatMap fun command =>
    (CompileOption.split (command.arguments.drop 1)).map (command.directory, ·)

def takeAll (takeover : Takeover) (options : List (String × CompileOption)) : Takeover :=
  options.foldl (fun takeover entry => takeOption entry.1 takeover entry.2) takeover

theorem ofCommands_eq (config : CompileConfig) (commands : List Command) :
    ofCommands config commands = takeAll { config } (options commands) := by
  have each (takeover : Takeover) :
      commands.foldl takeCommand takeover = takeAll takeover (options commands) := by
    induction commands generalizing takeover with
    | nil => rfl
    | cons command rest ih =>
      simp only [List.foldl_cons, ih, options, takeAll, List.flatMap_cons, List.foldl_append,
        List.foldl_map, takeCommand]
  exact each _

private theorem split_at_first {chars : List Char} {mark : Char} (marked : mark ∈ chars) :
    chars.takeWhile (· != mark) ++ mark :: chars.drop ((chars.takeWhile (· != mark)).length + 1) =
      chars := by
  induction chars with
  | nil => simp at marked
  | cons first rest ih =>
    by_cases here : first = mark
    · simp [here]
    · have later : mark ∈ rest := (List.mem_cons.mp marked).resolve_left (Ne.symm here)
      simpa [here] using ih later

/-- A definition that was split at its first `=` is put together again. -/
theorem definitionText_splitDefinition (definition : String) :
    definitionText (splitDefinition definition).1 (splitDefinition definition).2 = definition := by
  by_cases assigned : '=' ∈ definition.toList
  · apply String.toList_injective
    simpa [splitDefinition, assigned, definitionText] using split_at_first assigned
  · have whole : definition.toList.takeWhile (· != '=') = definition.toList := by
      apply List.takeWhile_eq_self_iff.mpr
      intro c member
      exact bne_iff_ne.mpr fun same => assigned (same ▸ member)
    simp [splitDefinition, assigned, whole, definitionText]

theorem takeOption_eq (directory : String) (takeover : Takeover) (option : CompileOption) :
    takeOption directory takeover option =
      match option.kind with
      | .includeDir =>
        { takeover with
          config := takeover.config.addIncludeDir (includePath directory option.value) }
      | .define =>
        { takeover with
          config := takeover.config.define (splitDefinition option.value).1
            (splitDefinition option.value).2 }
      | .undefine => { takeover with config := takeover.config.undefine option.value }
      | .standard =>
        match Standard.ofToken? option.value with
        | some standard =>
          { takeover with
            config := takeover.config.selectStandard standard
              { takeover.config.extensions with gnu := Standard.asksForGnu option.value } }
        | none =>
          { takeover with unknownStandards := takeover.unknownStandards ++ [option.value] }
      | .extension extension =>
        { takeover with
          config := takeover.config.selectStandard takeover.config.standard
            (takeover.config.extensions.insert extension) }
      | .other => takeover := by
  obtain ⟨name, value⟩ := option
  simp only [takeOption, CompileOption.kind, beq_iff_eq, Bool.or_eq_true, String.isEmpty_iff,
    Extension.ofArgument?_eq]
  by_cases directories : name = "-I" ∨ name = "-isystem"
  · simp only [if_pos directories]
    by_cases empty : value = "" <;> simp only [empty, ↓reduceIte]
  simp only [if_neg directories]
  by_cases definition : name = "-D"
  · simp only [if_pos definition]
    by_cases empty : value = "" <;> simp only [empty, ↓reduceIte]
  simp only [if_neg definition]
  by_cases removal : name = "-U"
  · simp only [if_pos removal]
    by_cases empty : value = "" <;> simp only [empty, ↓reduceIte]
  simp only [if_neg removal]
  by_cases standard : name = "-std"
  · simp only [if_pos standard, CompileConfig.setStandard, StandardChoice.resolve]
    cases Standard.ofToken? value with
    | none => rfl
    | some chosen =>
      cases gnu : Standard.asksForGnu value <;> simp [StandardChoice.gnu, gnu, bind, Except.bind,
        pure, Except.pure, Extensions.insert]
  simp only [if_neg standard]
  by_cases microsoft : name = "-fms-extensions"
  · simp only [if_pos microsoft]
  simp only [if_neg microsoft]
  by_cases compatibility : name = "-fms-compatibility"
  · simp only [if_pos compatibility]
  · simp only [if_neg compatibility]

theorem records_takeOption {log : List Mention} {takeover : Takeover}
    (records : takeover.config.Records log) (directory : String) (option : CompileOption) :
    (takeOption directory takeover option).config.Records
      (log ++ (option.mention? directory).toList) := by
  have unchanged : takeover.config.Records (log ++ []) := by
    rwa [List.append_nil]
  rw [takeOption_eq, CompileOption.mention?]
  cases option.kind with
  | includeDir => exact records.addIncludeDir _
  | define =>
    have defined := records.define (splitDefinition option.value).1
      (splitDefinition option.value).2
    rwa [definitionText_splitDefinition] at defined
  | undefine => exact records.undefine _
  | standard =>
    cases Standard.ofToken? option.value with
    | none => exact unchanged
    | some standard => exact records.selectStandard standard _
  | extension extension => exact records.selectStandard _ _
  | other => exact unchanged

theorem language_takeOption (directory : String) (takeover : Takeover) (option : CompileOption) :
    let before := takeover.config
    let after := (takeOption directory takeover option).config
    (after.standard, after.extensions.gnu) =
        option.standard?.getD (before.standard, before.extensions.gnu) ∧
      after.extensions.microsoft =
        (option.kind == .extension .microsoft || before.extensions.microsoft) ∧
      after.extensions.microsoftCompatibility =
        (option.kind == .extension .microsoftCompatibility ||
          before.extensions.microsoftCompatibility) := by
  have extensions := option.kind_ne_gnu
  simp only [takeOption_eq, CompileOption.standard?]
  cases kind : option.kind with
  | includeDir =>
    simp only [CompileConfig.addIncludeDir]
    split <;> exact ⟨rfl, rfl, rfl⟩
  | define | undefine | other => exact ⟨rfl, rfl, rfl⟩
  | standard => cases Standard.ofToken? option.value <;> exact ⟨rfl, rfl, rfl⟩
  | extension extension =>
    cases extension with
    | gnu => exact absurd kind extensions
    | microsoft | microsoftCompatibility => exact ⟨rfl, rfl, rfl⟩

/-- An option changes nothing but the arguments and the language. -/
theorem settings_takeOption (directory : String) (takeover : Takeover) (option : CompileOption) :
    let before := takeover.config
    let after := (takeOption directory takeover option).config
    after = { before with
      flags := after.flags, standard := after.standard, extensions := after.extensions } := by
  simp only [takeOption_eq]
  cases option.kind with
  | includeDir =>
    simp only [CompileConfig.addIncludeDir]
    split <;> rfl
  | define | undefine | extension | other => rfl
  | standard => cases Standard.ofToken? option.value <;> rfl

/-- What the options want to stand in the arguments, in order. -/
def mentions (options : List (String × CompileOption)) : List Mention :=
  options.filterMap fun entry => entry.2.mention? entry.1

theorem records_takeAll {log : List Mention} {takeover : Takeover}
    (records : takeover.config.Records log) (options : List (String × CompileOption)) :
    (takeAll takeover options).config.Records (log ++ mentions options) := by
  induction options generalizing takeover log with
  | nil => simpa [takeAll, mentions] using records
  | cons entry rest ih =>
    have next := ih (records_takeOption records entry.1 entry.2)
    have said : log ++ (entry.2.mention? entry.1).toList ++ mentions rest =
        log ++ mentions (entry :: rest) := by
      cases mentioned : entry.2.mention? entry.1 <;> simp [mentions, mentioned]
    rwa [said] at next

theorem language_takeAll (takeover : Takeover) (options : List (String × CompileOption)) :
    let before := takeover.config
    let after := (takeAll takeover options).config
    (after.standard, after.extensions.gnu) =
        (options.filterMap (·.2.standard?)).getLast?.getD
          (before.standard, before.extensions.gnu) ∧
      after.extensions.microsoft =
        (options.any (·.2.kind == .extension .microsoft) || before.extensions.microsoft) ∧
      after.extensions.microsoftCompatibility =
        (options.any (·.2.kind == .extension .microsoftCompatibility) ||
          before.extensions.microsoftCompatibility) := by
  induction options generalizing takeover with
  | nil => exact ⟨rfl, rfl, rfl⟩
  | cons entry rest ih =>
    obtain ⟨standard, microsoft, compatibility⟩ := ih (takeOption entry.1 takeover entry.2)
    obtain ⟨standard', microsoft', compatibility'⟩ := language_takeOption entry.1 takeover entry.2
    rw [standard'] at standard
    rw [microsoft'] at microsoft
    rw [compatibility'] at compatibility
    refine ⟨standard.trans ?_, microsoft.trans ?_, compatibility.trans ?_⟩
    · cases selected : entry.2.standard? with
      | none => simp [selected]
      | some language => simp [selected, List.getLast?_cons]
    · rw [List.any_cons, ← Bool.or_assoc, Bool.or_comm (List.any _ _)]
    · rw [List.any_cons, ← Bool.or_assoc, Bool.or_comm (List.any _ _)]

theorem settings_takeAll (takeover : Takeover) (options : List (String × CompileOption)) :
    let before := takeover.config
    let after := (takeAll takeover options).config
    after = { before with
      flags := after.flags, standard := after.standard, extensions := after.extensions } := by
  induction options generalizing takeover with
  | nil => rfl
  | cons entry rest ih =>
    refine (ih (takeOption entry.1 takeover entry.2)).trans ?_
    rw [settings_takeOption entry.1 takeover entry.2]
    rfl

end Takeover

namespace CompileConfig

/-- The directories that the arguments of a configuration name. -/
def shownDirs (config : CompileConfig) : List String :=
  config.arguments.filterMap (CompileOption.valueAfter? "-I")

/-- The arguments of a configuration about a name. -/
def shownAbout (config : CompileConfig) (name : List Char) : List String :=
  config.arguments.filter (definedNameOf? · == some name)

/-- A configuration is what the options describe, all taken together, on top of a fresh one. The
fresh one was written by the mentions in `opening`. -/
structure Describes (fresh : CompileConfig) (opening : List Mention)
    (options : List (String × CompileOption)) (config : CompileConfig) : Prop where
  /-- The last standard that is known counts. -/
  standard : (config.standard, config.extensions.gnu) =
    (options.filterMap (·.2.standard?)).getLast?.getD (fresh.standard, fresh.extensions.gnu)
  microsoft : config.extensions.microsoft = true ↔
    ∃ entry ∈ options, entry.2.name = "-fms-extensions"
  microsoftCompatibility : config.extensions.microsoftCompatibility = true ↔
    ∃ entry ∈ options, entry.2.name = "-fms-compatibility"
  /-- Directories stand in the order of their first mentions, those of the fresh one first. -/
  includeDirs : config.shownDirs = fresh.shownDirs ++
    ((options.filterMap fun entry => entry.2.includeDir? entry.1).filter
      (!fresh.shownDirs.contains ·)).eraseDups
  /-- The last mention of a name counts. -/
  definitions : ∀ name, config.shownAbout name =
    match (options.filterMap (·.2.argumentFor? name)).getLast? with
    | some argument => [argument]
    | none => fresh.shownAbout name
  /-- Nothing else stands in the arguments, and their order is that of the mentions. -/
  arguments : config.arguments = ["-x", "c++"] ++
    (Slot.arrange ((opening ++ Takeover.mentions options).map Mention.slot)).flatMap
      (Slot.arguments config.standard config.extensions (opening ++ Takeover.mentions options))
  /-- Everything but the arguments and the language is as in the fresh one. -/
  settings : config = { fresh with
    flags := config.flags, standard := config.standard, extensions := config.extensions }

variable {opening : List Mention} {fresh : CompileConfig}

private theorem includeDirs_takeAll (records : fresh.Records opening)
    (options : List (String × CompileOption)) :
    (Takeover.takeAll { config := fresh } options).config.shownDirs = fresh.shownDirs ++
      ((options.filterMap fun entry => entry.2.includeDir? entry.1).filter
        (!fresh.shownDirs.contains ·)).eraseDups := by
  have named : ((Takeover.mentions options).map Mention.slot).filterMap Slot.includeDir? =
      options.filterMap fun entry => entry.2.includeDir? entry.1 := by
    rw [Takeover.mentions, List.map_filterMap, List.filterMap_filterMap]
    apply List.filterMap_congr
    intro entry _
    simp only [CompileOption.mention?, CompileOption.includeDir?]
    cases entry.2.kind with
    | standard => cases Standard.ofToken? entry.2.value <;> rfl
    | includeDir | define | undefine | extension | other => rfl
  have ran : (Takeover.takeAll { config := fresh } options).config.Records
      (opening ++ Takeover.mentions options) := Takeover.records_takeAll records options
  have before := records.includeDirs
  have after := ran.includeDirs
  rw [List.map_append, List.filterMap_append, named, List.eraseDups_append, ← before] at after
  refine after.trans (congrArg (fresh.shownDirs ++ List.eraseDups ·) ?_)
  apply List.filter_congr
  intro path _
  have known : path ∈ fresh.shownDirs ↔
      path ∈ (opening.map Mention.slot).filterMap Slot.includeDir? := by
    rw [shownDirs, before, List.mem_eraseDups]
  simp [known]

private theorem definitions_takeAll (records : fresh.Records opening)
    (options : List (String × CompileOption)) (name : List Char) :
    (Takeover.takeAll { config := fresh } options).config.shownAbout name =
      match (options.filterMap (·.2.argumentFor? name)).getLast? with
      | some argument => [argument]
      | none => fresh.shownAbout name := by
  have said : (Takeover.mentions options).filterMap (Mention.argumentFor? name) =
      options.filterMap (·.2.argumentFor? name) := by
    rw [Takeover.mentions, List.filterMap_filterMap]
    apply List.filterMap_congr
    intro entry _
    simp only [CompileOption.mention?, CompileOption.argumentFor?]
    cases entry.2.kind with
    | standard => cases Standard.ofToken? entry.2.value <;> simp [Mention.argumentFor?]
    | includeDir | extension | other => simp [Mention.argumentFor?]
    | define => simp [Mention.argumentFor?]
    | undefine =>
      by_cases same : definedName entry.2.value = name
      · subst same
        simp [Mention.argumentFor?, definedName_definedName]
      · simp [Mention.argumentFor?, definedName_definedName, same]
  have ran : (Takeover.takeAll { config := fresh } options).config.Records
      (opening ++ Takeover.mentions options) := Takeover.records_takeAll records options
  rw [shownAbout, ran.definitions name, List.filterMap_append, said, List.getLast?_append]
  cases (options.filterMap (·.2.argumentFor? name)).getLast? with
  | some argument => rfl
  | none => exact (records.definitions name).symm

theorem describes_takeAll (records : fresh.Records opening)
    (microsoft : fresh.extensions.microsoft = false)
    (compatibility : fresh.extensions.microsoftCompatibility = false)
    (options : List (String × CompileOption)) :
    fresh.Describes opening options (Takeover.takeAll { config := fresh } options).config := by
  have language := Takeover.language_takeAll { config := fresh } options
  have ran : (Takeover.takeAll { config := fresh } options).config.Records
      (opening ++ Takeover.mentions options) := Takeover.records_takeAll records options
  exact {
    standard := language.1
    microsoft := by
      rw [language.2.1, microsoft, Bool.or_false, List.any_eq_true]
      simp only [beq_iff_eq, (CompileOption.kind_eq_iff _).2.1]
    microsoftCompatibility := by
      rw [language.2.2, compatibility, Bool.or_false, List.any_eq_true]
      simp only [beq_iff_eq, (CompileOption.kind_eq_iff _).2.2]
    includeDirs := includeDirs_takeAll records options
    definitions := definitions_takeAll records options
    arguments := ran.arguments
    settings := Takeover.settings_takeAll { config := fresh } options }

end CompileConfig

end UnitLift
