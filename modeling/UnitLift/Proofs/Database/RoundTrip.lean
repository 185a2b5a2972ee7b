import UnitLift.Proofs.Compile.Blocks
import UnitLift.Proofs.Database.Configuration

/-! Configurations that were recorded as a command and are taken over again. What the fresh
configuration says by itself is superseded, and every block of arguments comes back in its place. -/

namespace UnitLift

namespace Takeover

variable {log : List Mention} {takeover : Takeover} {mention : Mention}
variable (standard : Standard) (extensions : Extensions) (directory : String)

theorem takeAll_append (takeover : Takeover) (first second : List (String × CompileOption)) :
    takeAll takeover (first ++ second) = takeAll (takeAll takeover first) second :=
  List.foldl_append

private theorem records_of_replicate {config : CompileConfig} (times : Nat)
    (records : config.Records (log ++ List.replicate (times + 1) mention)) :
    config.Records (log ++ [mention]) := by
  induction times with
  | zero => exact records
  | succ times ih =>
    refine ih ?_
    rw [List.replicate_succ', List.replicate_succ', ← List.append_assoc, ← List.append_assoc]
      at records
    rw [List.replicate_succ', ← List.append_assoc]
    exact records.again

theorem records_takeBlock (records : takeover.config.Records log) (portable : mention.IsPortable) :
    (takeAll takeover
      ((mention.options standard extensions).map (directory, ·))).config.Records
        (log ++ [mention]) := by
  have wanted : ∀ option ∈ mention.options standard extensions,
      option.mention? directory = some mention := fun option member =>
    Mention.mention?_of_mem_options standard extensions portable member directory
  have repeated : mentions ((mention.options standard extensions).map (directory, ·)) =
      List.replicate (mention.options standard extensions).length mention := by
    rw [mentions, List.filterMap_map]
    exact (List.filterMap_congr wanted).trans (by rw [List.filterMap_eq_map', List.map_const'])
  obtain ⟨times, count⟩ : ∃ times,
      (mention.options standard extensions).length = times + 1 := by
    cases mention <;> exact ⟨_, rfl⟩
  have taken := records_takeAll records ((mention.options standard extensions).map (directory, ·))
  rw [repeated, count] at taken
  exact records_of_replicate times taken

theorem records_takeBlocks (records : takeover.config.Records log) {blocks : List Mention}
    (portable : ∀ mention ∈ blocks, mention.IsPortable) :
    (takeAll takeover
      ((blocks.flatMap (Mention.options standard extensions)).map (directory, ·))).config.Records
        (log ++ blocks) := by
  induction blocks generalizing takeover log with
  | nil => simpa [takeAll] using records
  | cons first rest ih =>
    have next := ih (records_takeBlock standard extensions directory records
      (portable first (by simp))) fun mention member => portable mention (by simp [member])
    rw [List.flatMap_cons, List.map_append, takeAll_append]
    simpa using next

end Takeover

theorem CompileOption.split_blocks (standard : Standard) (extensions : Extensions)
    {blocks : List Mention} (portable : ∀ mention ∈ blocks, mention.IsPortable)
    (rest : List String) :
    split (blocks.flatMap (Mention.arguments standard extensions) ++ rest) =
      blocks.flatMap (Mention.options standard extensions) ++ split rest := by
  induction blocks with
  | nil => rfl
  | cons first more ih =>
    rw [List.flatMap_cons, List.append_assoc,
      Mention.split_arguments standard extensions (portable first (by simp)),
      ih fun mention member => portable mention (by simp [member]), List.flatMap_cons,
      List.append_assoc]

namespace Mention

variable {standard : Standard} {extensions : Extensions} {mention : Mention}
  {option : CompileOption}

theorem standard?_of_mem_options (member : option ∈ mention.options standard extensions)
    {selected : Standard × Bool} (selects : option.standard? = some selected) :
    selected = (standard, extensions.gnu) := by
  cases mention with
  | language =>
    simp only [options, List.mem_cons, List.mem_append] at member
    rcases member with same | extension | extension
    · simpa [same, CompileOption.standard?, CompileOption.kind, Standard.ofToken?_spelling,
        Standard.asksForGnu_spelling, eq_comm] using selects
    · split at extension <;> simp at extension
      simp [extension, CompileOption.standard?, CompileOption.kind] at selects
    · split at extension <;> simp at extension
      simp [extension, CompileOption.standard?, CompileOption.kind] at selects
  | includeDir | define | undefine =>
    have name := option.name_of_standard? selects
    simp [List.mem_singleton.mp member] at name

theorem extensions_of_mem_options (member : option ∈ mention.options standard extensions) :
    (option.name = "-fms-extensions" → extensions.microsoft = true) ∧
      (option.name = "-fms-compatibility" → extensions.microsoftCompatibility = true) := by
  cases mention with
  | language =>
    simp only [options, List.mem_cons, List.mem_append] at member
    rcases member with same | extension | extension
    · simp [same]
    · split at extension <;> simp_all
    · split at extension <;> simp_all
  | includeDir | define | undefine => simp [List.mem_singleton.mp member]

end Mention

namespace CompileConfig

/-- The options of a command with the arguments of a configuration. -/
def recordedOptions (config : CompileConfig) (log : List Mention) (directory : String) :
    List (String × CompileOption) :=
  (directory, ⟨"-x", "c++"⟩) ::
    ((Mention.lasting log).flatMap
      (Mention.options config.standard config.extensions)).map (directory, ·)

variable {log opening : List Mention} {config fresh : CompileConfig}

theorem options_of_arguments (records : config.Records log)
    (portable : ∀ mention ∈ log, mention.IsPortable) (directory program : String) {input : String}
    (source : input.toList.head? ≠ some '-') :
    Takeover.options [⟨directory, program :: (config.arguments ++ [input])⟩] =
      config.recordedOptions log directory := by
  have stray : CompileOption.isStray input = true := by
    rw [CompileOption.isStray]
    split
    · rename_i shape
      simp [shape] at source
    · rfl
  have nothing : CompileOption.split [input] = [] := by
    rw [CompileOption.split.eq_def]
    simp [stray, CompileOption.split]
  have language (rest : List String) :
      CompileOption.split ("-x" :: "c++" :: rest) = ⟨"-x", "c++"⟩ :: CompileOption.split rest := by
    rw [CompileOption.split.eq_def]
    simp [CompileOption.isStray, CompileOption.valued]
  have blocks := CompileOption.split_blocks config.standard config.extensions
    (fun mention member => portable mention (Mention.mem_of_mem_lasting member)) [input]
  rw [Takeover.options, List.flatMap_singleton, records.arguments_eq]
  simp only [List.drop_one, List.tail_cons, List.cons_append, List.nil_append, language, blocks,
    nothing, List.append_nil, List.map_cons, recordedOptions]

private theorem getLast?_of_all {α : Type} {items : List α} {value : α} (present : value ∈ items)
    (all : ∀ item ∈ items, item = value) : items.getLast? = some value := by
  cases last : items.getLast? with
  | none =>
    rw [List.getLast?_eq_none_iff.mp last] at present
    cases present
  | some item => rw [all item (List.mem_of_getLast? last)]

private theorem mem_recordedOptions {directory : String} {entry : String × CompileOption} :
    entry ∈ config.recordedOptions log directory ↔
      entry = (directory, ⟨"-x", "c++"⟩) ∨
        ∃ mention ∈ Mention.lasting log,
          ∃ option ∈ mention.options config.standard config.extensions,
            entry = (directory, option) := by
  simp only [recordedOptions, List.mem_cons, List.mem_map, List.mem_flatMap]
  constructor
  · rintro (same | ⟨option, ⟨mention, lasts, member⟩, same⟩)
    · exact Or.inl same
    · exact Or.inr ⟨mention, lasts, option, member, same.symm⟩
  · rintro (same | ⟨mention, lasts, option, member, same⟩)
    · exact Or.inl same
    · exact Or.inr ⟨option, ⟨mention, lasts, member⟩, same.symm⟩

/-- The only standard that the options select is the one of the configuration. -/
private theorem standard_of_recordedOptions (lasts : Mention.language ∈ Mention.lasting log)
    (directory : String) :
    ((config.recordedOptions log directory).filterMap (·.2.standard?)).getLast? =
      some (config.standard, config.extensions.gnu) := by
  apply getLast?_of_all
  · have shown : (directory, CompileOption.mk "-std"
        (config.standard.spelling config.extensions.gnu)) ∈ config.recordedOptions log directory :=
      mem_recordedOptions.mpr (Or.inr ⟨.language, lasts, _, List.mem_cons_self, rfl⟩)
    refine List.mem_filterMap.mpr ⟨_, shown, ?_⟩
    simp [CompileOption.standard?, CompileOption.kind, Standard.ofToken?_spelling,
      Standard.asksForGnu_spelling]
  · intro found member
    obtain ⟨entry, inside, selects⟩ := List.mem_filterMap.mp member
    rcases mem_recordedOptions.mp inside with same | ⟨mention, _, option, ofBlock, same⟩
    · subst same
      have name := CompileOption.name_of_standard? _ selects
      simp at name
    · subst same
      exact Mention.standard?_of_mem_options ofBlock selects

private theorem extensions_of_recordedOptions (lasts : Mention.language ∈ Mention.lasting log)
    (directory : String) :
    ((∃ entry ∈ config.recordedOptions log directory, entry.2.name = "-fms-extensions") ↔
        config.extensions.microsoft = true) ∧
      ((∃ entry ∈ config.recordedOptions log directory, entry.2.name = "-fms-compatibility") ↔
        config.extensions.microsoftCompatibility = true) := by
  have ofBlock (name : String) (other : name ≠ "-x") :
      (∃ entry ∈ config.recordedOptions log directory, entry.2.name = name) →
        ∃ mention : Mention, ∃ option ∈ mention.options config.standard config.extensions,
          option.name = name := by
    rintro ⟨entry, inside, named⟩
    rcases mem_recordedOptions.mp inside with same | ⟨mention, _, option, member, same⟩
    · subst same
      exact absurd named.symm other
    · subst same
      exact ⟨mention, option, member, named⟩
  have shows (option : CompileOption)
      (member : option ∈ Mention.options config.standard config.extensions .language) :
      ∃ entry ∈ config.recordedOptions log directory, entry.2.name = option.name :=
    ⟨_, mem_recordedOptions.mpr (Or.inr ⟨.language, lasts, option, member, rfl⟩), rfl⟩
  constructor
  · constructor
    · intro asked
      obtain ⟨_, option, member, named⟩ := ofBlock _ (by decide) asked
      exact (Mention.extensions_of_mem_options member).1 named
    · exact fun asked => shows ⟨"-fms-extensions", ""⟩ (by simp [Mention.options, asked])
  · constructor
    · intro asked
      obtain ⟨_, option, member, named⟩ := ofBlock _ (by decide) asked
      exact (Mention.extensions_of_mem_options member).2 named
    · exact fun asked => shows ⟨"-fms-compatibility", ""⟩ (by simp [Mention.options, asked])

/-- The language comes back, whatever the fresh configuration had selected. -/
theorem language_restored (selected : Mention.language ∈ log) (opened : fresh.Records opening)
    (microsoft : fresh.extensions.microsoft = false)
    (compatibility : fresh.extensions.microsoftCompatibility = false) (directory : String) :
    let restored := (Takeover.takeAll { config := fresh }
      (config.recordedOptions log directory)).config
    restored.standard = config.standard ∧ restored.extensions = config.extensions := by
  intro restored
  have described : fresh.Describes opening (config.recordedOptions log directory) restored :=
    describes_takeAll opened microsoft compatibility _
  have lasts := Mention.language_mem_lasting selected
  have standard := described.standard
  rw [standard_of_recordedOptions lasts, Option.getD_some] at standard
  have sameMicrosoft : restored.extensions.microsoft = config.extensions.microsoft :=
    Bool.eq_iff_iff.mpr
      (described.microsoft.trans (extensions_of_recordedOptions lasts directory).1)
  have sameCompatibility : restored.extensions.microsoftCompatibility =
      config.extensions.microsoftCompatibility :=
    Bool.eq_iff_iff.mpr
      (described.microsoftCompatibility.trans (extensions_of_recordedOptions lasts directory).2)
  obtain ⟨sameStandard, gnu⟩ := Prod.mk.inj standard
  refine ⟨sameStandard, ?_⟩
  cases extensions : config.extensions
  cases restoredExtensions : restored.extensions
  simp_all

/-- The arguments come back if the slots of the fresh configuration have no place of their own. -/
theorem arguments_restored (records : config.Records log)
    (portable : ∀ mention ∈ log, mention.IsPortable) (selected : Mention.language ∈ log)
    (opened : fresh.Records opening) (microsoft : fresh.extensions.microsoft = false)
    (compatibility : fresh.extensions.microsoftCompatibility = false)
    (settled : Slot.arrange (opening.map Mention.slot ++ Slot.arrange (log.map Mention.slot)) =
      Slot.arrange (log.map Mention.slot)) (directory : String) :
    (Takeover.takeAll { config := fresh } (config.recordedOptions log directory)).config.arguments =
      config.arguments := by
  obtain ⟨standard, extensions⟩ :=
    language_restored selected opened microsoft compatibility directory
  have begun : (Takeover.takeAll { config := fresh }
      [(directory, ⟨"-x", "c++"⟩)]).config.Records opening := opened
  have restored : (Takeover.takeAll { config := fresh }
      (config.recordedOptions log directory)).config.Records (opening ++ Mention.lasting log) :=
    Takeover.records_takeBlocks config.standard config.extensions directory begun
      fun mention member => portable mention (Mention.mem_of_mem_lasting member)
  rw [restored.arguments_eq, Mention.lasting_append_lasting settled, standard, extensions,
    records.arguments_eq]

end CompileConfig

/-- A call whose effect can be told from the arguments alone: directories do not depend on where the
command runs, and definitions have a name. -/
def ConfigChange.IsPortable : ConfigChange → Prop
  | addIncludeDir (.path path) => Path.isAbsolute path = true
  | define name _ | undefine name => definedName name ≠ []
  | _ => True

theorem ConfigChange.isPortable_of_mention? {change : ConfigChange} {mention : Mention}
    (portable : change.IsPortable) (mentioned : change.mention? = some mention) :
    mention.IsPortable := by
  cases change with
  | setStandard choice extensions =>
    rw [mention?] at mentioned
    cases resolved : choice.resolve <;> simp [resolved] at mentioned
    subst mentioned
    trivial
  | addIncludeDir path =>
    cases path with
    | path path =>
      cases mentioned
      exact portable
    | other printed => cases mentioned
  | define name value =>
    cases mentioned
    change definedName (definitionText name value) ≠ []
    rwa [definedName_definitionText]
  | undefine name =>
    cases mentioned
    exact ⟨by rwa [definedName_definedName], by rw [definedName_definedName]⟩
  | setBinary | setWritePreprocessed | setFastPreprocessing | setKeepComments => cases mentioned

theorem ConfigChange.isPortable_of_mem {changes : List ConfigChange}
    (portable : ∀ change ∈ changes, change.IsPortable) :
    ∀ mention ∈ changes.filterMap mention?, mention.IsPortable := by
  intro mention member
  obtain ⟨change, inside, mentioned⟩ := List.mem_filterMap.mp member
  exact isPortable_of_mention? (portable change inside) mentioned

namespace CompileConfig

def systemSlots (toolchain : Toolchain) : List Slot :=
  (toolchain.systemIncludeDir.toList.filter (!·.isEmpty)).map Slot.includeDir

def commonSlots : List Slot :=
  [.language, .definition "__cppast__".toList, .definition "__cppast_major__".toList,
    .definition "__cppast_minor__".toList]

theorem slots_of_openingCalls {defaults : BuildDefaults} {toolchain : Option Toolchain}
    {standard : Option StandardChoice} {selected : Standard}
    (chosen : (standard.getD defaults.standard).resolve = .ok selected) :
    ((openingCalls defaults toolchain standard).filterMap ConfigChange.mention?).map Mention.slot =
      systemSlots (toolchain.getD defaults.toolchain) ++ commonSlots := by
  have system (paths : List String) :
      (paths.map fun path => ConfigChange.addIncludeDir (.path path)).filterMap
        ConfigChange.mention? = paths.map Mention.includeDir := by
    rw [List.filterMap_map]
    exact congrFun List.filterMap_eq_map paths
  have named (name value : String) :
      Mention.slot (.define (definitionText name (some value))) =
        .definition (definedName name) := by
    rw [Mention.slot, definedName_definitionText]
  rw [openingCalls, systemIncludeCalls, List.filterMap_append, system]
  simp only [List.filterMap_cons, List.filterMap_nil, ConfigChange.mention?, chosen,
    List.map_append, List.map_cons, List.map_nil, List.map_map, named]
  rfl

theorem nodup_systemSlots (toolchain : Toolchain) : (systemSlots toolchain).Nodup := by
  rw [systemSlots]
  cases toolchain.systemIncludeDir with
  | none => simp
  | some path => by_cases empty : path.isEmpty = true <;> simp [empty]

theorem openingCalls_arePortable {defaults : BuildDefaults} {toolchain : Option Toolchain}
    {standard : Option StandardChoice}
    (system : ∀ path, (toolchain.getD defaults.toolchain).systemIncludeDir = some path →
      path = "" ∨ Path.isAbsolute path = true) :
    ∀ change ∈ openingCalls defaults toolchain standard, change.IsPortable := by
  intro change member
  simp only [openingCalls, systemIncludeCalls, List.mem_append, List.mem_map, List.mem_filter,
    List.mem_cons, List.not_mem_nil, or_false] at member
  rcases member with ⟨path, ⟨present, given⟩, same⟩ | same | same | same | same
  · subst same
    rcases system path (Option.mem_toList.mp present) with empty | absolute
    · simp [empty] at given
    · exact absolute
  · subst same
    trivial
  all_goals
    subst same
    change definedName _ ≠ []
    decide

/-- The slots that a configuration is created with have no place of their own when all of them are
written again by the history of one with the same toolchain. -/
private theorem arrange_systemSlots (toolchain : Toolchain) (writes : List Slot) :
    Slot.arrange (systemSlots toolchain ++ commonSlots ++
        Slot.arrange (systemSlots toolchain ++ commonSlots ++ writes)) =
      Slot.arrange (systemSlots toolchain ++ commonSlots ++ writes) := by
  refine Slot.arrange_append_arrange _ _ _ ?_ (nodup_systemSlots _) ?_
  · intro slot member
    obtain ⟨path, _, same⟩ := List.mem_map.mp member
    rw [← same]
    rfl
  · decide

end CompileConfig

/-- A configuration whose calls are portable is restored from the command that has its arguments:
with the same arguments in the same order, the same standard and the same extensions. -/
theorem Database.configOf_of_arguments {defaults : BuildDefaults} {toolchain : Option Toolchain}
    {standard : Option StandardChoice} {fresh : CompileConfig}
    (created : CompileConfig.fresh defaults toolchain standard = .ok fresh)
    (system : ∀ path, (toolchain.getD defaults.toolchain).systemIncludeDir = some path →
      path = "" ∨ Path.isAbsolute path = true)
    {changes : List ConfigChange} (portable : ∀ change ∈ changes, change.IsPortable)
    {session : Session} {id : DatabaseId} {file directory program input : String}
    (recorded : session.recorded? id file =
      some [⟨directory, program :: ((fresh.attemptAll changes).arguments ++ [input])⟩])
    (source : input.toList.head? ≠ some '-') {usual : Standard}
    (known : session.defaults.standard.resolve = .ok usual) :
    ∃ restored,
      ((configOf id (.path file) (some (toolchain.getD defaults.toolchain))).runFrom session).1 =
        .ok restored ∧
      restored.arguments = (fresh.attemptAll changes).arguments ∧
      restored.standard = (fresh.attemptAll changes).standard ∧
      restored.extensions = (fresh.attemptAll changes).extensions := by
  obtain ⟨start, started⟩ : ∃ start, CompileConfig.fresh session.defaults
      (some (toolchain.getD defaults.toolchain)) = .ok start := by
    rw [CompileConfig.fresh_eq, Option.getD_none, known]
    exact ⟨_, rfl⟩
  refine ⟨_, configOf_of_recorded recorded started, ?_⟩
  obtain ⟨_, selected, chosen⟩ := CompileConfig.created_eq created
  let opening := (CompileConfig.openingCalls defaults toolchain standard).filterMap
    ConfigChange.mention?
  let log := opening ++ changes.filterMap ConfigChange.mention?
  have records : (fresh.attemptAll changes).Records log :=
    (CompileConfig.records_of_fresh created).attemptAll changes
  have slots : opening.map Mention.slot = _ := CompileConfig.slots_of_openingCalls chosen
  have portableLog : ∀ mention ∈ log, mention.IsPortable := by
    intro mention member
    rcases List.mem_append.mp member with opened | called
    · exact ConfigChange.isPortable_of_mem
        (CompileConfig.openingCalls_arePortable system) mention opened
    · exact ConfigChange.isPortable_of_mem portable mention called
  have language : Mention.language ∈ log :=
    List.mem_append_left _ (CompileConfig.language_mem_openingCalls chosen)
  have startSlots : ((CompileConfig.openingCalls session.defaults
      (some (toolchain.getD defaults.toolchain)) none).filterMap ConfigChange.mention?).map
        Mention.slot = _ := CompileConfig.slots_of_openingCalls known
  have settled : Slot.arrange (((CompileConfig.openingCalls session.defaults
      (some (toolchain.getD defaults.toolchain)) none).filterMap ConfigChange.mention?).map
        Mention.slot ++ Slot.arrange (log.map Mention.slot)) =
          Slot.arrange (log.map Mention.slot) := by
    rw [startSlots, List.map_append, slots, Option.getD_some]
    exact CompileConfig.arrange_systemSlots _ _
  have opened := CompileConfig.records_of_fresh started
  have extensions := CompileConfig.extensions_of_fresh started
  have microsoft : start.extensions.microsoft = false := by rw [extensions]
  have compatibility : start.extensions.microsoftCompatibility = false := by rw [extensions]
  rw [Takeover.ofCommands_eq, CompileConfig.options_of_arguments records portableLog _ _ source]
  exact ⟨CompileConfig.arguments_restored records portableLog language opened microsoft
      compatibility settled directory,
    CompileConfig.language_restored language opened microsoft compatibility directory⟩

def CompileConfig.sample : CompileConfig :=
  (blank BuildDefaults.sample.toolchain).attemptAll (openingCalls .sample none none)

/-- Calls that can all be told from the arguments. -/
def ConfigChange.portableSample : List ConfigChange :=
  [.define "F(x)" (some "1"), .addIncludeDir (.path "/a"),
    .setStandard (.token "gnu++14") { microsoft := true }, .undefine "F",
    .define "EMPTY" (some "")]

/-- A session with other defaults, whose database has a command with such arguments. -/
def Session.recordedSample : Session :=
  { defaults := { BuildDefaults.sample with standard := .token "gnu++20", release := (1, 0) }
    databases := #[{
      directory := "/build"
      records := some ⟨[("main.cpp", [⟨"/build", ["clang++", "-x", "c++", "-I/inc",
        "-D__cppast__=\"libclang\"", "-D__cppast_major__=0", "-D__cppast_minor__=3", "-I/a",
        "-std=gnu++14", "-fms-extensions", "-UF", "-DEMPTY=", "main.cpp"]⟩])]⟩ }] }

theorem Database.configOf_of_sample_arguments :
    ∃ restored,
      ((configOf 0 (.path "main.cpp") (some BuildDefaults.sample.toolchain)).runFrom
        .recordedSample).1 = .ok restored ∧
      restored.arguments = ["-x", "c++", "-I/inc", "-D__cppast__=\"libclang\"",
        "-D__cppast_major__=0", "-D__cppast_minor__=3", "-I/a", "-std=gnu++14", "-fms-extensions",
        "-UF", "-DEMPTY="] ∧
      restored.standard = .cpp14 ∧ restored.extensions = { gnu := true, microsoft := true } := by
  have created : CompileConfig.fresh .sample none none = .ok .sample := rfl
  have portable : ∀ change ∈ ConfigChange.portableSample, change.IsPortable := by
    simp [ConfigChange.portableSample, ConfigChange.IsPortable]
    decide
  have recorded : Session.recordedSample.recorded? 0 "main.cpp" =
      some [⟨"/build", "clang++" ::
        ((CompileConfig.sample.attemptAll ConfigChange.portableSample).arguments ++
          ["main.cpp"])⟩] := by
    decide
  have known : Session.recordedSample.defaults.standard.resolve = .ok .cpp20 := by decide
  obtain ⟨restored, ran, arguments, standard, extensions⟩ := configOf_of_arguments created
    (by rintro path same; cases same; decide) portable recorded (by decide) known
  exact ⟨restored, ran, arguments.trans (by decide), standard.trans (by decide),
    extensions.trans (by decide)⟩

end UnitLift
