import UnitLift.Proofs.Compile.Calls

/-! Calls as edits of the rendered arguments. No argument is mistaken for one of another kind, so
that it makes no difference whether flags are filtered by what they mean or by how they start. -/

namespace UnitLift

def Extension.arguments : List String := all.filterMap argument?

/-- An argument that selects a standard or an extension, by its text. -/
def showsLanguage (argument : String) : Bool :=
  (CompileOption.valueAfter? "-std=" argument).isSome || Extension.arguments.contains argument

/-- What a call does to the arguments, read as plain text. -/
def ConfigChange.edit (arguments : List String) : ConfigChange → List String
  | setStandard choice extensions =>
    match choice.resolve with
    | .ok standard => arguments.filter (!showsLanguage ·) ++
        languageArguments standard (if choice.gnu then extensions.insert .gnu else extensions)
    | .error _ => arguments
  | addIncludeDir (.path path) =>
    if arguments.contains ("-I" ++ path) then arguments else arguments ++ ["-I" ++ path]
  | define name value => arguments.filter (definedNameOf? · != some (definedName name)) ++
      ["-D" ++ definitionText name value]
  | undefine name => arguments.filter (definedNameOf? · != some (definedName name)) ++
      ["-U" ++ String.ofList (definedName name)]
  | _ => arguments

namespace Flag

private theorem showsLanguage_glued {lead : String} (known : lead ∈ ["-I", "-D", "-U"])
    (value : String) : showsLanguage (lead ++ value) = false := by
  have read := valueAfter?_append lead value
  have standard : CompileOption.valueAfter? "-std=" (lead ++ value) = none := by
    simp only [List.mem_cons, List.not_mem_nil, or_false] at known
    rcases known with same | same | same <;> subst same <;> simp [CompileOption.valueAfter?]
  have bare : ∀ lead ∈ ["-I", "-D", "-U"], ∀ argument ∈ Extension.arguments,
      CompileOption.valueAfter? lead argument = none := by decide
  have extension : lead ++ value ∉ Extension.arguments := by
    intro member
    rw [bare lead known _ member] at read
    cases read
  simp [showsLanguage, standard, extension]

/-- Flags of the language are found by their text; the GNU extensions have none of their own. -/
theorem showsLanguage_render {flag : Flag} (shown : flag ≠ .extension .gnu) :
    showsLanguage flag.render = flag.isLanguage := by
  cases flag with
  | standard chosen gnu =>
    rw [render, showsLanguage, valueAfter?_append]
    rfl
  | extension chosen =>
    cases chosen with
    | gnu => exact absurd rfl shown
    | microsoft | microsoftCompatibility => decide
  | includeDir path => exact showsLanguage_glued (by simp) path
  | define definition => exact showsLanguage_glued (by simp) definition
  | undefine name => exact showsLanguage_glued (by simp) name

theorem definedNameOf?_render (flag : Flag) (name : List Char) :
    (definedNameOf? flag.render == some name) = flag.isAbout name := by
  cases flag with
  | define definition =>
    rw [render, definedNameOf?_define]
    rfl
  | undefine undefined =>
    rw [render, definedNameOf?_undefine]
    rfl
  | extension chosen =>
    have unread : ∀ chosen : Extension, definedNameOf? (extension chosen).render = none := by
      intro chosen
      cases chosen <;> decide
    rw [unread]
    rfl
  | standard | includeDir => simp [render, isAbout, definedNameOf?, CompileOption.valueAfter?]

theorem render_eq_includeDir_iff (flag : Flag) (path : String) :
    flag.render = "-I" ++ path ↔ flag = .includeDir path := by
  constructor
  · intro same
    have read := valueAfter?_append "-I" path
    rw [← same] at read
    cases flag with
    | includeDir other =>
      rw [render, valueAfter?_append] at read
      rw [Option.some.inj read]
    | extension chosen =>
      have unread : ∀ chosen : Extension,
          CompileOption.valueAfter? "-I" (extension chosen).render = none := by
        intro chosen
        cases chosen <;> decide
      rw [unread] at read
      cases read
    | standard | define | undefine => simp [render, CompileOption.valueAfter?] at read
  · intro same
    rw [same, render]

end Flag

namespace CompileConfig

variable {log : List Mention} {config : CompileConfig}

/-- The GNU extensions are part of the standard and no flag. -/
theorem Records.ne_gnu (records : config.Records log) :
    ∀ flag ∈ config.flags, flag ≠ .extension .gnu := by
  intro flag member same
  subst same
  rw [records] at member
  obtain ⟨slot, _, inside⟩ := List.mem_flatMap.mp member
  have own := Slot.slot_of_mem_flags inside
  subst own
  rcases List.mem_cons.mp inside with other | extension
  · cases other
  · obtain ⟨chosen, kept, same⟩ := List.mem_map.mp extension
    cases same
    have given := (List.mem_filter.mp kept).2
    cases given

/-- Filtering flags by meaning is filtering arguments by text, where the two agree. -/
private theorem filter_arguments (keep : Flag → Bool) {keepText : String → Bool}
    (agree : ∀ flag ∈ config.flags, keepText flag.render = keep flag)
    (start : ["-x", "c++"].filter keepText = ["-x", "c++"]) :
    config.arguments.filter keepText =
      ["-x", "c++"] ++ (config.flags.filter keep).map Flag.render := by
  have apart : config.arguments = ["-x", "c++"] ++ config.flags.map Flag.render := rfl
  rw [apart, List.filter_append, start, List.filter_map]
  exact congrArg (["-x", "c++"] ++ List.map _ ·) (List.filter_congr agree)

private theorem forget_arguments (config : CompileConfig) (name : String) :
    config.arguments.filter (definedNameOf? · != some (definedName name)) =
      (config.forget name).arguments := by
  refine filter_arguments (!·.isAbout (definedName name)) (fun flag _ => ?_) ?_
  · rw [bne, Flag.definedNameOf?_render]
  · have language : definedNameOf? "-x" = none := by decide
    have source : definedNameOf? "c++" = none := by decide
    simp [language, source]

private theorem contains_arguments (config : CompileConfig) (path : String) :
    config.arguments.contains ("-I" ++ path) = config.flags.contains (.includeDir path) := by
  have start : "-I" ++ path ∉ ["-x", "c++"] := by
    intro member
    have unread : ∀ argument ∈ ["-x", "c++"], CompileOption.valueAfter? "-I" argument = none := by
      decide
    have read := unread _ member
    rw [valueAfter?_append] at read
    cases read
  have apart : config.arguments = ["-x", "c++"] ++ config.flags.map Flag.render := rfl
  apply Bool.eq_iff_iff.mpr
  rw [List.contains_iff_mem, List.contains_iff_mem, apart, List.mem_append, List.mem_map]
  constructor
  · rintro (first | ⟨flag, member, same⟩)
    · exact absurd first start
    · rwa [← (flag.render_eq_includeDir_iff path).mp same]
  · exact fun member => Or.inr ⟨_, member, rfl⟩

/-- Every call edits the arguments as if they were plain text. -/
theorem Records.edit (records : config.Records log) (change : ConfigChange) :
    (config.attempt change).arguments = change.edit config.arguments := by
  cases change with
  | setStandard choice extensions =>
    simp only [CompileConfig.attempt, apply, setStandard, ConfigChange.edit]
    cases choice.resolve with
    | error stop => rfl
    | ok standard =>
      have rest : config.arguments.filter (!showsLanguage ·) =
          ["-x", "c++"] ++ (config.flags.filter (!·.isLanguage)).map Flag.render :=
        filter_arguments (!·.isLanguage)
          (fun flag member => by rw [Flag.showsLanguage_render (records.ne_gnu flag member)])
          (by decide)
      have block := Slot.map_render_flags standard
        (if choice.gnu then extensions.insert .gnu else extensions) log .language
      simp only [Slot.flags, Slot.arguments] at block
      simp only [rest, ← block, List.append_assoc, ← List.map_append]
      rfl
  | addIncludeDir path =>
    cases path with
    | path path =>
      simp only [CompileConfig.attempt, apply, ConfigChange.edit, contains_arguments,
        CompileConfig.addIncludeDir]
      split
      · rfl
      · simp [CompileConfig.arguments, Flag.render]
    | other printed => rfl
  | define name value =>
    have added : (config.attempt (.define name value)).arguments =
        (config.forget name).arguments ++ [Flag.render (.define (definitionText name value))] := by
      simp only [CompileConfig.attempt, apply, CompileConfig.define, CompileConfig.arguments,
        List.map_append, List.cons_append]
      rfl
    rw [added, ConfigChange.edit, forget_arguments, Flag.render]
  | undefine name =>
    have added : (config.attempt (.undefine name)).arguments = (config.forget name).arguments ++
        [Flag.render (.undefine (String.ofList (definedName name)))] := by
      simp only [CompileConfig.attempt, apply, CompileConfig.undefine, CompileConfig.arguments,
        List.map_append, List.cons_append]
      rfl
    rw [added, ConfigChange.edit, forget_arguments, Flag.render]
  | setBinary binary version => cases binary <;> rfl
  | setWritePreprocessed | setFastPreprocessing | setKeepComments => rfl

theorem Records.edits (records : config.Records log) (changes : List ConfigChange) :
    (config.attemptAll changes).arguments = changes.foldl ConfigChange.edit config.arguments := by
  induction changes generalizing config log with
  | nil => rfl
  | cons change rest ih =>
    rw [List.foldl_cons, ← records.edit change]
    exact ih (records.attempt change)

/-- After any calls on a created configuration the arguments are the blocks of all slots that were
ever written, in the order of `Slot.arrange`. They are also what is left of a plain list of texts
that every call edits, the opening calls included. The language is that of the last call that
selected one. There is one standard, and neither a directory nor a name is there twice. -/
theorem arguments_after_calls (defaults : BuildDefaults) (toolchain : Option Toolchain)
    (standard : Option StandardChoice) {fresh : CompileConfig}
    (created : CompileConfig.fresh defaults toolchain standard = .ok fresh)
    (changes : List ConfigChange) :
    let calls := openingCalls defaults toolchain standard ++ changes
    let log := calls.filterMap ConfigChange.mention?
    let config := fresh.attemptAll changes
    config.arguments = ["-x", "c++"] ++ (Slot.arrange (log.map Mention.slot)).flatMap
        (Slot.arguments config.standard config.extensions log) ∧
      config.arguments = calls.foldl ConfigChange.edit ["-x", "c++"] ∧
      (calls.filterMap ConfigChange.language?).getLast? =
        some (config.standard, config.extensions) ∧
      config.arguments.filterMap (CompileOption.valueAfter? "-std=") =
        [config.standard.spelling config.extensions.gnu] ∧
      (config.arguments.filterMap (CompileOption.valueAfter? "-I")).Nodup ∧
      (config.arguments.filterMap definedNameOf?).Nodup := by
  intro calls log config
  obtain ⟨made, selected, chosen⟩ := created_eq created
  have ran : config = (blank (toolchain.getD defaults.toolchain)).attemptAll calls := by
    simp only [config, calls, made, attemptAll_append]
  have records : config.Records log := by
    rw [ran]
    exact (blank_records _).attemptAll calls
  have opening : ConfigChange.setStandard (standard.getD defaults.standard) {} ∈ calls := by
    simp [calls, openingCalls]
  have language : Mention.language ∈ log := by
    rw [show log = _ from List.filterMap_append]
    exact List.mem_append_left _ (language_mem_openingCalls chosen)
  have edited : config.arguments = calls.foldl ConfigChange.edit ["-x", "c++"] := by
    rw [ran]
    exact (blank_records _).edits calls
  refine ⟨records.arguments, edited, ?_, records.standards language, records.nodup_includeDirs,
    records.nodup_names⟩
  have ended := language_attemptAll (blank (toolchain.getD defaults.toolchain)) calls
  rw [← ran] at ended
  cases last : (calls.filterMap ConfigChange.language?).getLast? with
  | none =>
    have unselected := List.filterMap_eq_nil_iff.mp (List.getLast?_eq_none_iff.mp last) _ opening
    simp [ConfigChange.language?, chosen] at unselected
  | some language =>
    rw [last] at ended
    exact congrArg some ended.symm

/-- A rejected standard, a directory added twice, and one name mentioned in three ways. -/
theorem arguments_after_sample_calls :
    ∃ fresh, CompileConfig.fresh .sample none none = .ok fresh ∧
      (fresh.attemptAll
        [.define "F(x)" (some "1"), .addIncludeDir (.path "/a"),
          .setStandard (.token "gnu++14") { microsoft := true }, .undefine "F",
          .addIncludeDir (.path "/a"), .setStandard (.token "c++42") {},
          .define "__cppast__" none]).arguments =
        ["-x", "c++", "-I/inc", "-D__cppast_major__=0", "-D__cppast_minor__=3", "-I/a",
          "-std=gnu++14", "-fms-extensions", "-UF", "-D__cppast__"] :=
  ⟨_, rfl, (arguments_after_calls .sample none none rfl _).1.trans (by decide)⟩

end CompileConfig

end UnitLift
