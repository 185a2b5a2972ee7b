import Mathlib.Data.List.Nodup
import UnitLift.Proofs.Compile.History

namespace UnitLift

theorem valueAfter?_append (lead value : String) :
    CompileOption.valueAfter? lead (lead ++ value) = some value := by
  simp [CompileOption.valueAfter?, ← String.length_toList]

def definedNameOf? (argument : String) : Option (List Char) :=
  ((CompileOption.valueAfter? "-D" argument).or (CompileOption.valueAfter? "-U" argument)).map
    definedName

theorem definedNameOf?_define (definition : String) :
    definedNameOf? ("-D" ++ definition) = some (definedName definition) := by
  rw [definedNameOf?, valueAfter?_append]
  rfl

theorem definedNameOf?_undefine (name : String) :
    definedNameOf? ("-U" ++ name) = some (definedName name) := by
  have other : CompileOption.valueAfter? "-D" ("-U" ++ name) = none := by
    simp [CompileOption.valueAfter?]
  rw [definedNameOf?, other, valueAfter?_append]
  rfl

/-- An argument about a name shows that name, and neither a standard nor a directory. -/
theorem Mention.reads_of_argumentFor? {mention : Mention} {name : List Char} {argument : String}
    (about : mention.argumentFor? name = some argument) :
    definedNameOf? argument = some name ∧ CompileOption.valueAfter? "-std=" argument = none ∧
      CompileOption.valueAfter? "-I" argument = none := by
  cases mention with
  | language | includeDir path => simp [argumentFor?] at about
  | define definition =>
    obtain ⟨same, shown⟩ := Option.ite_none_right_eq_some.mp about
    cases shown
    exact ⟨by rw [definedNameOf?_define, same], by simp [CompileOption.valueAfter?],
      by simp [CompileOption.valueAfter?]⟩
  | undefine undefined =>
    obtain ⟨same, shown⟩ := Option.ite_none_right_eq_some.mp about
    cases shown
    exact ⟨by rw [definedNameOf?_undefine, same], by simp [CompileOption.valueAfter?],
      by simp [CompileOption.valueAfter?]⟩

namespace Slot

variable (standard : Standard) (extensions : Extensions) (log : List Mention)

private theorem reads_of_mem_definition {name : List Char} {argument : String}
    (member : argument ∈ (definition name).arguments standard extensions log) :
    definedNameOf? argument = some name ∧ CompileOption.valueAfter? "-std=" argument = none ∧
      CompileOption.valueAfter? "-I" argument = none := by
  have last := List.mem_of_getLast? (Option.mem_toList.mp member)
  obtain ⟨mention, _, about⟩ := List.mem_filterMap.mp last
  exact Mention.reads_of_argumentFor? about

theorem filterMap_standard_arguments (slot : Slot) :
    (slot.arguments standard extensions log).filterMap (CompileOption.valueAfter? "-std=") =
      if slot = .language then [standard.spelling extensions.gnu] else [] := by
  cases slot with
  | language =>
    have first := valueAfter?_append "-std=" (standard.spelling extensions.gnu)
    simp only [arguments, languageArguments, List.filterMap_cons, first, ↓reduceIte,
      List.cons.injEq, true_and]
    split <;> split <;> rfl
  | includeDir path => simp [arguments, CompileOption.valueAfter?]
  | definition name =>
    simp only [reduceCtorEq, ↓reduceIte]
    apply List.filterMap_eq_nil_iff.mpr
    intro argument member
    exact (reads_of_mem_definition standard extensions log member).2.1

theorem filterMap_includeDir_arguments (slot : Slot) :
    (slot.arguments standard extensions log).filterMap (CompileOption.valueAfter? "-I") =
      slot.includeDir?.toList := by
  cases slot with
  | language =>
    have first : CompileOption.valueAfter? "-I" ("-std=" ++ standard.spelling extensions.gnu) =
        none := by
      simp [CompileOption.valueAfter?]
    simp only [arguments, languageArguments, List.filterMap_cons, first]
    split <;> split <;> rfl
  | includeDir path =>
    have first := valueAfter?_append "-I" path
    simp [arguments, includeDir?, first]
  | definition name =>
    apply List.filterMap_eq_nil_iff.mpr
    intro argument member
    exact (reads_of_mem_definition standard extensions log member).2.2

theorem eq_definition_of_mem_arguments {slot : Slot} {argument : String} {name : List Char}
    (member : argument ∈ slot.arguments standard extensions log)
    (shown : definedNameOf? argument = some name) : slot = .definition name := by
  cases slot with
  | language =>
    have first : definedNameOf? ("-std=" ++ standard.spelling extensions.gnu) = none := by
      simp [definedNameOf?, CompileOption.valueAfter?]
    have second : definedNameOf? "-fms-extensions" = none := by decide
    have third : definedNameOf? "-fms-compatibility" = none := by decide
    simp only [arguments, languageArguments, List.mem_cons, List.mem_append] at member
    rcases member with same | member | member
    · simp [same, first] at shown
    · split at member <;> simp at member
      simp [member, second] at shown
    · split at member <;> simp at member
      simp [member, third] at shown
  | includeDir path =>
    rw [List.mem_singleton.mp member] at shown
    simp [definedNameOf?, CompileOption.valueAfter?] at shown
  | definition other =>
    have own := (reads_of_mem_definition standard extensions log member).1
    rw [own] at shown
    rw [Option.some.inj shown]

end Slot

/-- A block that is the only one to show anything is all that is shown. -/
private theorem flatMap_of_only {β : Type} {slots : List Slot} (unique : slots.Nodup)
    (block : Slot → List β) (slot : Slot) (only : ∀ other, other ≠ slot → block other = []) :
    slots.flatMap block = if slot ∈ slots then block slot else [] := by
  induction slots with
  | nil => rfl
  | cons first rest ih =>
    obtain ⟨once, rest⟩ := List.nodup_cons.mp unique
    rw [List.flatMap_cons, ih rest]
    by_cases same : first = slot
    · subst same
      simp [once]
    · simp [only first same, Ne.symm same]

namespace CompileConfig

variable {log : List Mention} {config : CompileConfig}

private theorem Records.filterMap_arguments {β : Type} (records : config.Records log)
    (read : String → Option β) (start : ["-x", "c++"].filterMap read = []) :
    config.arguments.filterMap read = (Slot.arrange (log.map Mention.slot)).flatMap fun slot =>
      (slot.arguments config.standard config.extensions log).filterMap read := by
  rw [records.arguments, List.filterMap_append, start, List.nil_append, List.filterMap_flatMap]

theorem Records.standards (records : config.Records log) (selected : Mention.language ∈ log) :
    config.arguments.filterMap (CompileOption.valueAfter? "-std=") =
      [config.standard.spelling config.extensions.gnu] := by
  have written : Slot.language ∈ Slot.arrange (log.map Mention.slot) :=
    (Slot.mem_arrange _ _).mpr (List.mem_map.mpr ⟨_, selected, rfl⟩)
  rw [records.filterMap_arguments _ (by decide)]
  simp only [Slot.filterMap_standard_arguments]
  rw [flatMap_of_only (Slot.nodup_arrange _) _ .language
    (fun other different => by simp [different])]
  simp [written]

/-- The directories that are shown are the mentioned ones, in the order of their first mentions. -/
theorem Records.includeDirs (records : config.Records log) :
    config.arguments.filterMap (CompileOption.valueAfter? "-I") =
      ((log.map Mention.slot).filterMap Slot.includeDir?).eraseDups := by
  rw [records.filterMap_arguments _ (by decide)]
  simp only [Slot.filterMap_includeDir_arguments]
  rw [← List.filterMap_eq_flatMap_toList, Slot.filterMap_includeDir?_arrange]

theorem Records.nodup_includeDirs (records : config.Records log) :
    (config.arguments.filterMap (CompileOption.valueAfter? "-I")).Nodup := by
  rw [records.includeDirs, ← Slot.filterMap_includeDir?_arrange]
  apply (Slot.nodup_arrange _).filterMap
  intro first second path ofFirst ofSecond
  rw [Slot.includeDir?_eq_some_iff.mp ofFirst, Slot.includeDir?_eq_some_iff.mp ofSecond]

/-- What is shown about a name is what was said last about it. -/
theorem Records.definitions (records : config.Records log) (name : List Char) :
    config.arguments.filter (definedNameOf? · == some name) =
      (log.filterMap (Mention.argumentFor? name)).getLast?.toList := by
  have others (other : Slot) (different : other ≠ .definition name) :
      (other.arguments config.standard config.extensions log).filter
        (definedNameOf? · == some name) = [] := by
    apply List.filter_eq_nil_iff.mpr
    intro argument member shown
    exact different (Slot.eq_definition_of_mem_arguments _ _ _ member (beq_iff_eq.mp shown))
  have own : ((Slot.definition name).arguments config.standard config.extensions log).filter
      (definedNameOf? · == some name) =
        (Slot.definition name).arguments config.standard config.extensions log := by
    apply List.filter_eq_self.mpr
    intro argument member
    exact beq_iff_eq.mpr (Slot.reads_of_mem_definition _ _ _ member).1
  have start : ["-x", "c++"].filter (definedNameOf? · == some name) = [] := by
    have language : definedNameOf? "-x" = none := by decide
    have source : definedNameOf? "c++" = none := by decide
    simp [language, source]
  rw [records.arguments, List.filter_append, start, List.nil_append, List.filter_flatMap,
    flatMap_of_only (Slot.nodup_arrange _) _ (.definition name) others, own]
  by_cases written : Slot.definition name ∈ log.map Mention.slot
  · simp only [Slot.mem_arrange, written, ↓reduceIte]
    rfl
  · have unsaid : log.filterMap (Mention.argumentFor? name) = [] := by
      apply List.filterMap_eq_nil_iff.mpr
      intro mention member
      rw [← Mention.map_render_flagFor?, Option.map_eq_none_iff]
      apply Option.eq_none_iff_forall_ne_some.mpr
      intro flag about
      exact written (List.mem_map.mpr ⟨mention, member, (Mention.slot_of_flagFor? about).1⟩)
    simp only [Slot.mem_arrange, written, ↓reduceIte, unsaid]
    rfl

theorem Records.nodup_names (records : config.Records log) :
    (config.arguments.filterMap definedNameOf?).Nodup := by
  apply List.nodup_iff_count.mpr
  intro name
  rw [List.count_filterMap, List.countP_eq_length_filter, records.definitions name]
  cases (log.filterMap (Mention.argumentFor? name)).getLast? <;> simp

end CompileConfig

end UnitLift
