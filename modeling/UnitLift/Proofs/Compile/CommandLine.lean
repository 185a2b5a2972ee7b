import UnitLift.Proofs.Compile.Arguments

/-! Command lines as parts that are written one after the other. A part may have more than one
spelling, but no spelling reads as anything else than its part, whatever stands before or behind it;
and every argument list is a command line, but for an option at its end that lacks its value. -/

namespace UnitLift

namespace CompileOption

/-- The options that may have their value glued to them. -/
def gluable : List String := ["-I", "-isystem", "-D", "-U"]

/-- An argument that is no option. -/
def IsLoose (argument : String) : Prop :=
  argument.length < 2 ∨ argument.toList.head? ≠ some '-'

instance (argument : String) : Decidable (IsLoose argument) :=
  inferInstanceAs (Decidable (argument.length < 2 ∨ argument.toList.head? ≠ some '-'))

/-- An argument that is an option without a value. -/
structure IsPlain (argument : String) : Prop where
  long : 2 ≤ argument.length
  dashed : argument.toList.head? = some '-'
  alone : argument ∉ valued
  bare : ∀ lead ∈ "-std=" :: gluable, ¬lead.toList <+: argument.toList

theorem isStray_iff (argument : String) : isStray argument = true ↔ IsLoose argument := by
  rw [isStray, IsLoose, ← String.length_toList]
  rcases argument.toList with _ | ⟨first, _ | ⟨second, rest⟩⟩
  · simp
  · simp
  · by_cases dash : first = '-'
    · simp [dash]
    · simp [dash]

theorem valueAfter?_eq_none_iff {lead argument : String} :
    valueAfter? lead argument = none ↔ ¬lead.toList <+: argument.toList := by
  simp [valueAfter?]

theorem eq_append_of_valueAfter? {lead argument value : String}
    (read : valueAfter? lead argument = some value) : argument = lead ++ value := by
  rw [valueAfter?] at read
  split at read
  · rename_i leads
    obtain ⟨rest, same⟩ := List.isPrefixOf_iff_prefix.mp leads
    cases read
    apply String.toList_injective
    simp [← same, ← String.length_toList]
  · cases read

theorem split_cons {argument : String} (taken : isStray argument = false)
    (alone : argument ∉ valued) (rest : List String) :
    split (argument :: rest) = ofArgument argument :: split rest := by
  rw [split.eq_def]
  simp [taken, alone]

private theorem gluable_valued : ∀ lead ∈ gluable, lead ∈ valued := by decide

private theorem isStray_of_mem_valued : ∀ name ∈ valued, isStray name = false := by decide

/-- What stands behind a lead in an option with a separate value can only be nothing. -/
private theorem valueAfter?_of_mem_valued : ∀ lead ∈ gluable, ∀ name ∈ valued,
    valueAfter? lead name = none ∨ valueAfter? lead name = some "" := by decide

/-- An argument with something behind its lead is not one that takes the next argument. -/
private theorem notMem_valued {lead value : String} (short : lead ∈ gluable) (given : value ≠ "") :
    lead ++ value ∉ valued := by
  intro member
  rcases valueAfter?_of_mem_valued lead short _ member with absent | empty
  · simp [valueAfter?_append] at absent
  · rw [valueAfter?_append] at empty
    exact given (Option.some.inj empty)

/-- Directories, definitions and removals are read from the argument that they are glued into. -/
theorem split_glued {lead value : String} (short : lead ∈ gluable) (given : value ≠ "")
    (rest : List String) : split ((lead ++ value) :: rest) = ⟨lead, value⟩ :: split rest := by
  have alone := notMem_valued short given
  have own := valueAfter?_append lead value
  simp only [gluable, List.mem_cons, List.not_mem_nil, or_false] at short
  rcases short with same | same | same | same
  all_goals
    subst same
    rw [split_cons (by simp [isStray]) alone]
    simp only [ofArgument, List.findSome?_cons, own]
    simp [valueAfter?]

theorem split_standard (token : String) (rest : List String) :
    split (("-std=" ++ token) :: rest) = ⟨"-std", token⟩ :: split rest := by
  have alone : "-std=" ++ token ∉ valued := by
    intro member
    have never : ∀ name ∈ valued, valueAfter? "-std=" name = none := by decide
    simpa [valueAfter?_append] using never _ member
  rw [split_cons (by simp [isStray]) alone]
  simp [ofArgument, valueAfter?_append]

/-- An option that waits for its value takes the next argument for it, whatever that looks like. -/
theorem split_separate {name : String} (known : name ∈ valued) (value : String)
    (rest : List String) : split (name :: value :: rest) = ⟨name, value⟩ :: split rest := by
  rw [split.eq_def]
  simp [isStray_of_mem_valued name known, known]

theorem split_alone {name : String} (known : name ∈ valued) : split [name] = [⟨name, ""⟩] := by
  rw [split.eq_def]
  simp [isStray_of_mem_valued name known, known]

theorem split_loose {argument : String} (loose : IsLoose argument) (rest : List String) :
    split (argument :: rest) = split rest := by
  rw [split.eq_def]
  simp [(isStray_iff argument).mpr loose]

theorem split_plain {argument : String} (plain : IsPlain argument) (rest : List String) :
    split (argument :: rest) = ⟨argument, ""⟩ :: split rest := by
  have taken : isStray argument = false := by
    rw [← Bool.not_eq_true, isStray_iff, IsLoose, not_or, Nat.not_lt, not_not]
    exact ⟨plain.long, plain.dashed⟩
  have unread (lead : String) (known : lead ∈ "-std=" :: gluable) :
      valueAfter? lead argument = none :=
    valueAfter?_eq_none_iff.mpr (plain.bare lead known)
  have standard := unread "-std=" (by decide)
  have glued : ["-isystem", "-I", "-D", "-U"].findSome? (fun name =>
      (valueAfter? name argument).map (CompileOption.mk name)) = none := by
    apply List.findSome?_eq_none_iff.mpr
    intro name member
    have known : ∀ name ∈ ["-isystem", "-I", "-D", "-U"], name ∈ "-std=" :: gluable := by decide
    rw [unread name (known name member), Option.map_none]
  rw [split_cons taken plain.alone, ofArgument, standard, glued]

end CompileOption

inductive CommandPart where
  /-- An option that takes a value. -/
  | valued (name value : String) (known : name ∈ CompileOption.valued)
  | standard (token : String)
  | plain (argument : String) (alone : CompileOption.IsPlain argument)
  /-- What belongs to no option, such as the file to compile. -/
  | loose (argument : String) (stray : CompileOption.IsLoose argument)

namespace CommandPart

open CompileOption

def option? : CommandPart → Option CompileOption
  | valued name value _ => some ⟨name, value⟩
  | standard token => some ⟨"-std", token⟩
  | plain argument _ => some ⟨argument, ""⟩
  | loose _ _ => none

/-- The arguments that a part may be written as. -/
inductive Spells : CommandPart → List String → Prop
  | separate {name value : String} (known : name ∈ CompileOption.valued) :
      Spells (valued name value known) [name, value]
  | glued {name value : String} (known : name ∈ CompileOption.valued) (short : name ∈ gluable)
      (given : value ≠ "") : Spells (valued name value known) [name ++ value]
  | standard (token : String) : Spells (standard token) ["-std=" ++ token]
  | plain {argument : String} (alone : IsPlain argument) : Spells (plain argument alone) [argument]
  | loose {argument : String} (stray : IsLoose argument) : Spells (loose argument stray) [argument]

/-- The command lines of parts, each in one of its spellings. -/
inductive Renders : List CommandPart → List String → Prop
  | nil : Renders [] []
  | cons {part : CommandPart} {parts : List CommandPart} {written rest : List String}
      (spelled : part.Spells written) (others : Renders parts rest) :
      Renders (part :: parts) (written ++ rest)

/-- Whatever follows a part, its spelling is read as the part. -/
theorem Spells.split_append {part : CommandPart} {written : List String}
    (spelled : part.Spells written) (rest : List String) :
    split (written ++ rest) = part.option?.toList ++ split rest := by
  cases spelled with
  | separate known => exact split_separate known _ rest
  | glued known short given => exact split_glued short given rest
  | standard token => exact split_standard token rest
  | plain alone => exact split_plain alone rest
  | loose stray => exact split_loose stray rest

theorem Renders.split_append {parts : List CommandPart} {arguments : List String}
    (rendered : Renders parts arguments) (rest : List String) :
    split (arguments ++ rest) = parts.filterMap option? ++ split rest := by
  induction rendered with
  | nil => rfl
  | @cons part parts written others spelled _ ih =>
    rw [List.append_assoc, spelled.split_append, ih, ← List.append_assoc]
    congr 1
    cases own : part.option? <;> simp [own]

/-- An argument that neither is loose nor waits for a value spells a part by itself. -/
theorem exists_spells {argument : String} (taken : ¬isStray argument = true)
    (alone : argument ∉ CompileOption.valued) : ∃ part, Spells part [argument] := by
  by_cases bare : ∀ lead ∈ "-std=" :: gluable, ¬lead.toList <+: argument.toList
  · rw [isStray_iff, IsLoose, not_or, Nat.not_lt, not_not] at taken
    exact ⟨_, .plain ⟨taken.1, taken.2, alone, bare⟩⟩
  · push Not at bare
    obtain ⟨lead, known, leads⟩ := bare
    obtain ⟨value, read⟩ : ∃ value, valueAfter? lead argument = some value := by
      rw [← Option.isSome_iff_exists, Option.isSome_iff_ne_none, ne_eq, valueAfter?_eq_none_iff]
      exact not_not.mpr leads
    have same := eq_append_of_valueAfter? read
    subst same
    rcases List.mem_cons.mp known with selects | short
    · subst selects
      exact ⟨_, .standard value⟩
    · refine ⟨_, .glued (gluable_valued lead short) short ?_⟩
      intro empty
      subst empty
      exact alone (by simpa using gluable_valued lead short)

/-- Every argument list is a command line, or one with an option behind it that lacks its value. -/
theorem exists_renders (arguments : List String) :
    ∃ parts front, Renders parts front ∧
      (arguments = front ∨ ∃ name ∈ CompileOption.valued, arguments = front ++ [name]) := by
  have preceded {written rest : List String} {part : CommandPart} (spelled : part.Spells written)
      (read : ∃ parts front, Renders parts front ∧
        (rest = front ∨ ∃ name ∈ CompileOption.valued, rest = front ++ [name])) :
      ∃ parts front, Renders parts front ∧
        (written ++ rest = front ∨
          ∃ name ∈ CompileOption.valued, written ++ rest = front ++ [name]) := by
    obtain ⟨parts, front, rendered, ends⟩ := read
    refine ⟨part :: parts, written ++ front, .cons spelled rendered, ?_⟩
    simpa using ends
  induction arguments using split.induct with
  | case1 => exact ⟨[], [], .nil, .inl rfl⟩
  | case2 argument rest stray ih => exact preceded (.loose ((isStray_iff argument).mp stray)) ih
  | case3 name taken known =>
    exact ⟨[], [], .nil, .inr ⟨name, List.contains_iff_mem.mp known, rfl⟩⟩
  | case4 name taken known value rest ih =>
    exact preceded (.separate (List.contains_iff_mem.mp known)) ih
  | case5 argument rest taken alone ih =>
    obtain ⟨part, spelled⟩ :=
      exists_spells taken fun member => alone (List.contains_iff_mem.mpr member)
    exact preceded spelled ih

/-- Splitting undoes rendering, however the parts are spelled. Every argument list is a rendering of
parts, so that all its values stand in it, but that an option at the end may wait for one: that has
an empty value. -/
theorem split_of_rendered (arguments : List String) :
    (∀ parts, Renders parts arguments → split arguments = parts.filterMap option?) ∧
      ∃ parts front, Renders parts front ∧
        ((arguments = front ∧ split arguments = parts.filterMap option?) ∨
          ∃ name ∈ CompileOption.valued, arguments = front ++ [name] ∧
            split arguments = parts.filterMap option? ++ [⟨name, ""⟩]) := by
  constructor
  · intro parts rendered
    simpa [split] using rendered.split_append []
  · obtain ⟨parts, front, rendered, same | ⟨name, known, same⟩⟩ := exists_renders arguments
    · subst same
      exact ⟨parts, arguments, rendered, .inl ⟨rfl, by simpa [split] using rendered.split_append []⟩⟩
    · subst same
      refine ⟨parts, front, rendered, .inr ⟨name, known, rfl, ?_⟩⟩
      rw [rendered.split_append, split_alone known]

/-- Values that look like options, one option that begins like another, and an empty value. -/
theorem split_of_rendered_sample :
    let parts : List CommandPart :=
      [valued "-isystem" "-I" (by decide), loose "main.cpp" (by decide), standard "",
        valued "-D" "-std=x" (by decide), plain "-isys" ⟨by decide, by decide, by decide, by decide⟩,
        valued "-U" "" (by decide)]
    let arguments := ["-isystem-I", "main.cpp", "-std=", "-D", "-std=x", "-isys", "-U", ""]
    Renders parts arguments ∧ split arguments =
      [⟨"-isystem", "-I"⟩, ⟨"-std", ""⟩, ⟨"-D", "-std=x"⟩, ⟨"-isys", ""⟩, ⟨"-U", ""⟩] := by
  intro parts arguments
  have rendered : Renders parts arguments :=
    .cons (.glued (by decide) (by decide) (by decide)) <| .cons (.loose (by decide)) <|
      .cons (.standard "") <| .cons (.separate (by decide)) <| .cons (.plain _) <|
        .cons (.separate (by decide)) .nil
  exact ⟨rendered, (split_of_rendered arguments).1 parts rendered⟩

end CommandPart

end UnitLift
