import Mathlib.Data.List.TakeWhile
import UnitLift.Compile.Config
import UnitLift.Proofs.Compile.Slots

/-! The arguments of a configuration after any history of calls. Every call rewrites one slot, and
the arguments are the blocks of the slots in the order that `Slot.arrange` gives them. -/

namespace UnitLift

/-- What stands behind `-D` for a name and its value. -/
def definitionText (name : String) (value : Option String) : String :=
  match value with
  | none => name
  | some value => name ++ "=" ++ value

theorem definedName_definitionText (name : String) (value : Option String) :
    definedName (definitionText name value) = definedName name := by
  cases value with
  | none => rfl
  | some value =>
    simp only [definitionText, definedName, String.toList_append, List.append_assoc]
    induction name.toList with
    | nil => rfl
    | cons c rest ih => by_cases inside : (c != '=' && c != '(') <;> simp_all

theorem definedName_definedName (name : String) :
    definedName (String.ofList (definedName name)) = definedName name := by
  simp [definedName, List.takeWhile_idem]

/-- What a call wants to stand in the arguments. -/
inductive Mention where
  | language
  | includeDir (path : String)
  | define (definition : String)
  | undefine (name : String)
deriving DecidableEq, Repr

namespace Mention

def slot : Mention → Slot
  | language => .language
  | includeDir path => .includeDir path
  | define definition => .definition (definedName definition)
  | undefine name => .definition (definedName name)

def argumentFor? (name : List Char) : Mention → Option String
  | define definition => if definedName definition = name then some ("-D" ++ definition) else none
  | undefine undefined => if definedName undefined = name then some ("-U" ++ undefined) else none
  | language | includeDir _ => none

end Mention

def languageArguments (standard : Standard) (extensions : Extensions) : List String :=
  ("-std=" ++ standard.spelling extensions.gnu) ::
    ((if extensions.microsoft then ["-fms-extensions"] else []) ++
      if extensions.microsoftCompatibility then ["-fms-compatibility"] else [])

/-- The block of a slot: the language that is selected now, a directory, or what was said last about
a name. -/
def Slot.arguments (standard : Standard) (extensions : Extensions) (log : List Mention) :
    Slot → List String
  | language => languageArguments standard extensions
  | includeDir path => ["-I" ++ path]
  | definition name => (log.filterMap (Mention.argumentFor? name)).getLast?.toList

def Mention.flagFor? (name : List Char) : Mention → Option Flag
  | define definition => if definedName definition = name then some (.define definition) else none
  | undefine undefined => if definedName undefined = name then some (.undefine undefined) else none
  | language | includeDir _ => none

def Slot.flags (standard : Standard) (extensions : Extensions) (log : List Mention) :
    Slot → List Flag
  | language => .standard standard extensions.gnu ::
      (extensions.toList.filter (·.argument?.isSome)).map .extension
  | includeDir path => [.includeDir path]
  | definition name => (log.filterMap (Mention.flagFor? name)).getLast?.toList

def Flag.slot : Flag → Slot
  | includeDir path => .includeDir path
  | standard _ _ | extension _ => .language
  | define definition => .definition (definedName definition)
  | undefine name => .definition (definedName name)

theorem Flag.isLanguage_eq (flag : Flag) : flag.isLanguage = (flag.slot == .language) := by
  cases flag <;> simp [isLanguage, slot]

theorem Flag.isAbout_eq (flag : Flag) (name : List Char) :
    flag.isAbout name = (flag.slot == .definition name) := by
  apply Bool.eq_iff_iff.mpr
  cases flag <;> simp [isAbout, slot]

theorem Mention.slot_of_flagFor? {mention : Mention} {name : List Char} {flag : Flag}
    (about : mention.flagFor? name = some flag) :
    mention.slot = .definition name ∧ flag.slot = .definition name := by
  cases mention <;> simp [flagFor?] at about
  all_goals
    obtain ⟨same, rfl⟩ := about
    simp [slot, Flag.slot, same]

theorem Mention.map_render_flagFor? (name : List Char) (mention : Mention) :
    (mention.flagFor? name).map Flag.render = mention.argumentFor? name := by
  cases mention <;> simp only [flagFor?, argumentFor?, Option.map_none]
  all_goals split <;> rfl

theorem Slot.map_render_flags (standard : Standard) (extensions : Extensions) (log : List Mention)
    (slot : Slot) :
    (slot.flags standard extensions log).map Flag.render =
      slot.arguments standard extensions log := by
  cases slot with
  | language =>
    obtain ⟨gnu, microsoft, compatibility⟩ := extensions
    cases gnu <;> cases microsoft <;> cases compatibility <;> rfl
  | includeDir path => rfl
  | definition name =>
    have rendered : log.filterMap (Mention.argumentFor? name) =
        (log.filterMap (Mention.flagFor? name)).map Flag.render := by
      rw [List.map_filterMap]
      exact congrArg (log.filterMap ·) (funext fun m => (m.map_render_flagFor? name).symm)
    simp only [flags, arguments, rendered, List.getLast?_map]
    cases (log.filterMap (Mention.flagFor? name)).getLast? <;> rfl

theorem Slot.slot_of_mem_flags {standard : Standard} {extensions : Extensions} {log : List Mention}
    {slot : Slot} {flag : Flag} (member : flag ∈ slot.flags standard extensions log) :
    flag.slot = slot := by
  cases slot with
  | language =>
    rcases List.mem_cons.mp member with same | extension
    · rw [same]; rfl
    · obtain ⟨_, _, same⟩ := List.mem_map.mp extension
      rw [← same]; rfl
  | includeDir path =>
    rw [List.mem_singleton.mp member]; rfl
  | definition name =>
    have last := List.mem_of_getLast? (Option.mem_toList.mp member)
    obtain ⟨mention, _, about⟩ := List.mem_filterMap.mp last
    exact (Mention.slot_of_flagFor? about).2

theorem Slot.filter_flatMap_flags (standard : Standard) (extensions : Extensions)
    (log : List Mention) (slots : List Slot) (slot : Slot) :
    (slots.flatMap (Slot.flags standard extensions log)).filter (·.slot != slot) =
      (slots.filter (· != slot)).flatMap (Slot.flags standard extensions log) := by
  induction slots with
  | nil => rfl
  | cons first rest ih =>
    have ofFirst (flag : Flag) (member : flag ∈ first.flags standard extensions log) :
        flag.slot = first := slot_of_mem_flags member
    rw [List.flatMap_cons, List.filter_append, ih]
    by_cases same : first = slot
    · have none : (first.flags standard extensions log).filter (·.slot != slot) = [] := by
        apply List.filter_eq_nil_iff.mpr
        intro flag member
        simp [ofFirst flag member, same]
      rw [none, List.nil_append]
      simp [same]
    · have all : (first.flags standard extensions log).filter (·.slot != slot) =
          first.flags standard extensions log := by
        apply List.filter_eq_self.mpr
        intro flag member
        simpa [ofFirst flag member] using same
      simp [all, same]

/-- A mention changes the block of its own slot only. -/
theorem Slot.flags_concat_of_ne (standard : Standard) (extensions : Extensions)
    (log : List Mention) (mention : Mention) (slot : Slot) (other : slot ≠ mention.slot) :
    slot.flags standard extensions (log ++ [mention]) = slot.flags standard extensions log := by
  cases slot with
  | language | includeDir path => rfl
  | definition name =>
    have none : mention.flagFor? name = none := by
      apply Option.eq_none_iff_forall_ne_some.mpr
      intro flag about
      exact other (Mention.slot_of_flagFor? about).1.symm
    simp [flags, List.filterMap_append, none]

namespace CompileConfig

/-- The flags of a configuration are the blocks of the slots that a log writes, in their order. -/
def Records (log : List Mention) (config : CompileConfig) : Prop :=
  config.flags = (Slot.arrange (log.map Mention.slot)).flatMap
    (Slot.flags config.standard config.extensions log)

variable {log : List Mention} {config : CompileConfig}

theorem Records.arguments (records : config.Records log) :
    config.arguments = ["-x", "c++"] ++ (Slot.arrange (log.map Mention.slot)).flatMap
      (Slot.arguments config.standard config.extensions log) := by
  have rendered : (Slot.flags config.standard config.extensions log · |>.map Flag.render) =
      Slot.arguments config.standard config.extensions log :=
    funext (Slot.map_render_flags _ _ _)
  rw [CompileConfig.arguments, records, List.map_flatMap, rendered]
  rfl

theorem Records.contains_includeDir (records : config.Records log) (path : String) :
    config.flags.contains (.includeDir path) =
      decide (Slot.includeDir path ∈ log.map Mention.slot) := by
  apply Bool.eq_iff_iff.mpr
  rw [List.contains_iff_mem, records, List.mem_flatMap, decide_eq_true_iff, ← Slot.mem_arrange]
  constructor
  · rintro ⟨slot, present, member⟩
    have own := Slot.slot_of_mem_flags member
    subst own
    exact present
  · exact fun present => ⟨_, present, List.mem_singleton.mpr rfl⟩

/-- Rewriting a slot that moves: its old block goes, the new one comes last. -/
private theorem Records.move (records : config.Records log) (mention : Mention)
    (moves : mention.slot.keepsPlace = false) (standard : Standard) (extensions : Extensions)
    (kept : mention.slot ≠ .language →
      standard = config.standard ∧ extensions = config.extensions) :
    config.flags.filter (·.slot != mention.slot) ++
        mention.slot.flags standard extensions (log ++ [mention]) =
      (Slot.arrange ((log ++ [mention]).map Mention.slot)).flatMap
        (Slot.flags standard extensions (log ++ [mention])) := by
  have others : ((Slot.arrange (log.map Mention.slot)).filter (· != mention.slot)).flatMap
        (Slot.flags config.standard config.extensions log) =
      ((Slot.arrange (log.map Mention.slot)).filter (· != mention.slot)).flatMap
        (Slot.flags standard extensions (log ++ [mention])) := by
    apply List.flatMap_congr
    intro slot member
    have other : slot ≠ mention.slot := by simpa using (List.mem_filter.mp member).2
    rw [Slot.flags_concat_of_ne _ _ _ _ _ other]
    by_cases language : mention.slot = .language
    · cases slot with
      | language => exact absurd language.symm other
      | includeDir path | definition name => rfl
    · obtain ⟨sameStandard, sameExtensions⟩ := kept language
      rw [sameStandard, sameExtensions]
  rw [records, Slot.filter_flatMap_flags, others, List.map_append, List.map_singleton,
    Slot.arrange_concat_of_moves moves, List.flatMap_append]
  simp

theorem Records.selectStandard (records : config.Records log) (standard : Standard)
    (extensions : Extensions) :
    (config.selectStandard standard extensions).Records (log ++ [.language]) := by
  have removed : config.flags.filter (!·.isLanguage) = config.flags.filter (·.slot != .language) :=
    congrArg (config.flags.filter ·) (funext fun flag => by rw [Flag.isLanguage_eq]; rfl)
  have moved := records.move .language rfl standard extensions (fun other => absurd rfl other)
  simp only [Records, CompileConfig.selectStandard, removed]
  exact moved

theorem Records.addIncludeDir (records : config.Records log) (path : String) :
    (config.addIncludeDir path).Records (log ++ [.includeDir path]) := by
  have blocks : Slot.flags config.standard config.extensions (log ++ [.includeDir path]) =
      Slot.flags config.standard config.extensions log := by
    funext slot
    cases slot <;> simp [Slot.flags, List.filterMap_append, Mention.flagFor?]
  have keeps : (Slot.includeDir path).keepsPlace = true := rfl
  have places := Slot.arrange_concat_of_keepsPlace keeps (log.map Mention.slot)
  rw [CompileConfig.addIncludeDir, records.contains_includeDir]
  by_cases known : Slot.includeDir path ∈ log.map Mention.slot
  · simpa [Records, known, blocks, places, Mention.slot] using records
  · simpa [Records, known, blocks, places, Mention.slot, Slot.flags] using records

private theorem forget_flags (config : CompileConfig) (definition : String) :
    (config.forget definition).flags =
      config.flags.filter (·.slot != .definition (definedName definition)) :=
  congrArg (config.flags.filter ·) (funext fun flag => by rw [Flag.isAbout_eq]; rfl)

theorem Records.define (records : config.Records log) (name : String) (value : Option String) :
    (config.define name value).Records (log ++ [.define (definitionText name value)]) := by
  have moved := records.move (.define (definitionText name value)) rfl config.standard
    config.extensions (fun _ => ⟨rfl, rfl⟩)
  have block : Slot.flags config.standard config.extensions
      (log ++ [.define (definitionText name value)]) (.definition (definedName name)) =
        [.define (definitionText name value)] := by
    simp [Slot.flags, List.filterMap_append, Mention.flagFor?, definedName_definitionText]
  simp only [Mention.slot, definedName_definitionText, block] at moved
  simp only [Records, CompileConfig.define, forget_flags]
  exact moved

theorem Records.undefine (records : config.Records log) (name : String) :
    (config.undefine name).Records (log ++ [.undefine (String.ofList (definedName name))]) := by
  have moved := records.move (.undefine (String.ofList (definedName name))) rfl config.standard
    config.extensions (fun _ => ⟨rfl, rfl⟩)
  have block : Slot.flags config.standard config.extensions
      (log ++ [.undefine (String.ofList (definedName name))]) (.definition (definedName name)) =
        [.undefine (String.ofList (definedName name))] := by
    simp [Slot.flags, List.filterMap_append, Mention.flagFor?, definedName_definedName]
  simp only [Mention.slot, definedName_definedName, block] at moved
  simp only [Records, CompileConfig.undefine, forget_flags]
  exact moved

end CompileConfig

end UnitLift
