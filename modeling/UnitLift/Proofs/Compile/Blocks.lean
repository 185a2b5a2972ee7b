import UnitLift.Proofs.Compile.CommandLine
import UnitLift.Proofs.Compile.Lifting

namespace UnitLift

theorem Standard.ofToken?_spelling (standard : Standard) (gnu : Bool) :
    ofToken? (standard.spelling gnu) = some standard := by
  cases standard <;> cases gnu <;> decide

theorem Standard.asksForGnu_spelling (standard : Standard) (gnu : Bool) :
    asksForGnu (standard.spelling gnu) = gnu := by
  cases standard <;> cases gnu <;> decide

namespace Mention

/-- A mention whose argument says the same wherever it is read, and says something. -/
def IsPortable : Mention → Prop
  | language => True
  | includeDir path => Path.isAbsolute path = true
  | define definition => definedName definition ≠ []
  | undefine name => definedName name ≠ [] ∧ String.ofList (definedName name) = name

variable (standard : Standard) (extensions : Extensions)

def arguments : Mention → List String
  | language => languageArguments standard extensions
  | includeDir path => ["-I" ++ path]
  | define definition => ["-D" ++ definition]
  | undefine name => ["-U" ++ name]

def options : Mention → List CompileOption
  | language => ⟨"-std", standard.spelling extensions.gnu⟩ ::
      ((if extensions.microsoft then [⟨"-fms-extensions", ""⟩] else []) ++
        if extensions.microsoftCompatibility then [⟨"-fms-compatibility", ""⟩] else [])
  | includeDir path => [⟨"-I", path⟩]
  | define definition => [⟨"-D", definition⟩]
  | undefine name => [⟨"-U", name⟩]

private theorem ne_empty_of_definedName {text : String} (named : definedName text ≠ []) :
    text ≠ "" := by
  intro empty
  subst empty
  exact named rfl

private theorem ne_empty_of_isAbsolute {path : String} (absolute : Path.isAbsolute path = true) :
    path ≠ "" := by
  intro empty
  subst empty
  cases absolute

theorem split_arguments {mention : Mention} (portable : mention.IsPortable) (rest : List String) :
    CompileOption.split (mention.arguments standard extensions ++ rest) =
      mention.options standard extensions ++ CompileOption.split rest := by
  cases mention with
  | language =>
    have microsoft (rest : List String) : CompileOption.split ("-fms-extensions" :: rest) =
        ⟨"-fms-extensions", ""⟩ :: CompileOption.split rest :=
      CompileOption.split_cons (by decide) (by decide) rest
    have compatibility (rest : List String) : CompileOption.split ("-fms-compatibility" :: rest) =
        ⟨"-fms-compatibility", ""⟩ :: CompileOption.split rest :=
      CompileOption.split_cons (by decide) (by decide) rest
    simp only [arguments, options, languageArguments, List.cons_append,
      CompileOption.split_standard]
    cases extensions.microsoft <;> cases extensions.microsoftCompatibility <;>
      simp [microsoft, compatibility]
  | includeDir path =>
    exact CompileOption.split_glued (by decide) (ne_empty_of_isAbsolute portable) rest
  | define definition =>
    exact CompileOption.split_glued (by decide) (ne_empty_of_definedName portable) rest
  | undefine name =>
    exact CompileOption.split_glued (by decide) (ne_empty_of_definedName portable.1) rest

/-- Every option of a block wants what the block stands for. -/
theorem mention?_of_mem_options {mention : Mention} (portable : mention.IsPortable)
    {option : CompileOption} (member : option ∈ mention.options standard extensions)
    (directory : String) : option.mention? directory = some mention := by
  cases mention with
  | language =>
    simp only [options, List.mem_cons, List.mem_append] at member
    rcases member with same | extension | extension
    · simp [same, CompileOption.mention?, CompileOption.kind, Standard.ofToken?_spelling]
    · split at extension <;> simp at extension
      simp [extension, CompileOption.mention?, CompileOption.kind]
    · split at extension <;> simp at extension
      simp [extension, CompileOption.mention?, CompileOption.kind]
  | includeDir path =>
    have given := ne_empty_of_isAbsolute portable
    have absolute : Path.isAbsolute path = true := portable
    simp [List.mem_singleton.mp member, CompileOption.mention?, CompileOption.kind, given,
      Takeover.includePath, absolute]
  | define definition =>
    have given := ne_empty_of_definedName portable
    simp [List.mem_singleton.mp member, CompileOption.mention?, CompileOption.kind, given]
  | undefine name =>
    have given := ne_empty_of_definedName portable.1
    simp [List.mem_singleton.mp member, CompileOption.mention?, CompileOption.kind, given,
      portable.2]

end Mention

def Slot.lastMention (log : List Mention) (slot : Slot) : Option Mention :=
  log.reverse.find? (·.slot == slot)

theorem Slot.slot_of_lastMention {log : List Mention} {slot : Slot} {mention : Mention}
    (last : slot.lastMention log = some mention) : mention.slot = slot ∧ mention ∈ log := by
  refine ⟨?_, ?_⟩
  · simpa using List.find?_some last
  · simpa using List.mem_of_find?_eq_some last

theorem Slot.exists_lastMention {log : List Mention} {slot : Slot}
    (written : slot ∈ log.map Mention.slot) : ∃ mention, slot.lastMention log = some mention := by
  obtain ⟨mention, member, own⟩ := List.mem_map.mp written
  apply Option.isSome_iff_exists.mp
  rw [lastMention, List.find?_isSome]
  exact ⟨mention, List.mem_reverse.mpr member, by simp [own]⟩

private theorem findSome?_of_find? {log : List Mention} {writes : Mention → Bool}
    {read : Mention → Option String} {mention : Mention}
    (others : ∀ other, writes other = false → read other = none)
    (found : log.find? writes = some mention) (shown : (read mention).isSome) :
    log.findSome? read = read mention := by
  induction log with
  | nil => simp at found
  | cons first rest ih =>
    cases here : writes first with
    | true =>
      rw [List.find?_cons_of_pos here] at found
      obtain ⟨text, shown⟩ := Option.isSome_iff_exists.mp shown
      rw [Option.some.inj found, List.findSome?_cons, shown]
    | false =>
      rw [List.find?_cons_of_neg (by simp [here])] at found
      rw [List.findSome?_cons, others first here]
      exact ih found

theorem Slot.arguments_eq {log : List Mention} {slot : Slot} {mention : Mention}
    (last : slot.lastMention log = some mention) (standard : Standard) (extensions : Extensions) :
    slot.arguments standard extensions log = mention.arguments standard extensions := by
  have own := (slot_of_lastMention last).1
  cases slot with
  | language =>
    cases mention <;> simp [Mention.slot] at own
    rfl
  | includeDir path =>
    cases mention <;> simp [Mention.slot] at own
    subst own
    rfl
  | definition name =>
    have others (other : Mention) (different : (other.slot == .definition name) = false) :
        other.argumentFor? name = none := by
      cases other <;> simp_all [Mention.slot, Mention.argumentFor?]
    have shown :
        mention.argumentFor? name = some ((mention.arguments standard extensions).headD "") ∧
        mention.arguments standard extensions =
          [(mention.arguments standard extensions).headD ""] := by
      cases mention <;> simp_all [Mention.slot, Mention.argumentFor?, Mention.arguments]
    have found := findSome?_of_find? others last (by simp [shown.1])
    simp only [arguments, List.getLast?_filterMap, found]
    rw [shown.1, shown.2]
    rfl

namespace Mention

/-- The mentions that no later one has replaced, in the order of their blocks. -/
def lasting (log : List Mention) : List Mention :=
  (Slot.arrange (log.map slot)).filterMap (Slot.lastMention log)

theorem mem_lasting_iff {log : List Mention} {mention : Mention} :
    mention ∈ lasting log ↔ mention.slot.lastMention log = some mention := by
  rw [lasting, List.mem_filterMap]
  constructor
  · rintro ⟨slot, _, last⟩
    rwa [← (Slot.slot_of_lastMention last).1] at last
  · intro last
    have member := (Slot.slot_of_lastMention last).2
    exact ⟨mention.slot, (Slot.mem_arrange _ _).mpr (List.mem_map_of_mem member), last⟩

theorem mem_of_mem_lasting {log : List Mention} {mention : Mention}
    (member : mention ∈ lasting log) : mention ∈ log :=
  (Slot.slot_of_lastMention (mem_lasting_iff.mp member)).2

theorem language_mem_lasting {log : List Mention} (selected : language ∈ log) :
    language ∈ lasting log := by
  obtain ⟨last, found⟩ := Slot.exists_lastMention (List.mem_map_of_mem selected)
  have own := (Slot.slot_of_lastMention found).1
  cases last <;> simp [slot] at own
  exact mem_lasting_iff.mpr found

theorem map_slot_lasting (log : List Mention) :
    (lasting log).map slot = Slot.arrange (log.map slot) := by
  have own : ∀ slot ∈ Slot.arrange (log.map Mention.slot),
      (Slot.lastMention log slot).map Mention.slot = some slot := by
    intro slot member
    obtain ⟨mention, last⟩ := Slot.exists_lastMention ((Slot.mem_arrange _ _).mp member)
    rw [last, Option.map_some, (Slot.slot_of_lastMention last).1]
  rw [lasting, List.map_filterMap, List.filterMap_congr own, List.filterMap_some]

/-- Among the lasting mentions every slot has the one that wrote it last. -/
theorem lastMention_lasting {log : List Mention} {slot : Slot}
    (written : slot ∈ Slot.arrange (log.map Mention.slot)) :
    slot.lastMention (lasting log) = slot.lastMention log := by
  rw [← map_slot_lasting] at written
  obtain ⟨mention, last⟩ := Slot.exists_lastMention written
  obtain ⟨own, member⟩ := Slot.slot_of_lastMention last
  rw [last, ← own, mem_lasting_iff.mp member]

/-- What was written before the lasting mentions does not count if it has no place of its own. -/
theorem lasting_append_lasting {opening log : List Mention}
    (settled : Slot.arrange (opening.map slot ++ Slot.arrange (log.map slot)) =
      Slot.arrange (log.map slot)) :
    lasting (opening ++ lasting log) = lasting log := by
  rw [lasting, List.map_append, map_slot_lasting, settled]
  conv => rhs; rw [lasting]
  apply List.filterMap_congr
  intro slot member
  have same := lastMention_lasting member
  obtain ⟨mention, last⟩ := Slot.exists_lastMention ((Slot.mem_arrange _ _).mp member)
  rw [last, Slot.lastMention] at same
  rw [last, Slot.lastMention, List.reverse_append, List.find?_append, same, Option.some_or]

end Mention

namespace CompileConfig

variable {log : List Mention} {config : CompileConfig}

theorem Records.arguments_eq (records : config.Records log) :
    config.arguments = ["-x", "c++"] ++ (Mention.lasting log).flatMap
      (Mention.arguments config.standard config.extensions) := by
  have written : ∀ slot ∈ Slot.arrange (log.map Mention.slot), slot ∈ log.map Mention.slot :=
    fun slot => (Slot.mem_arrange _ slot).mp
  rw [records.arguments, Mention.lasting]
  congr 1
  generalize Slot.arrange (log.map Mention.slot) = slots at written
  induction slots with
  | nil => rfl
  | cons first rest ih =>
    obtain ⟨mention, last⟩ := Slot.exists_lastMention (written first (by simp))
    rw [List.filterMap_cons_some last, List.flatMap_cons, List.flatMap_cons,
      Slot.arguments_eq last, ih fun slot member => written slot (by simp [member])]

/-- Saying the same twice in a row is saying it once. -/
theorem Records.again {mention : Mention}
    (records : config.Records (log ++ [mention] ++ [mention])) :
    config.Records (log ++ [mention]) := by
  have places : Slot.arrange ((log ++ [mention] ++ [mention]).map Mention.slot) =
      Slot.arrange ((log ++ [mention]).map Mention.slot) := by
    rw [List.map_append, List.map_singleton]
    cases kind : mention.slot.keepsPlace with
    | true => rw [Slot.arrange_concat_of_keepsPlace kind]; simp
    | false =>
      rw [Slot.arrange_concat_of_moves kind, List.map_append, List.map_singleton,
        Slot.arrange_concat_of_moves kind]
      simp
  have blocks : Slot.flags config.standard config.extensions (log ++ [mention] ++ [mention]) =
      Slot.flags config.standard config.extensions (log ++ [mention]) := by
    funext slot
    by_cases own : slot = mention.slot
    · cases slot with
      | language | includeDir path => rfl
      | definition name => cases about : mention.flagFor? name <;> simp [Slot.flags, about]
    · exact Slot.flags_concat_of_ne _ _ _ _ _ own
  rwa [Records, places, blocks] at records

end CompileConfig

end UnitLift
