import UnitLift.Proofs.Data.Overlaid
import UnitLift.Proofs.Number.WellFormed
import UnitLift.SettingsLibrary

/-! What is relied on about the library for settings, and what follows for settings that are written and
loaded again: each scalar has to be read as it was spelled, and all else is a matter of mappings. -/

namespace UnitLift

open Value (IsTree Alike)

/-- A computation that succeeds does so in both of its steps. -/
theorem of_bind_eq_ok {α β : Type} {first : Except Fault α} {next : α → Except Fault β} {result : β}
    (ran : first >>= next = .ok result) : ∃ value, first = .ok value ∧ next value = .ok result := by
  cases first with
  | error => cases ran
  | ok value => exact ⟨value, rfl, ran⟩

/-! ## Parts of values -/

namespace Value

/-- The value that names lead to; it is absent if they lead to none. -/
def under (value : Value) : List String → Value
  | [] => value
  | name :: rest =>
    match value with
    | .mapping entries => ((Value.entry? (.text name) entries).map (under · rest)).getD .null
    | _ => .null

/-- The value that names lead to, each of which has to be there. -/
def require (value : Value) : List String → Except Fault Value
  | [] => .ok value
  | name :: rest =>
    match value with
    | .mapping entries =>
      match entry? (.text name) entries with
      | some part => require part rest
      | none => .error .noSuchSetting
    | _ => .error .missingPart

variable {value other : Value} {names : List String} {key : Nat → String → Prop}
  {leaf : Nat → Scalar → Prop} {level : Nat}

theorem IsTree.require {part : Value} (tree : IsTree key leaf level value)
    (found : value.require names = .ok part) : IsTree key leaf (level + names.length) part := by
  induction names generalizing value level with
  | nil =>
    obtain rfl := Except.ok.inj found
    exact tree
  | cons name rest ih =>
    cases tree with
    | scalar => cases found
    | @mapping _ entries named keys values =>
      rw [Value.require] at found
      cases there : entry? (.text name) entries with
      | none =>
        rw [there] at found
        cases found
      | some part =>
        rw [there] at found
        have inner := ih (values _ (named.entry?_eq_some_iff.mp there)) found
        rwa [List.length_cons, Nat.add_comm rest.length, ← Nat.add_assoc]

theorem Alike.under (alike : Alike value other) : Alike (value.under names) (other.under names) := by
  induction names generalizing value other with
  | nil => exact alike
  | cons name rest ih =>
    cases alike with
    | same => exact .same _
    | mapping present values =>
      have parts := Alike.mapping present values
      rcases parts.entry? name with ⟨none, none'⟩ | ⟨_, _, found, found', same⟩
      · simp only [Value.under, none, none']
        exact .same _
      · simp only [Value.under, found, found']
        exact ih same

end Value

/-- Two answers are the same but for the order of entries. -/
inductive Agree : Except Fault Value → Except Fault Value → Prop
  | ok {value other : Value} (alike : Alike value other) : Agree (.ok value) (.ok other)
  | error (fault : Fault) : Agree (.error fault) (.error fault)

theorem Agree.of_ok {answer : Except Fault Value} {value : Value} (agree : Agree answer (.ok value)) :
    ∃ other, answer = .ok other ∧ Alike other value := by
  cases agree with
  | ok alike => exact ⟨_, rfl, alike⟩

namespace Value

variable {value other : Value} {key : Nat → String → Prop} {leaf : Nat → Scalar → Prop} {level : Nat}

theorem Alike.require (alike : Alike value other) (names : List String) :
    Agree (value.require names) (other.require names) := by
  induction names generalizing value other with
  | nil => exact .ok alike
  | cons name rest ih =>
    cases alike with
    | same =>
      cases (value.require (name :: rest)) with
      | ok => exact .ok (.same _)
      | error => exact .error _
    | mapping present values =>
      have parts := Alike.mapping present values
      rcases parts.entry? name with ⟨none, none'⟩ | ⟨_, _, found, found', same⟩
      · simp only [Value.require, none, none']
        exact .error _
      · simp only [Value.require, found, found']
        exact ih same

theorem Alike.isTruthy (tree : IsTree key leaf level value) (tree' : IsTree key leaf level other)
    (alike : Alike value other) : value.isTruthy = other.isTruthy := by
  have nothing {entries others : List (Scalar × Value)} (named : AreNamed entries)
      (names : ∀ name, (Value.entry? (.text name) entries).isSome =
        (Value.entry? (.text name) others).isSome) (empty : others = []) : entries = [] := by
    subst empty
    rw [List.eq_nil_iff_forall_not_mem]
    intro entry member
    obtain ⟨name, there⟩ := named.exists_entry? member
    have present := names name
    rw [there] at present
    cases present
  cases alike with
  | same => rfl
  | @mapping entries others names values =>
    have empty : entries.isEmpty = others.isEmpty := by
      rw [Bool.eq_iff_iff, List.isEmpty_iff, List.isEmpty_iff]
      exact ⟨nothing tree'.named fun name => (names name).symm, nothing tree.named names⟩
    exact congrArg not empty

end Value

/-! ## Scalars -/

namespace Scalar

/-- A scalar that is not still to be given, and says nothing about other settings. -/
def IsGiven : Scalar → Prop
  | .text value => value ≠ "???" ∧ ¬['$', '\x7b'] <:+: value.toList
  | _ => True

instance (value : String) : Decidable (IsGiven (.text value)) := inferInstanceAs (Decidable (_ ∧ _))

end Scalar

/-- A value that looking up and merging take as it is. -/
def Value.IsSettled : Value → Prop := IsTree (fun _ _ => True) (fun _ scalar => scalar.IsGiven) 0

/-- Nested mappings of which all numbers are in the form in which numbers are. -/
def Value.IsProper : Value → Prop := IsTree (fun _ _ => True) (fun _ scalar => scalar.IsProper) 0

/-- How a scalar stands in a document. -/
structure Spelling where
  text : String
  quoted : Bool

/-- How keys and documents are understood. Writer and reader may differ on what a text without quotes is. -/
structure Dialect where
  /-- The names that a key leads through. -/
  names : String → Except Fault (List String)
  /-- Whether the writer leaves a text without quotes. -/
  isPlain : String → Bool
  /-- Whether a text without quotes is a fraction for the reader though it is none for the writer. -/
  isLoose : String → Bool
  /-- How the writer spells a scalar, if it can. -/
  spell? : Scalar → Option Spelling
  /-- What the reader takes a spelling for. -/
  read? : Spelling → Option Scalar
  /-- Whether the characters of a text are found again where it is written inside of so many mappings. -/
  carries : Nat → String → Prop
  /-- The same for a name, with its colon behind it. -/
  carriesName : Nat → String → Prop

namespace Dialect

variable (dialect : Dialect)

/-- A scalar that is read as it is spelled. -/
def Rereads (scalar : Scalar) : Prop :=
  ∀ spelling, dialect.spell? scalar = some spelling → dialect.read? spelling = some scalar

/-- A name that is kept inside of so many mappings. -/
def KeepsName (level : Nat) (name : String) : Prop :=
  dialect.carriesName level name ∧ dialect.Rereads (.text name)

/-- A leaf that is kept inside of so many mappings. -/
structure Keeps (level : Nat) (scalar : Scalar) : Prop where
  carried : ∀ text, scalar = .text text → dialect.carries level text
  reread : dialect.Rereads scalar
  given : scalar.IsGiven
  proper : scalar.IsProper

/-- A text that writer and reader do not take for different things. -/
def IsUnambiguous (text : String) : Prop := dialect.isPlain text = true → dialect.isLoose text = false

/-- A name that settings may have. -/
def IsFaithfulName (level : Nat) (name : String) : Prop :=
  dialect.carriesName level name ∧ dialect.IsUnambiguous name

/-- A leaf that settings may have: any but a text that is ambiguous, is not carried or says something about
other settings. -/
def IsFaithfulLeaf (level : Nat) : Scalar → Prop
  | .text text => dialect.carries level text ∧ dialect.IsUnambiguous text ∧ (Scalar.text text).IsGiven
  | _ => True

end Dialect

/-- Whether a text starts with a sign, a digit or a point. -/
def startsLikeNumber (text : String) : Bool := text.toList.head?.any ("+-.0123456789".toList.contains ·)

namespace SettingsLibrary

variable {Config : Type} {library : SettingsLibrary Config} {dialect : Dialect}

/-- What is relied on about a library. -/
structure Laws (library : SettingsLibrary Config) (dialect : Dialect) : Prop where
  /-- A configuration contains the mapping that it was created with. -/
  contents_create : ∀ entries, (Value.mapping entries).IsSettled →
    library.contents (library.create (.mapping entries)) = .mapping entries
  /-- Mappings are merged entry by entry, and anything else is replaced. -/
  merge : ∀ old new, (library.contents old).IsSettled → (library.contents new).IsSettled →
    ∃ merged, library.merge old new = .ok merged ∧
      library.contents merged = (library.contents old).overlaid (library.contents new)
  /-- Parts are those of the contents. -/
  part : ∀ config names, (library.contents config).IsSettled →
    library.part config names = (library.contents config).require names
  /-- A key leads to what is in the contents under its names, or to nothing. -/
  select : ∀ config key, (library.contents config).IsSettled →
    library.select config key = (dialect.names key).map (library.contents config).under
  /-- A text is spelled as it is, with or without quotes. -/
  spell_text : ∀ text, dialect.spell? (.text text) = some ⟨text, !dialect.isPlain text⟩
  /-- A text in quotes is a text. -/
  read_quoted : ∀ text, dialect.read? ⟨text, true⟩ = some (.text text)
  /-- A text that the writer leaves without quotes is a text for the reader, or one of the further fractions. -/
  read_plain : ∀ text, dialect.isPlain text = true → dialect.isLoose text = false →
    dialect.read? ⟨text, false⟩ = some (.text text)
  /-- What is no text is read as it is spelled. -/
  rereads : ∀ scalar : Scalar, scalar.IsProper → (∀ text, scalar ≠ .text text) → dialect.Rereads scalar
  /-- All fractions look like numbers at their start. -/
  loose_start : ∀ text, dialect.isLoose text = true → startsLikeNumber text = true
  /-- A text in one line is found again where its mapping is indented by less than the width of a line. -/
  carries_line : ∀ level text, '\n' ∉ text.toList → 2 * level < 80 → dialect.carries level text
  /-- The same goes for a name, of which the colon must not come too late. -/
  carries_name : ∀ level name, '\n' ∉ name.toList → 2 * level < 80 → name.length ≤ 100 →
    dialect.carriesName level name
  /-- The numbers in what is loaded are in the form in which all numbers are. -/
  load_proper : ∀ text config, library.load text = .ok config → (library.contents config).IsSettled →
    (library.contents config).IsProper
  /-- A mapping that is dumped is loaded again, but for the order of entries, if all its names and leaves are
  kept. There are no deeper ones than were loaded before, or else it has only sections. -/
  load_dump : ∀ earlier known entries text, library.load earlier = .ok known →
    (Value.mapping entries).depth ≤ max 2 (library.contents known).depth →
    IsTree dialect.KeepsName dialect.Keeps 0 (.mapping entries) → entries ≠ [] →
    library.dump (.mapping entries) = .ok text →
    ∃ again, library.load text = .ok again ∧
      IsTree dialect.KeepsName dialect.Keeps 0 (library.contents again) ∧
      Alike (library.contents again) (.mapping entries)

namespace Laws

variable {config again user settings : Config} {level : Nat} {text : String} {scalar : Scalar}
  {value : Value}

/-! ## Looking up -/

/-- What is under a key does not depend on the order of entries. -/
theorem get_alike (laws : library.Laws dialect) (settled : (library.contents config).IsSettled)
    (settled' : (library.contents again).IsSettled)
    (alike : Alike (library.contents again) (library.contents config)) (key : String) (default : Value) :
    Agree (library.get again key default) (library.get config key default) := by
  unfold get
  rw [laws.select _ _ settled, laws.select _ _ settled']
  cases dialect.names key with
  | error fault => exact .error fault
  | ok names =>
    have found : Alike ((library.contents again).under names) ((library.contents config).under names) :=
      alike.under
    simp only [Except.map, bind, Except.bind]
    generalize (library.contents again).under names = value at found
    generalize (library.contents config).under names = other at found
    cases found with
    | mapping present values => exact .ok (.mapping present values)
    | same =>
      split
      · exact .ok (.same default)
      · exact .ok (.same _)

private theorem part_alike (laws : library.Laws dialect) (settled : (library.contents config).IsSettled)
    (settled' : (library.contents again).IsSettled)
    (alike : Alike (library.contents again) (library.contents config)) (names : List String) :
    Agree (library.part again names) (library.part config names) := by
  rw [laws.part _ _ settled, laws.part _ _ settled']
  exact alike.require names

/-- Settings that are the same but for the order of entries ask for the same log. -/
theorem logging_alike (laws : library.Laws dialect) (settled : (library.contents config).IsSettled)
    (settled' : (library.contents again).IsSettled)
    (alike : Alike (library.contents again) (library.contents config)) {wanted : Settings.LoggingSection}
    (asked : library.logging config = .ok wanted) :
    ∃ other, library.logging again = .ok other ∧ other.verbose = wanted.verbose ∧
      other.colored = wanted.colored ∧ other.file.isTruthy = wanted.file.isTruthy ∧
      Alike other.file wanted.file := by
  have part {names : List String} {value : Value} (found : library.part config names = .ok value) :
      ∃ other, library.part again names = .ok other ∧ other.isTruthy = value.isTruthy ∧
        Alike other value := by
    obtain ⟨other, found', same⟩ := (found ▸ laws.part_alike settled settled' alike names).of_ok
    rw [laws.part _ _ settled] at found
    rw [laws.part _ _ settled'] at found'
    refine ⟨other, (laws.part _ _ settled').trans found', ?_, same⟩
    exact same.isTruthy (IsTree.require settled' found') (IsTree.require settled found)
  have verbose {verbose : Bool} (asked : library.isVerbose config = .ok verbose) :
      library.isVerbose again = .ok verbose := by
    unfold isVerbose at asked ⊢
    obtain ⟨level, found, asked⟩ := of_bind_eq_ok asked
    obtain ⟨level', found', -, same⟩ := part found
    rw [found']
    split at asked
    · obtain rfl := same.scalar_right
      exact asked
    · obtain ⟨_, -, never⟩ := of_bind_eq_ok asked
      cases never
  unfold logging at asked ⊢
  obtain ⟨asksAll, asks, asked⟩ := of_bind_eq_ok asked
  obtain ⟨colored, paints, asked⟩ := of_bind_eq_ok asked
  obtain ⟨file, files, asked⟩ := of_bind_eq_ok asked
  obtain rfl := Except.ok.inj asked
  obtain ⟨colored', paints', sameColored, -⟩ := part paints
  obtain ⟨file', files', sameGiven, sameFile⟩ := part files
  refine ⟨⟨asksAll, colored'.isTruthy, file'⟩, ?_, rfl, sameColored, sameGiven, sameFile⟩
  rw [verbose asks, paints', files']
  rfl

/-! ## Writing and loading -/

private theorem rereads_text (laws : library.Laws dialect) (unambiguous : dialect.IsUnambiguous text) :
    dialect.Rereads (.text text) := by
  intro spelling spelled
  rw [laws.spell_text] at spelled
  obtain rfl := Option.some.inj spelled
  cases plain : dialect.isPlain text with
  | false => exact laws.read_quoted text
  | true => exact laws.read_plain text plain (unambiguous plain)

private theorem keeps_of_faithful (laws : library.Laws dialect) (faithful : dialect.IsFaithfulLeaf level scalar)
    (proper : scalar.IsProper) : dialect.Keeps level scalar := by
  cases scalar with
  | text text =>
    obtain ⟨carried, unambiguous, given⟩ := faithful
    exact ⟨fun _ same => Scalar.text.inj same ▸ carried, laws.rereads_text unambiguous, given, trivial⟩
  | _ => exact ⟨nofun, laws.rereads _ proper nofun, trivial, proper⟩

private theorem keptTree (laws : library.Laws dialect)
    (tree : IsTree dialect.IsFaithfulName dialect.IsFaithfulLeaf 0 value) (proper : value.IsProper) :
    IsTree dialect.KeepsName dialect.Keeps 0 value :=
  (tree.and proper).mono (fun _ _ faithful => ⟨faithful.1, laws.rereads_text faithful.2⟩)
    fun _ _ kept => laws.keeps_of_faithful kept.1 kept.2

private theorem isSettled_of_faithful
    (tree : IsTree dialect.IsFaithfulName dialect.IsFaithfulLeaf 0 value) : value.IsSettled := by
  refine tree.mono (fun _ _ _ => trivial) fun _ scalar faithful => ?_
  cases scalar with
  | text => exact faithful.2.2
  | _ => trivial

private theorem isSettled (tree : IsTree dialect.KeepsName dialect.Keeps 0 value) : value.IsSettled :=
  tree.mono (fun _ _ _ => trivial) fun _ _ kept => kept.given

private theorem isUnambiguous (laws : library.Laws dialect) (word : startsLikeNumber text = false) :
    dialect.IsUnambiguous text := by
  intro _
  rw [← Bool.not_eq_true]
  intro loose
  exact Bool.false_ne_true (word.symm.trans (laws.loose_start text loose))

/-- No name or text in the defaults looks like a number. -/
theorem isTree_defaults (laws : library.Laws dialect) :
    IsTree dialect.IsFaithfulName dialect.IsFaithfulLeaf 0 Settings.defaults := by
  have names {level : Nat} {fields : List (String × Value)} (near : 2 * level < 80)
      (words : ∀ field ∈ fields, '\n' ∉ field.1.toList ∧ field.1.length ≤ 100 ∧
        startsLikeNumber field.1 = false) :
      ∀ field ∈ fields, dialect.IsFaithfulName level field.1 := by
    intro field member
    obtain ⟨inLine, short, word⟩ := words field member
    exact ⟨laws.carries_name level field.1 inLine near short, laws.isUnambiguous word⟩
  have shown {text : String} (inLine : '\n' ∉ text.toList) (word : startsLikeNumber text = false)
      (given : (Scalar.text text).IsGiven) :
      IsTree dialect.IsFaithfulName dialect.IsFaithfulLeaf 2 (.text text) :=
    .scalar ⟨laws.carries_line 2 text inLine (by decide), laws.isUnambiguous word, given⟩
  have severity : IsTree dialect.IsFaithfulName dialect.IsFaithfulLeaf 2 (.text "INFO") :=
    shown (by decide) (by decide) (by decide +kernel)
  have standard : IsTree dialect.IsFaithfulName dialect.IsFaithfulLeaf 2 (.text "c++17") :=
    shown (by decide) (by decide) (by decide +kernel)
  have flag (value : Bool) : IsTree dialect.IsFaithfulName dialect.IsFaithfulLeaf 2 (.bool value) :=
    .scalar trivial
  have absent : IsTree dialect.IsFaithfulName dialect.IsFaithfulLeaf 2 .null := .scalar trivial
  have limit : IsTree dialect.IsFaithfulName dialect.IsFaithfulLeaf 2 (.int 120) := .scalar trivial
  refine .record (by decide) (names (by decide) (by decide +kernel)) (List.forall_mem_cons.mpr
    ⟨.record (by decide) (names (by decide) (by decide +kernel)) ?logging, List.forall_mem_singleton.mpr
      (.record (by decide) (names (by decide) (by decide +kernel)) ?parser)⟩)
  case logging => simp [severity, flag, absent]
  case parser => simp [absent, standard, limit]

private theorem isProper_defaults : Settings.defaults.IsProper := by
  have text (value : String) : IsTree (fun _ _ => True) (fun _ scalar => scalar.IsProper) 2 (.text value) :=
    .scalar trivial
  have flag (value : Bool) : IsTree (fun _ _ => True) (fun _ scalar => scalar.IsProper) 2 (.bool value) :=
    .scalar trivial
  have absent : IsTree (fun _ _ => True) (fun _ scalar => scalar.IsProper) 2 .null := .scalar trivial
  have limit : IsTree (fun _ _ => True) (fun _ scalar => scalar.IsProper) 2 (.int 120) := .scalar trivial
  refine .record (by decide) (fun _ _ => trivial) (List.forall_mem_cons.mpr
    ⟨.record (by decide) (fun _ _ => trivial) ?logging, List.forall_mem_singleton.mpr
      (.record (by decide) (fun _ _ => trivial) ?parser)⟩)
  case logging => simp [text, flag, absent]
  case parser => simp [text, absent, limit]

/-- Entries that are laid over the defaults make a mapping that has entries. -/
private theorem exists_sections {entries : List (Scalar × Value)} (named : Value.AreNamed entries) :
    ∃ sections, Settings.defaults.overlaid (.mapping entries) = .mapping sections ∧ sections ≠ [] := by
  have known : ∃ known, Settings.defaults = .mapping known ∧ Value.AreNamed known ∧
      (Value.entry? (.text "logging") known).isSome = true :=
    ⟨_, rfl, ⟨by decide, by simp⟩, by decide⟩
  obtain ⟨known, same, knownNamed, present⟩ := known
  rw [same, Value.overlaid]
  refine ⟨_, rfl, fun empty => ?_⟩
  have there := (Value.named_overlaidEntries knownNamed named).2 "logging"
  rw [empty] at there
  obtain ⟨value, found⟩ := Option.isSome_iff_exists.mp present
  rw [found] at there
  cases given : Value.entry? (.text "logging") entries with
  | none =>
    rw [given] at there
    cases there
  | some =>
    rw [given] at there
    cases there

/-- What a mapping makes of the defaults is loaded again from the document that is dumped of it, and makes the
same of the defaults then. -/
theorem exists_load_dump (laws : library.Laws dialect) {source : String}
    {entries : List (Scalar × Value)} (read : library.load source = .ok user)
    (mapping : library.contents user = .mapping entries)
    (tree : IsTree dialect.IsFaithfulName dialect.IsFaithfulLeaf 0 (.mapping entries))
    (merged : library.merge (library.create Settings.defaults) user = .ok settings)
    (dumped : library.dump (library.contents settings) = .ok text) :
    ∃ saved again, library.load text = .ok saved ∧
      library.merge (library.create Settings.defaults) saved = .ok again ∧
      (library.contents settings).IsSettled ∧ (library.contents again).IsSettled ∧
      Alike (library.contents again) (library.contents settings) := by
  have defaultsTree := laws.keptTree laws.isTree_defaults isProper_defaults
  have userTree := laws.keptTree tree
    (mapping ▸ laws.load_proper _ _ read (mapping ▸ isSettled_of_faithful tree))
  have created : library.contents (library.create Settings.defaults) = Settings.defaults :=
    laws.contents_create _ (isSettled defaultsTree)
  have merges {config : Config} (configTree : IsTree dialect.KeepsName dialect.Keeps 0
      (library.contents config)) : ∃ merged,
      library.merge (library.create Settings.defaults) config = .ok merged ∧
        library.contents merged = Settings.defaults.overlaid (library.contents config) := by
    obtain ⟨merged, ran, laid⟩ := laws.merge (library.create Settings.defaults) config
      (by rw [created]; exact isSettled defaultsTree) (isSettled configTree)
    exact ⟨merged, ran, created ▸ laid⟩
  obtain ⟨settings', ran, laid⟩ := merges (mapping ▸ userTree)
  obtain rfl := Except.ok.inj (ran.symm.trans merged)
  rw [mapping] at laid
  obtain ⟨settingsTree, deep⟩ := Value.isTree_overlaid defaultsTree userTree
  obtain ⟨sections, same, present⟩ := exists_sections tree.named
  rw [laid, same] at dumped
  rw [same] at settingsTree deep
  have depth : Settings.defaults.depth = 2 := by decide
  rw [depth, ← mapping] at deep
  obtain ⟨saved, loaded, savedTree, alike⟩ := laws.load_dump _ _ _ _ read deep settingsTree present dumped
  obtain ⟨again, ran', laid'⟩ := merges savedTree
  refine ⟨saved, again, loaded, ran', ?_⟩
  rw [laid, laid']
  rw [← same] at alike settingsTree
  exact ⟨isSettled settingsTree, isSettled (Value.isTree_overlaid defaultsTree savedTree).1,
    Value.alike_overlaid_again defaultsTree userTree savedTree alike⟩

end Laws

end SettingsLibrary

end UnitLift
