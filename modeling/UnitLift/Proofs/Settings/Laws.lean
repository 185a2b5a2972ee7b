import UnitLift.Proofs.Settings.Contents
import UnitLift.Proofs.Settings.Document
import UnitLift.Proofs.Settings.Lookup

namespace UnitLift.Settings

open Value (IsTree Alike)

/-- How keys and documents are understood by the library of plain values. -/
def dialect : Dialect where
  names := namesOfKey
  isPlain text := Yaml.isPlain (.text text)
  isLoose text := Yaml.ScalarKind.looseFloatPattern.accepts text.toList
  spell? scalar :=
    if Yaml.canWriteScalar scalar then some ⟨Yaml.scalarText scalar, !Yaml.isPlain scalar⟩ else none
  read? spelling :=
    (Yaml.scalarOfTag (Yaml.scalarTag none (!spelling.quoted) spelling.text) spelling.text).toOption
  carries level text := Yaml.Fits (2 * level) (.text text)
  carriesName level name := Yaml.Fits (2 * level) (.text name) ∧ Yaml.IsFound (.text name)

instance (level : Nat) (name : String) : Decidable (dialect.IsFaithfulName level name) :=
  inferInstanceAs (Decidable ((Yaml.Fits _ _ ∧ Yaml.IsFound _) ∧ (_ → _)))

instance (level : Nat) (text : String) : Decidable (dialect.IsFaithfulLeaf level (.text text)) :=
  inferInstanceAs (Decidable (Yaml.Fits _ _ ∧ (_ → _) ∧ Scalar.IsGiven (.text text)))

/-! ## Scalars -/

private theorem read?_eq_some_iff (scalar : Scalar) :
    dialect.read? ⟨Yaml.scalarText scalar, !Yaml.isPlain scalar⟩ = some scalar ↔ Yaml.IsClear scalar := by
  unfold Yaml.IsClear Yaml.scalarNode
  simp only [dialect, Bool.not_not]
  cases Yaml.scalarOfTag (Yaml.scalarTag none (Yaml.isPlain scalar) (Yaml.scalarText scalar))
    (Yaml.scalarText scalar) with
  | error => simp [Except.toOption]
  | ok => simp [Except.toOption]

private theorem rereads_iff (scalar : Scalar) :
    dialect.Rereads scalar ↔ (Yaml.canWriteScalar scalar = true → Yaml.IsClear scalar) := by
  have reads := read?_eq_some_iff scalar
  unfold Dialect.Rereads
  rw [← reads]
  cases can : Yaml.canWriteScalar scalar with
  | false => simp [dialect, can]
  | true =>
    have spelled : dialect.spell? scalar = some ⟨Yaml.scalarText scalar, !Yaml.isPlain scalar⟩ := by
      simp [dialect, can]
    simp [spelled]

private theorem rereads (scalar : Scalar) (proper : scalar.IsProper) (other : ∀ text, scalar ≠ .text text) :
    dialect.Rereads scalar := by
  rw [rereads_iff]
  intro can
  cases scalar with
  | null => exact (Yaml.isKept_null 0).clear
  | bool value => exact (Yaml.isKept_bool 0 value).clear
  | int number =>
    rw [Yaml.canWriteScalar, decide_eq_true_eq] at can
    exact (Yaml.isKept_int 0 can).clear
  | real value => exact (Yaml.isKept_real 0 proper).clear
  | text text => exact absurd rfl (other text)

/-- A leaf that is kept and can be written fits where it is written. -/
private theorem isKept_of_keeps {level : Nat} {scalar : Scalar} (kept : dialect.Keeps level scalar)
    (can : Yaml.canWriteScalar scalar = true) : Yaml.IsKept (2 * level) scalar := by
  refine ⟨?_, (rereads_iff scalar).mp kept.reread can⟩
  cases scalar with
  | null => exact (Yaml.isKept_null _).fits
  | bool value => exact (Yaml.isKept_bool _ value).fits
  | int number =>
    rw [Yaml.canWriteScalar, decide_eq_true_eq] at can
    exact (Yaml.isKept_int _ can).fits
  | real value => exact (Yaml.isKept_real _ kept.proper).fits
  | text text => exact kept.carried text rfl

private theorem isKept_of_keepsName {level : Nat} {name : String} (kept : dialect.KeepsName level name) :
    IsKeptName level name :=
  ⟨⟨kept.1.1, (rereads_iff _).mp kept.2 rfl⟩, kept.1.2⟩

/-! ## Names -/

/-- A name is written in one line, with at most two characters for each if none needs an escape. -/
private theorem length_fold_le (encode : Char → List Char) (short : ∀ c, (encode c).length ≤ 2)
    (inRun : Bool) (column : Nat) (name : List Char) :
    (Yaml.LineBreaking.fold ⟨false, 0⟩ encode inRun column name).length ≤ 2 * name.length := by
  fun_induction Yaml.LineBreaking.fold ⟨false, 0⟩ encode inRun column name with
  | case1 => simp
  | case2 inRun column rest first last ih =>
    have started : first.length ≤ 1 := by
      cases inRun <;> simp [first]
    have ended : last.length = 0 := by
      simp [last, Yaml.LineBreaking.spaces]
    dsimp only at ih ⊢
    simp only [List.length_append, List.length_cons, ended]
    omega
  | case3 inRun column a b rest noFeed column' breaks => simp at breaks
  | case4 inRun column a b rest =>
    have first := short a
    simp only [List.length_append, List.length_cons] at *
    omega
  | case5 inRun column a rest =>
    have first := short a
    simp only [List.length_append, List.length_cons] at *
    omega

/-- With escapes there are at most ten characters for each. -/
private theorem length_escaped_le (first afterEscape : Bool) (column : Nat) (name : List Char) :
    (Yaml.LineBreaking.escaped ⟨false, 0⟩ first afterEscape column name).length ≤ 10 * name.length := by
  fun_induction Yaml.LineBreaking.escaped ⟨false, 0⟩ first afterEscape column name with
  | case1 => simp
  | case2 first afterEscape column c rest mayBreak escape escapes column' breaks => simp [mayBreak] at breaks
  | case3 first afterEscape column c rest mayBreak escape escapes =>
    have short := Yaml.QuotedText.length_escape_le escapes
    simp only [List.length_append, List.length_cons] at *
    omega
  | case4 first afterEscape column c rest mayBreak plain breaks => simp [mayBreak] at breaks
  | case5 =>
    simp only [List.length_cons] at *
    omega

private theorem isFound_of_short {name : String} (short : name.length ≤ 100) : Yaml.IsFound (.text name) := by
  intro _
  have short : name.toList.length ≤ 100 := short
  have same : Yaml.scalarText (.text name) = name := rfl
  simp only [Yaml.writtenScalar, same]
  generalize (Yaml.ScalarKind.written name.toList == Yaml.kindOfScalar (.text name)) = readsBack
  cases Yaml.TextStyle.of readsBack true name.toList with
  | plain =>
    have length := length_fold_le (fun c => [c]) (by simp) false 0 name.toList
    simp only [Yaml.LineBreaking.write, Bool.not_true]
    omega
  | single =>
    have quoted (c : Char) : (if c == Text.singleQuote then [c, c] else [c]).length ≤ 2 := by
      split
      · exact Nat.le_refl _
      · exact Nat.le_succ _
    have length := length_fold_le _ quoted false (0 + 1) name.toList
    simp only [Yaml.LineBreaking.write, Bool.not_true, List.length_cons, List.length_append, List.length_nil]
    omega
  | double =>
    have length := length_escaped_le true false (0 + 1) name.toList
    simp only [Yaml.LineBreaking.write, Bool.not_true, List.length_cons, List.length_append, List.length_nil]
    omega

/-! ## Documents -/

variable {entries : List (Scalar × Value)}

private theorem canWrite_of_mem (can : Yaml.canWriteEntries entries = true) :
    ∀ entry ∈ entries, Yaml.canWrite entry.2 = true := by
  induction entries with
  | nil => simp
  | cons entry rest ih =>
    rw [Yaml.canWriteEntries, Bool.and_eq_true, Bool.and_eq_true] at can
    exact List.forall_mem_cons.mpr ⟨can.1.2, ih can.2⟩

/-- What is kept is read as it was written, if it can be written at all. -/
private theorem keptTree {level : Nat} {value : Value}
    (tree : IsTree dialect.KeepsName dialect.Keeps level value) (can : Yaml.canWrite value = true) :
    IsTree IsKeptName IsKeptLeaf level value := by
  induction tree with
  | scalar kept => exact .scalar ⟨isKept_of_keeps kept can, kept.given⟩
  | mapping named keys _ ih =>
    exact .mapping named (fun name value member => isKept_of_keepsName (keys name value member))
      fun entry member => ih entry member (canWrite_of_mem can entry member)

private theorem exists_load_document {earlier : String} {known : Value} {text : String}
    (loaded : load earlier = .ok known) (depth : (Value.mapping entries).depth ≤ max 2 known.depth)
    (tree : IsTree dialect.KeepsName dialect.Keeps 0 (.mapping entries)) (present : entries ≠ [])
    (dumped : document (.mapping entries) = .ok text) :
    ∃ again, load text = .ok again ∧ IsTree dialect.KeepsName dialect.Keeps 0 again ∧
      Alike again (.mapping entries) := by
  obtain ⟨can, rfl⟩ : Yaml.canWrite (.mapping entries) = true ∧ text = Yaml.writeDocument entries := by
    rw [document] at dumped
    split at dumped
    · rename_i can
      exact ⟨can, (Except.ok.inj dumped).symm⟩
    · cases dumped
  have kept := keptTree tree can
  have fits : mappingSize * (Value.mapping entries).depth ≤ room := by
    have room := depth_le_of_sectionsIn loaded
    simp only [mappingSize, Settings.room] at room ⊢
    omega
  refine ⟨_, ?_, Yaml.tree_inOrder tree, Yaml.alike_inOrder tree⟩
  rw [load, withLineFeeds_writeDocument kept, String.ofList_toList]
  exact sectionsIn_writeDocument kept present fits

theorem laws : library.Laws dialect where
  contents_create _ _ := rfl
  merge old new oldTree tree :=
    ⟨_, overlay_eq_overlaid (fun _ _ given => given) oldTree tree, rfl⟩
  part _ names tree := part_eq (fun _ _ given => given) tree names
  select _ key tree := selected_eq (fun _ _ given => given) tree key
  spell_text _ := rfl
  read_quoted _ := rfl
  read_plain text plain firm := by
    have kind := Yaml.read_of_isPlain plain firm
    simp only [dialect, Yaml.scalarTag, Bool.not_false, if_true, kind]
    rfl
  rereads := rereads
  loose_start text loose := by
    obtain ⟨c, rest, same, other⟩ := Yaml.ScalarKind.begins_looseFloatPattern _ loose
    rw [startsLikeNumber, same]
    exact other
  carries_line _ _ inLine near := ⟨inLine, .inl near⟩
  carries_name _ _ inLine near short := ⟨⟨inLine, .inl near⟩, isFound_of_short short⟩
  load_proper _ _ loaded tree :=
    (properTree_of_sectionsIn tree loaded).mono (fun _ _ _ => trivial) fun _ _ fits => fits.2
  load_dump _ _ _ _ loaded depth tree present dumped := exists_load_document loaded depth tree present dumped

end UnitLift.Settings
