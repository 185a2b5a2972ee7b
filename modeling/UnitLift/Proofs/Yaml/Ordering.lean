import UnitLift.Proofs.Data.Tree
import UnitLift.Proofs.Yaml.Making

namespace UnitLift.Yaml

open Value (AreNamed IsTree Alike)

/-! ## Sorting -/

variable {entries : List (Scalar × Value)}

theorem all_isText (named : AreNamed entries) : entries.all (isText ·.1) = true := by
  rw [List.all_eq_true]
  intro entry member
  obtain ⟨name, same⟩ := named.names entry member
  rw [same]
  rfl

theorem sortEntries_perm {α : Type} {entries : List (Scalar × α)}
    (texts : entries.all (isText ·.1) = true) : (sortEntries entries).Perm entries := by
  rw [sortEntries_of_texts texts]
  exact List.mergeSort_perm entries _

theorem all_isText_sortEntries {α : Type} {entries : List (Scalar × α)}
    (texts : entries.all (isText ·.1) = true) : (sortEntries entries).all (isText ·.1) = true := by
  have perm := sortEntries_perm texts
  rw [List.all_eq_true] at texts ⊢
  exact fun entry member => texts entry (perm.mem_iff.mp member)

private theorem exists_map_text {α : Type} {entries : List (Scalar × α)}
    (texts : entries.all (isText ·.1) = true) :
    ∃ named : List (String × α), entries = named.map fun entry => (.text entry.1, entry.2) := by
  induction entries with
  | nil => exact ⟨[], rfl⟩
  | cons entry rest ih =>
    obtain ⟨key, value⟩ := entry
    rw [List.all_cons, Bool.and_eq_true] at texts
    obtain ⟨named, rfl⟩ := ih texts.2
    cases key with
    | text name => exact ⟨(name, value) :: named, rfl⟩
    | _ => cases texts.1

/-- Sorted entries stay as they are when they are sorted again. -/
theorem sortEntries_sortEntries {α : Type} {entries : List (Scalar × α)}
    (texts : entries.all (isText ·.1) = true) : sortEntries (sortEntries entries) = sortEntries entries := by
  rw [sortEntries_of_texts (all_isText_sortEntries texts)]
  refine List.mergeSort_of_pairwise ?_
  rw [sortEntries_of_texts texts]
  obtain ⟨named, rfl⟩ := exists_map_text texts
  let before (a b : String × α) : Bool := decide (a.1 ≤ b.1)
  have sorted : (named.mergeSort before).map (fun entry => (Scalar.text entry.1, entry.2)) =
      (named.map fun entry => (Scalar.text entry.1, entry.2)).mergeSort
        fun a b => !comesBefore b.1 a.1 := by
    refine List.map_mergeSort fun a _ b _ => ?_
    simp only [before, comesBefore, ← decide_not]
    exact decide_eq_decide.mpr String.not_lt.symm
  rw [← sorted, List.pairwise_map]
  refine (List.pairwise_mergeSort ?_ ?_ named).imp fun {a b} ordered => ?_
  · intro a b c first second
    simp only [before, decide_eq_true_eq] at first second ⊢
    exact String.le_trans first second
  · intro a b
    simp only [before, Bool.or_eq_true, decide_eq_true_eq]
    exact String.le_total a.1 b.1
  · have later : ¬b.1 < a.1 := String.not_lt.mpr (of_decide_eq_true ordered)
    simp only [comesBefore, decide_eq_false later, Bool.not_false]

/-! ## Values -/

mutual

/-- A value with the entries of all its mappings in the order in which they are written. -/
def inOrder : Value → Value
  | .mapping entries => .mapping (sortEntries (inOrderEntries entries))
  | other => other

def inOrderEntries : List (Scalar × Value) → List (Scalar × Value)
  | [] => []
  | (key, value) :: rest => (key, inOrder value) :: inOrderEntries rest

end

theorem inOrderEntries_eq (entries : List (Scalar × Value)) :
    inOrderEntries entries = entries.map fun entry => (entry.1, inOrder entry.2) := by
  induction entries with
  | nil => rfl
  | cons entry rest ih => rw [inOrderEntries, ih]; rfl

variable {key : Nat → String → Prop} {leaf : Nat → Scalar → Prop} {level : Nat} {value : Value}

private theorem sortEntries_inOrderEntries (named : AreNamed entries) :
    sortEntries (inOrderEntries entries) =
      (sortEntries entries).map fun entry => (entry.1, inOrder entry.2) := by
  rw [inOrderEntries_eq, sortEntries_map (all_isText named)]

private theorem joinEntries_inOrder (named : AreNamed entries) (first : List Char) (indent : Nat)
    (each : ∀ entry ∈ entries, entryText indent (entry.1, inOrder entry.2) = entryText indent entry) :
    joinEntries first indent (writeEntries indent (sortEntries (inOrderEntries entries))) =
      joinEntries first indent (writeEntries indent entries) := by
  have texts := all_isText named
  have texts' := all_isText_sortEntries texts
  have same : (sortEntries entries).map (fun entry => entryText indent (entry.1, inOrder entry.2)) =
      (sortEntries entries).map (entryText indent) :=
    List.map_congr_left fun entry member => each entry ((sortEntries_perm texts).mem_iff.mp member)
  have changed : ((sortEntries entries).map fun entry => (entry.1, inOrder entry.2)).all (isText ·.1) =
      true := by
    rw [List.all_map]
    exact texts'
  unfold joinEntries
  rw [sortEntries_inOrderEntries named, writeEntries_eq, writeEntries_eq, sortEntries_map changed,
    sortEntries_map texts', sortEntries_sortEntries texts, sortEntries_map texts]
  simp only [List.map_map]
  exact congrArg (first ++ List.intercalate (newLine indent) ·) same

theorem writeValue_inOrder (tree : IsTree key leaf level value) (lead : Lead) (indent column : Nat) :
    writeValue lead indent column (inOrder value) = writeValue lead indent column value := by
  induction tree generalizing lead indent column with
  | scalar => rfl
  | @mapping level entries named keys values ih =>
    have empty : (sortEntries (inOrderEntries entries)).isEmpty = entries.isEmpty := by
      rw [sortEntries_inOrderEntries named, List.isEmpty_map]
      exact (sortEntries_perm (all_isText named)).isEmpty_eq
    rw [inOrder, writeValue, writeValue, empty]
    split
    · rfl
    · refine joinEntries_inOrder named _ _ fun entry member => ?_
      simp only [entryText]
      rw [ih entry member]

theorem writeDocument_inOrder (tree : IsTree key leaf level (.mapping entries)) :
    writeDocument (sortEntries (inOrderEntries entries)) = writeDocument entries := by
  cases tree with
  | mapping named keys values =>
    have joined := joinEntries_inOrder named [] 0 fun entry member => by
      simp only [entryText]
      rw [writeValue_inOrder (values entry member)]
    rw [writeDocument, joined]
    rfl

/-- The entries of a mapping that is in order are those of the mapping, each of them in order. -/
private theorem mem_inOrder (named : AreNamed entries) {entry : Scalar × Value} :
    entry ∈ sortEntries (inOrderEntries entries) ↔
      ∃ given ∈ entries, (given.1, inOrder given.2) = entry := by
  rw [sortEntries_inOrderEntries named, List.mem_map]
  simp only [(sortEntries_perm (all_isText named)).mem_iff]

private theorem named_inOrder (named : AreNamed entries) :
    AreNamed (sortEntries (inOrderEntries entries)) := by
  constructor
  · rw [sortEntries_inOrderEntries named, List.map_map]
    exact (((sortEntries_perm (all_isText named)).map _).nodup_iff).mpr named.distinct
  · intro entry member
    obtain ⟨given, there, rfl⟩ := (mem_inOrder named).mp member
    exact named.names given there

theorem sortEntries_inOrderEntries_ne_nil (named : AreNamed entries) (present : entries ≠ []) :
    sortEntries (inOrderEntries entries) ≠ [] := by
  rw [sortEntries_inOrderEntries named, ne_eq, List.map_eq_nil_iff]
  exact fun empty => present ((empty ▸ sortEntries_perm (all_isText named)).nil_eq.symm)

theorem tree_inOrder (tree : IsTree key leaf level value) : IsTree key leaf level (inOrder value) := by
  induction tree with
  | scalar fits => exact .scalar fits
  | mapping named keys values ih =>
    rw [inOrder]
    refine .mapping (named_inOrder named) (fun name value member => ?_) fun entry member => ?_
    · obtain ⟨⟨other, given⟩, there, same⟩ := (mem_inOrder named).mp member
      obtain rfl : other = .text name := congrArg Prod.fst same
      exact keys name given there
    · obtain ⟨given, there, rfl⟩ := (mem_inOrder named).mp member
      exact ih given there

theorem alike_inOrder (tree : IsTree key leaf level value) : Alike (inOrder value) value := by
  induction tree with
  | scalar => exact .same _
  | @mapping level entries named keys values ih =>
    have found (name : String) : Value.entry? (.text name) (sortEntries (inOrderEntries entries)) =
        (Value.entry? (.text name) entries).map inOrder := by
      rw [sortEntries_inOrderEntries named, Value.entry?_map,
        named.entry?_perm (sortEntries_perm (all_isText named))]
    rw [inOrder]
    refine .mapping (fun name => ?_) fun name value other here there => ?_
    · rw [found, Option.isSome_map]
    · rw [found, there] at here
      obtain rfl := Option.some.inj here
      exact ih _ (named.entry?_eq_some_iff.mp there)

theorem depth_inOrder_le (tree : IsTree key leaf level value) : (inOrder value).depth ≤ value.depth := by
  induction tree with
  | scalar => exact Nat.le_refl _
  | @mapping level entries named keys values ih =>
    rw [inOrder, Value.depth, Value.depth]
    refine Nat.add_le_add_left (Value.depthOfEntries_le fun entry member => ?_) 1
    obtain ⟨given, there, rfl⟩ := (mem_inOrder named).mp member
    exact Nat.le_trans (ih given there) (Value.depth_le_depthOfEntries given there)

/-- A tree in order can be written so that its tokens are found. -/
theorem writable_inOrder (keys : ∀ level name, key level name →
      Fits (2 * level) (.text name) ∧ IsFound (.text name))
    (leaves : ∀ level scalar, leaf level scalar → Fits (2 * level) scalar)
    (tree : IsTree key leaf level value) : Writable (2 * level) (inOrder value) := by
  induction tree with
  | scalar fits => exact .scalar (leaves _ _ fits)
  | @mapping level entries named keys' values ih =>
    have named' := named_inOrder named
    rw [inOrder]
    refine .mapping ?_ (all_isText named') (fun entry member => ?_) fun entry member => ?_
    · have texts := all_isText named
      rw [sortEntries_inOrderEntries named, sortEntries_map (all_isText_sortEntries texts),
        sortEntries_sortEntries texts]
    · obtain ⟨⟨other, given⟩, there, rfl⟩ := (mem_inOrder named).mp member
      obtain ⟨name, same⟩ := named.names _ there
      obtain rfl : other = .text name := same
      exact keys (level + 1) name (keys' name given there)
    · obtain ⟨given, there, rfl⟩ := (mem_inOrder named).mp member
      exact ih given there

theorem isLegible_of_tree (keys : ∀ level name, key level name → IsClear (.text name))
    (leaves : ∀ level scalar, leaf level scalar → IsClear scalar)
    (tree : IsTree key leaf level value) : IsLegible value := by
  induction tree with
  | scalar fits => exact .scalar (leaves _ _ fits)
  | @mapping level entries named keys' values ih =>
    refine .mapping (all_isText named) named.distinct (fun entry member => ?_) ih
    obtain ⟨name, same⟩ := named.names entry member
    have given' : (Scalar.text name, entry.2) ∈ entries := same ▸ member
    rw [same]
    exact keys (level + 1) name (keys' name _ given')

end UnitLift.Yaml
