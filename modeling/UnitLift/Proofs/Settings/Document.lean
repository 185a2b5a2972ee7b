import UnitLift.Proofs.Settings.Overlay
import UnitLift.Proofs.Text.Lines
import UnitLift.Proofs.Yaml.Ordering
import UnitLift.Proofs.Yaml.ScalarReading
import UnitLift.Settings

namespace UnitLift.Settings

open Value (IsTree Alike)
open Yaml (NodeId Datum Parts Known datumOf entryDataOf inOrder)

/-! ## Values of data -/

private theorem mapM_zipWith {α β γ : Type} {ids : List α} {values : List β}
    (length : ids.length = values.length) {pack : α → β → γ} {read : γ → Except Fault β}
    (each : ∀ pair ∈ ids.zip values, read (pack pair.1 pair.2) = .ok pair.2) :
    (ids.zipWith pack values).mapM read = .ok values := by
  induction ids generalizing values with
  | nil =>
    obtain rfl := List.length_eq_zero_iff.mp length.symm
    rfl
  | cons id ids ih =>
    cases values with
    | nil => cases length
    | cons value values =>
      obtain ⟨here, after⟩ := List.forall_mem_cons.mp each
      have rest := ih (Nat.succ.inj length) after
      simp [here, rest, bind, Except.bind, pure, Except.pure]

variable {key : Nat → String → Prop} {leaf : Nat → Scalar → Prop} {level : Nat} {value : Value}
  {parts : Array Parts} {id : NodeId} {room : Nat}

/-- The value of the data of a tree is the tree, if there is room for it. -/
theorem valueOf_datumOf (plain : ∀ level scalar, leaf level scalar → scalar.IsGiven)
    (tree : IsTree key leaf level value) (known : Known parts id value)
    (fits : mappingSize * value.depth ≤ room) : valueOf parts room (datumOf id value) = .ok value := by
  induction known generalizing level room with
  | scalar scalar =>
    cases tree with
    | scalar given =>
      have given := plain _ _ given
      rw [datumOf, valueOf]
      cases scalar with
      | text text =>
        have free := hasReferences_of_isGiven given
        rw [Template.hasReferences] at free
        have clear : Template.isWellFormed text = true := by
          simp only [Template.isWellFormed, free, Bool.not_false, Bool.true_or]
        exact if_pos clear
      | _ => rfl
  | @mapping id ids entries found length values ih =>
    have named := tree.named
    rw [Value.depth] at fits
    have inside : mappingSize ≤ room := by
      simp only [mappingSize] at fits ⊢
      omega
    let pack (id : NodeId × NodeId) (entry : Scalar × Value) : Datum × Datum :=
      (.scalar entry.1, datumOf id.2 entry.2)
    let unpack (entry : Datum × Datum) : Except Fault (Scalar × Value) := do
      let key ← keyValue entry.1
      return (key, ← valueOf parts (room - mappingSize) entry.2)
    have read : (ids.zipWith pack entries).mapM unpack = .ok entries := mapM_zipWith length (by
      rintro ⟨id, key, value⟩ member
      have member' := (List.of_mem_zip member).2
      obtain ⟨name, same⟩ := named.names _ member'
      obtain rfl : key = .text name := same
      have depth : value.depth ≤ _ := Value.depth_le_depthOfEntries _ member'
      have less : mappingSize * value.depth ≤ room - mappingSize := by
        simp only [mappingSize] at fits ⊢
        omega
      have inner := ih _ member (tree.of_entry? (named.entry?_eq_some_iff.mpr member')) less
      simp [pack, unpack, keyValue, inner, bind, Except.bind, pure, Except.pure])
    have data : datumOf id (.mapping entries) = .mapping id := rfl
    simp only [data, valueOf, found, Option.getD_some, inside, ↓reduceDIte, entryDataOf]
    change ((ids.zipWith pack entries).mapM unpack >>= fun found => .ok (Value.mapping found)) = _
    rw [read]
    rfl

/-! ## Documents -/

/-- A name that is read as it was written inside of so many mappings. -/
def IsKeptName (level : Nat) (name : String) : Prop :=
  Yaml.IsKept (2 * level) (.text name) ∧ Yaml.IsFound (.text name)

/-- A leaf that is read as it was written, and stands for itself. -/
def IsKeptLeaf (level : Nat) (scalar : Scalar) : Prop := Yaml.IsKept (2 * level) scalar ∧ scalar.IsGiven

variable {entries : List (Scalar × Value)}

private theorem writable_of_tree (tree : IsTree IsKeptName IsKeptLeaf 0 (.mapping entries)) :
    Yaml.Writable 0 (inOrder (.mapping entries)) :=
  Yaml.writable_inOrder (fun _ _ kept => ⟨kept.1.fits, kept.2⟩) (fun _ _ kept => kept.1.fits) tree

/-- A document is read as it was written, with no line ends but line feeds. -/
theorem withLineFeeds_writeDocument (tree : IsTree IsKeptName IsKeptLeaf 0 (.mapping entries)) :
    Text.withLineFeeds (Yaml.writeDocument entries).toList = (Yaml.writeDocument entries).toList := by
  have writable := writable_of_tree tree
  rw [inOrder] at writable
  refine Text.withLineFeeds_eq_self fun member => ?_
  rw [← Yaml.writeDocument_inOrder tree] at member
  rcases Yaml.Scan.isWritten_writeDocument writable _ member with ordinary | feed
  · exact absurd ordinary (by decide)
  · exact absurd feed (by decide)

/-- A value that can be saved is in the document that is written of it, but for the order of entries. -/
theorem sectionsIn_writeDocument (tree : IsTree IsKeptName IsKeptLeaf 0 (.mapping entries))
    (present : entries ≠ []) (fits : mappingSize * (Value.mapping entries).depth ≤ Settings.room) :
    sectionsIn (Yaml.writeDocument entries) = .ok (inOrder (.mapping entries)) := by
  have depth := Yaml.depth_inOrder_le tree
  have ordered := Yaml.tree_inOrder tree
  have writable := writable_of_tree tree
  have legible := Yaml.isLegible_of_tree (fun _ _ kept => kept.1.clear) (fun _ _ kept => kept.1.clear) ordered
  have written := Yaml.writeDocument_inOrder tree
  have present' := Yaml.sortEntries_inOrderEntries_ne_nil tree.named present
  rw [inOrder] at depth ordered writable legible ⊢
  generalize Yaml.sortEntries (Yaml.inOrderEntries entries) = sorted at *
  have nodes := Yaml.NodeGraph.ofText_writeDocument writable present' (by
    simp only [mappingSize, Settings.room, Yaml.Reader.deepest] at fits ⊢
    omega)
  have stands : Yaml.Stands (Yaml.nodesOf 0 (.mapping sorted)).toArray 0 (.mapping sorted) :=
    legible.stands fun i node found => by simpa using found
  obtain ⟨parts, data, known⟩ := Yaml.Data.ofNodes_eq stands
  have whole : Yaml.Data.ofText (Yaml.writeDocument entries) = .ok (some ⟨.mapping 0, parts⟩) := by
    rw [← written, Yaml.Data.ofText, nodes]
    exact congrArg (Except.map some) data
  have read : dataOf (Yaml.writeDocument entries) = .ok (some ⟨.mapping 0, parts⟩) := by
    rw [dataOf, whole]
  have values : valueOf parts Settings.room (.mapping 0) = .ok (.mapping sorted) :=
    valueOf_datumOf (fun _ _ kept => kept.2) ordered known
      (Nat.le_trans (Nat.mul_le_mul_left _ depth) fits)
  simp only [sectionsIn, read, values, bind, Except.bind]

end UnitLift.Settings
