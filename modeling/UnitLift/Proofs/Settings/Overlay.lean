import UnitLift.Proofs.SettingsLibrary
import UnitLift.Settings.Overlay

namespace UnitLift.Settings

open Value (IsTree)

variable {known entries : List (Scalar × Value)} {old value : Value} {key : Nat → String → Prop}
  {leaf : Nat → Scalar → Prop} {level : Nat}

theorem hasReferences_of_isGiven {text : String} (given : (Scalar.text text).IsGiven) :
    Template.hasReferences text = false := by
  have plain := given.2
  unfold Template.hasReferences
  generalize text.toList = characters at plain
  rw [List.contains_eq_mem, decide_eq_false_iff_not]
  fun_induction Template.symbols characters with
  | case1 rest => exact absurd ⟨[], rest, rfl⟩ plain
  | case2 c rest _ ih =>
    rw [List.mem_cons, not_or]
    exact ⟨nofun, ih fun inside => plain (inside.trans (List.suffix_cons c rest).isInfix)⟩
  | case3 => simp

private theorem overlayScalar_eq (old : Value) {scalar : Scalar} (given : scalar.IsGiven) :
    overlayScalar old scalar = .ok (.scalar scalar) := by
  unfold overlayScalar
  split
  · exact absurd rfl given.1
  · rw [hasReferences_of_isGiven given]
    rfl
  · rfl

private theorem mem_put {key : Scalar} {entry : Scalar × Value}
    (member : entry ∈ Value.put key value known) : entry = (key, value) ∨ entry ∈ known := by
  unfold Value.put Value.replace at member
  split at member
  · rcases List.mem_append.mp member with old | new
    · exact .inr old
    · exact .inl (List.mem_singleton.mp new)
  · obtain ⟨before, there, rfl⟩ := List.mem_map.mp member
    split
    · exact .inl rfl
    · exact .inr there

/-- Entries are laid over others if each of their values is. -/
private theorem overlayEntries_eq (trees : ∀ entry ∈ entries, IsTree key leaf level entry.2)
    (each : ∀ entry ∈ entries, ∀ old, IsTree key leaf level old →
      overlay old entry.2 = .ok (old.overlaid entry.2))
    (knownTrees : ∀ entry ∈ known, IsTree key leaf level entry.2) :
    overlayEntries known entries = .ok (Value.overlaidEntries known entries) := by
  induction entries generalizing known with
  | nil => rfl
  | cons entry rest ih =>
    obtain ⟨name, value⟩ := entry
    obtain ⟨tree, trees⟩ := List.forall_mem_cons.mp trees
    obtain ⟨laid, each⟩ := List.forall_mem_cons.mp each
    have next {value : Value} (tree : IsTree key leaf level value) :
        ∀ entry ∈ Value.put name value known, IsTree key leaf level entry.2 := by
      intro entry member
      rcases mem_put member with rfl | there
      · exact tree
      · exact knownTrees entry there
    rw [overlayEntries, Value.overlaidEntries]
    cases found : Value.entry? name known with
    | none =>
      have added := next tree
      rw [Value.put, found] at added
      simp only [Value.put, found]
      exact ih trees each added
    | some old =>
      obtain ⟨name, there⟩ := Value.exists_mem_of_entry? found
      have oldTree := knownTrees _ there
      have replaced := next (Value.isTree_overlaid oldTree tree).1
      rw [Value.put, found] at replaced
      simp only [Value.put, found, laid _ oldTree, bind, Except.bind]
      exact ih trees each replaced

theorem overlay_eq_overlaid (given : ∀ level scalar, leaf level scalar → scalar.IsGiven)
    (oldTree : IsTree key leaf level old) (tree : IsTree key leaf level value) :
    overlay old value = .ok (old.overlaid value) := by
  induction tree generalizing old with
  | scalar fits =>
    rw [overlay, Value.overlaid]
    · exact overlayScalar_eq old (given _ _ fits)
    · intro entries same
      cases same
  | @mapping level entries named keys values ih =>
    cases oldTree with
    | scalar => simp [overlay, Value.overlaid]
    | @mapping _ known knownNamed knownKeys knownValues =>
      have laid := overlayEntries_eq values (fun entry member old tree => ih entry member tree) knownValues
      simp only [overlay, Value.overlaid, laid]
      rfl

end UnitLift.Settings
