import UnitLift.Data.Value

namespace UnitLift

theorem Scalar.isSameKey_of_ne {text : String} {key : Scalar} (unlike : key ≠ .text text) :
    (Scalar.text text).isSameKey key = false := by
  have apart : Scalar.text text ≠ key.keyForm := by
    cases key with
    | text other => exact fun same => unlike same.symm
    | real value =>
      intro same
      rw [Scalar.keyForm] at same
      cases whole : value.toInt? with
      | none => simp [whole] at same
      | some number => simp [whole] at same
    | _ => exact nofun
  rw [Scalar.isSameKey, show (Scalar.text text).keyForm = .text text from rfl]
  simp [apart]

@[simp] theorem Scalar.isSameKey_text {first second : String} :
    (Scalar.text first).isSameKey (.text second) = (first == second) := by
  by_cases same : first = second
  · subst same
    simp [Scalar.isSameKey, Scalar.keyForm]
  · rw [Scalar.isSameKey_of_ne fun equal => same (Scalar.text.inj equal).symm]
    simp [same]

namespace Value

variable {entries others : List (Scalar × Value)} {name : String} {value : Value}

theorem entry?_cons (first name : String) (known : Value) (rest : List (Scalar × Value)) :
    entry? (.text name) ((.text first, known) :: rest) =
      if first = name then some known else entry? (.text name) rest := by
  by_cases same : first = name
  · simp [Value.entry?, same]
  · simp [Value.entry?, same]

/-! ## Names -/

/-- The keys of entries are names, and none is there twice. -/
structure AreNamed (entries : List (Scalar × Value)) : Prop where
  distinct : (entries.map (·.1)).Nodup
  names : ∀ entry ∈ entries, ∃ name, entry.1 = .text name

namespace AreNamed

theorem of_cons {entry : Scalar × Value} (named : AreNamed (entry :: entries)) : AreNamed entries :=
  ⟨(List.nodup_cons.mp named.distinct).2, fun other member => named.names other (by simp [member])⟩

theorem entry?_eq_some_iff (named : AreNamed entries) :
    entry? (.text name) entries = some value ↔ (.text name, value) ∈ entries := by
  induction entries with
  | nil => simp [Value.entry?]
  | cons entry rest ih =>
    obtain ⟨key, known⟩ := entry
    obtain ⟨first, same⟩ := named.names (key, known) (by simp)
    obtain rfl : key = .text first := same
    have later := ih named.of_cons
    rw [Value.entry?_cons]
    by_cases same : first = name
    · subst same
      have absent (value : Value) : (Scalar.text first, value) ∉ rest := fun member =>
        (List.nodup_cons.mp named.distinct).1 (List.mem_map.mpr ⟨_, member, rfl⟩)
      simp [absent, eq_comm]
    · have apart : (Scalar.text name, value) ≠ (.text first, known) := fun equal =>
        same (Scalar.text.inj (congrArg Prod.fst equal)).symm
      simp [same, apart, later]

theorem exists_entry? (named : AreNamed entries) {entry : Scalar × Value} (member : entry ∈ entries) :
    ∃ name, entry? (.text name) entries = some entry.2 := by
  obtain ⟨name, same⟩ := named.names entry member
  exact ⟨name, named.entry?_eq_some_iff.mpr (same ▸ member)⟩

theorem perm (named : AreNamed entries) (same : others.Perm entries) : AreNamed others :=
  ⟨(same.map _).nodup_iff.mpr named.distinct, fun entry member => named.names entry (same.mem_iff.mp member)⟩

/-- The entries in another order have the same values under their names. -/
theorem entry?_perm (named : AreNamed entries) (same : others.Perm entries) (name : String) :
    entry? (.text name) others = entry? (.text name) entries := by
  refine Option.ext fun value => ?_
  rw [(named.perm same).entry?_eq_some_iff, named.entry?_eq_some_iff, same.mem_iff]

end AreNamed

theorem entry?_map (change : Value → Value) (entries : List (Scalar × Value)) (key : Scalar) :
    entry? key (entries.map fun entry => (entry.1, change entry.2)) = (Value.entry? key entries).map change := by
  induction entries with
  | nil => rfl
  | cons entry rest ih =>
    simp only [Value.entry?, List.map_cons, List.find?_cons] at ih ⊢
    split
    · rfl
    · exact ih

/-! ## Depth -/

mutual

/-- How deep a value is nested. -/
def depth : Value → Nat
  | .scalar _ => 0
  | .list _ => 0
  | .mapping entries => 1 + depthOfEntries entries

def depthOfEntries : List (Scalar × Value) → Nat
  | [] => 0
  | (_, value) :: rest => max (depth value) (depthOfEntries rest)

end

theorem depth_le_depthOfEntries :
    ∀ entry ∈ entries, depth entry.2 ≤ depthOfEntries entries := by
  induction entries with
  | nil => simp
  | cons entry rest ih =>
    refine List.forall_mem_cons.mpr ⟨Nat.le_max_left _ _, fun other member => ?_⟩
    exact Nat.le_trans (ih other member) (Nat.le_max_right _ _)

theorem depthOfEntries_le {most : Nat}
    (each : ∀ entry ∈ entries, depth entry.2 ≤ most) : depthOfEntries entries ≤ most := by
  induction entries with
  | nil => exact Nat.zero_le _
  | cons entry rest ih =>
    obtain ⟨here, after⟩ := List.forall_mem_cons.mp each
    exact Nat.max_le.mpr ⟨here, ih after⟩

/-! ## Trees -/

/-- Nested mappings with names as keys. `key` and `leaf` say which keys and leaves there may be inside of
so many mappings. -/
inductive IsTree (key : Nat → String → Prop) (leaf : Nat → Scalar → Prop) : Nat → Value → Prop
  | scalar {level : Nat} {scalar : Scalar} (fits : leaf level scalar) :
      IsTree key leaf level (.scalar scalar)
  | mapping {level : Nat} {entries : List (Scalar × Value)} (named : AreNamed entries)
      (keys : ∀ name value, (.text name, value) ∈ entries → key (level + 1) name)
      (values : ∀ entry ∈ entries, IsTree key leaf (level + 1) entry.2) :
      IsTree key leaf level (.mapping entries)

variable {key : Nat → String → Prop} {leaf : Nat → Scalar → Prop} {level : Nat}

theorem IsTree.of_entry? (tree : IsTree key leaf level (.mapping entries))
    (found : entry? (.text name) entries = some value) : IsTree key leaf (level + 1) value := by
  cases tree with
  | mapping named keys values => exact values _ (named.entry?_eq_some_iff.mp found)

theorem IsTree.key_of_entry? (tree : IsTree key leaf level (.mapping entries))
    (found : entry? (.text name) entries = some value) : key (level + 1) name := by
  cases tree with
  | mapping named keys values => exact keys name value (named.entry?_eq_some_iff.mp found)

theorem IsTree.named (tree : IsTree key leaf level (.mapping entries)) : AreNamed entries := by
  cases tree with
  | mapping named => exact named

/-- Values under distinct names are a tree if they are trees themselves. -/
theorem IsTree.record {fields : List (String × Value)} (distinct : (fields.map (·.1)).Nodup)
    (keys : ∀ field ∈ fields, key (level + 1) field.1)
    (values : ∀ field ∈ fields, IsTree key leaf (level + 1) field.2) :
    IsTree key leaf level (Value.record fields) := by
  refine .mapping ⟨?_, fun entry member => ?_⟩ (fun name value member => ?_) fun entry member => ?_
  · rw [List.map_map]
    have names : ((fields.map (·.1)).map Scalar.text).Nodup :=
      List.Pairwise.map Scalar.text (fun _ _ apart same => apart (Scalar.text.inj same)) distinct
    rwa [List.map_map] at names
  · obtain ⟨field, -, rfl⟩ := List.mem_map.mp member
    exact ⟨field.1, rfl⟩
  · obtain ⟨field, there, same⟩ := List.mem_map.mp member
    obtain rfl := Scalar.text.inj (congrArg Prod.fst same)
    exact keys field there
  · obtain ⟨field, there, rfl⟩ := List.mem_map.mp member
    exact values field there

/-- A tree remains one if less is asked of its keys and leaves. -/
theorem IsTree.mono {key' : Nat → String → Prop} {leaf' : Nat → Scalar → Prop}
    (keys : ∀ level name, key level name → key' level name)
    (leaves : ∀ level scalar, leaf level scalar → leaf' level scalar)
    (tree : IsTree key leaf level value) : IsTree key' leaf' level value := by
  induction tree with
  | scalar fits => exact .scalar (leaves _ _ fits)
  | mapping named keys' _ ih =>
    exact .mapping named (fun name value member => keys _ _ (keys' name value member)) ih

/-- A tree of which the leaves have two properties is one with both. -/
theorem IsTree.and {key' : Nat → String → Prop} {leaf' : Nat → Scalar → Prop}
    (tree : IsTree key leaf level value) (other : IsTree key' leaf' level value) :
    IsTree key (fun level scalar => leaf level scalar ∧ leaf' level scalar) level value := by
  induction tree with
  | scalar fits =>
    cases other with
    | scalar fits' => exact .scalar ⟨fits, fits'⟩
  | mapping named keys _ ih =>
    cases other with
    | mapping _ _ values => exact .mapping named keys fun entry member => ih entry member (values entry member)

/-- Two values are the same but for the order of entries. -/
inductive Alike : Value → Value → Prop
  | same (value : Value) : Alike value value
  | mapping {entries others : List (Scalar × Value)}
      (names : ∀ name, (Value.entry? (.text name) entries).isSome = (Value.entry? (.text name) others).isSome)
      (values : ∀ name value other, entry? (.text name) entries = some value →
        entry? (.text name) others = some other → Alike value other) :
      Alike (.mapping entries) (.mapping others)

namespace Alike

theorem entry? (alike : Alike (.mapping entries) (.mapping others)) (name : String) :
    Value.entry? (.text name) entries = none ∧ Value.entry? (.text name) others = none ∨
      ∃ value other, Value.entry? (.text name) entries = some value ∧
        Value.entry? (.text name) others = some other ∧ Alike value other := by
  have both (names : (Value.entry? (.text name) entries).isSome =
      (Value.entry? (.text name) others).isSome)
      (values : ∀ value other, Value.entry? (.text name) entries = some value →
        Value.entry? (.text name) others = some other → Alike value other) :
      Value.entry? (.text name) entries = none ∧ Value.entry? (.text name) others = none ∨
      ∃ value other, Value.entry? (.text name) entries = some value ∧
        Value.entry? (.text name) others = some other ∧ Alike value other := by
    cases here : Value.entry? (.text name) entries with
    | none => exact .inl ⟨rfl, by simpa [here] using names.symm⟩
    | some value =>
      obtain ⟨other, there⟩ := Option.isSome_iff_exists.mp (by rw [← names, here]; rfl :
        (Value.entry? (.text name) others).isSome = true)
      exact .inr ⟨value, other, rfl, there, values value other here there⟩
  cases alike with
  | same =>
    refine both rfl fun value other here there => ?_
    obtain rfl := Option.some.inj (here.symm.trans there)
    exact .same value
  | mapping names values => exact both (names name) (values name)

theorem scalar_right {scalar : Scalar} (alike : Alike value (.scalar scalar)) : value = .scalar scalar := by
  cases alike with
  | same => rfl

end Alike

end Value

end UnitLift
