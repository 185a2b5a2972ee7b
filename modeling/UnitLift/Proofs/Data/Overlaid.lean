import UnitLift.Proofs.Data.Tree

/-! Trees laid over trees: mappings entry by entry, anything else instead of what was there. What comes of
it stays the same when it is laid over the first tree once more, in whatever order its entries are. -/

namespace UnitLift.Value

variable {known entries others result : List (Scalar × Value)} {name : String}

/-- Entries with a value under a key: in its place if the key is there already, else at the end. -/
def put (key : Scalar) (value : Value) (known : List (Scalar × Value)) : List (Scalar × Value) :=
  if (Value.entry? key known).isNone then known ++ [(key, value)] else replace key value known

mutual

/-- A value with another one laid over it. -/
def overlaid (old : Value) : Value → Value
  | .mapping entries =>
    match old with
    | .mapping known => .mapping (overlaidEntries known entries)
    | _ => .mapping entries
  | value => value

/-- Entries with others laid over them. A new key comes last. -/
def overlaidEntries (known : List (Scalar × Value)) : List (Scalar × Value) → List (Scalar × Value)
  | [] => known
  | (key, value) :: rest =>
    overlaidEntries (put key ((Value.entry? key known).elim value (overlaid · value)) known) rest

end

/-! ## Names -/

private theorem keys_replace (named : AreNamed known) (name : String) (value : Value) :
    (replace (.text name) value known).map (·.1) = known.map (·.1) := by
  rw [replace, List.map_map]
  refine List.map_congr_left fun entry member => ?_
  obtain ⟨other, same⟩ := named.names entry member
  simp only [Function.comp_apply, same, Scalar.isSameKey_text]
  by_cases here : other = name
  · simp [here]
  · simp [here, same]

private theorem named_put (named : AreNamed known) (name : String) (value : Value) :
    AreNamed (put (.text name) value known) := by
  unfold put
  split
  · rename_i absent
    rw [Option.isNone_iff_eq_none] at absent
    constructor
    · rw [List.map_append, List.nodup_append]
      refine ⟨named.distinct, by simp, ?_⟩
      rintro key member _ (_ | ⟨_, ⟨⟩⟩) rfl
      obtain ⟨⟨key, old⟩, member, rfl⟩ := List.mem_map.mp member
      rw [named.entry?_eq_some_iff.mpr member] at absent
      cases absent
    · intro entry member
      rcases List.mem_append.mp member with old | new
      · exact named.names entry old
      · exact ⟨name, by rw [List.mem_singleton.mp new]⟩
  · have keys := keys_replace named name value
    refine ⟨keys ▸ named.distinct, fun entry member => ?_⟩
    have there : entry.1 ∈ known.map (·.1) := keys ▸ List.mem_map.mpr ⟨_, member, rfl⟩
    obtain ⟨other, member, same⟩ := List.mem_map.mp there
    exact same ▸ named.names other member

private theorem entry?_replace (named : AreNamed known) (name : String) (value : Value) (other : String) :
    entry? (.text other) (replace (.text name) value known) =
      if name = other then (Value.entry? (.text other) known).map fun _ => value
      else entry? (.text other) known := by
  induction known with
  | nil => simp [replace, entry?]
  | cons entry rest ih =>
    obtain ⟨key, old⟩ := entry
    obtain ⟨first, same⟩ := named.names (key, old) (by simp)
    obtain rfl : key = .text first := same
    have later := ih named.of_cons
    by_cases here : first = name
    · subst here
      have replaced : replace (.text first) value ((.text first, old) :: rest) =
          (.text first, value) :: replace (.text first) value rest := by simp [replace]
      rw [replaced, entry?_cons, entry?_cons, later]
      by_cases same : first = other
      · simp [same]
      · simp [same]
    · have replaced : replace (.text name) value ((.text first, old) :: rest) =
          (.text first, old) :: replace (.text name) value rest := by simp [replace, here]
      rw [replaced, entry?_cons, entry?_cons, later]
      by_cases same : first = other
      · subst same
        simp [Ne.symm here]
      · simp [same]

private theorem entry?_append (named : AreNamed known) (name : String) (value : Value) (other : String) :
    entry? (.text other) (known ++ [(.text name, value)]) =
      (Value.entry? (.text other) known).or (if name = other then some value else none) := by
  induction known with
  | nil => simp [Value.entry?]
  | cons entry rest ih =>
    obtain ⟨key, old⟩ := entry
    obtain ⟨first, same⟩ := named.names (key, old) (by simp)
    obtain rfl : key = .text first := same
    rw [List.cons_append, entry?_cons, entry?_cons, ih named.of_cons]
    by_cases same : first = other
    · simp [same]
    · simp [same]

private theorem entry?_put (named : AreNamed known) (name : String) (value : Value) (other : String) :
    entry? (.text other) (put (.text name) value known) =
      if name = other then some value else entry? (.text other) known := by
  unfold put
  split
  · rename_i absent
    rw [entry?_append named]
    by_cases same : name = other
    · subst same
      rw [Option.isNone_iff_eq_none.mp absent, if_pos rfl]
      rfl
    · simp [same]
  · rename_i present
    rw [entry?_replace named]
    by_cases same : name = other
    · subst same
      rw [Option.isNone_iff_eq_none] at present
      obtain ⟨old, found⟩ := Option.ne_none_iff_exists'.mp present
      rw [found]
      rfl
    · simp [same]

/-! ## Entries -/

/-- What is under a name after entries were laid over others. -/
def laid (old given : Option Value) : Option Value :=
  match given with
  | none => old
  | some value => some (old.elim value (overlaid · value))

private theorem absent_of_cons {value : Value} {rest : List (Scalar × Value)}
    (named : AreNamed ((.text name, value) :: rest)) : entry? (.text name) rest = none := by
  rw [Option.eq_none_iff_forall_ne_some]
  intro value found
  have member := named.of_cons.entry?_eq_some_iff.mp found
  exact (List.nodup_cons.mp named.distinct).1 (List.mem_map.mpr ⟨_, member, rfl⟩)

theorem named_overlaidEntries (knownNamed : AreNamed known) (named : AreNamed entries) :
    AreNamed (overlaidEntries known entries) ∧ ∀ name, entry? (.text name) (overlaidEntries known entries) =
      laid (Value.entry? (.text name) known) (Value.entry? (.text name) entries) := by
  induction entries generalizing known with
  | nil =>
    rw [overlaidEntries]
    exact ⟨knownNamed, fun name => rfl⟩
  | cons entry rest ih =>
    obtain ⟨key, value⟩ := entry
    obtain ⟨first, same⟩ := named.names (key, value) (by simp)
    obtain rfl : key = .text first := same
    rw [overlaidEntries]
    obtain ⟨resultNamed, later⟩ := ih (named_put knownNamed first
      ((Value.entry? (.text first) known).elim value (overlaid · value))) named.of_cons
    refine ⟨resultNamed, fun name => ?_⟩
    rw [later name, entry?_put knownNamed, entry?_cons]
    by_cases same : first = name
    · subst same
      rw [if_pos rfl, if_pos rfl, absent_of_cons named]
      rfl
    · rw [if_neg same, if_neg same]

/-! ## Trees -/

variable {key : Nat → String → Prop} {leaf : Nat → Scalar → Prop} {level : Nat} {old value again : Value}

private theorem overlaid_mapping (known entries : List (Scalar × Value)) :
    overlaid (.mapping known) (.mapping entries) = .mapping (overlaidEntries known entries) := by
  rw [overlaid]

private theorem overlaid_scalar (old : Scalar) (entries : List (Scalar × Value)) :
    overlaid (.scalar old) (.mapping entries) = .mapping entries := by simp [overlaid]

private theorem AreNamed.depth_le (named : AreNamed entries) {value : Value}
    (there : entry? (.text name) entries = some value) : value.depth ≤ depthOfEntries entries :=
  depth_le_depthOfEntries _ (named.entry?_eq_some_iff.mp there)

/-- The value under a name, once entries have been laid over others, is a tree and not too deep if that goes
for values that are laid over each other. -/
private theorem part_overlaidEntries (knownTree : IsTree key leaf level (.mapping known))
    (tree : IsTree key leaf level (.mapping entries))
    (each : ∀ entry ∈ entries, ∀ ⦃old⦄, IsTree key leaf (level + 1) old →
      IsTree key leaf (level + 1) (overlaid old entry.2) ∧
        (overlaid old entry.2).depth ≤ max old.depth entry.2.depth)
    (there : entry? (.text name) (overlaidEntries known entries) = some value) :
    key (level + 1) name ∧ IsTree key leaf (level + 1) value ∧
      value.depth ≤ max (depthOfEntries known) (depthOfEntries entries) := by
  rw [(named_overlaidEntries knownTree.named tree.named).2 name] at there
  cases new : entry? (.text name) entries with
  | none =>
    rw [new, laid] at there
    have depth := knownTree.named.depth_le there
    exact ⟨knownTree.key_of_entry? there, knownTree.of_entry? there, by omega⟩
  | some given =>
    rw [new, laid] at there
    obtain rfl := Option.some.inj there
    have depth := tree.named.depth_le new
    refine ⟨tree.key_of_entry? new, ?_⟩
    cases here : entry? (.text name) known with
    | none => exact ⟨tree.of_entry? new, by simp only [Option.elim_none]; omega⟩
    | some old =>
      have first := knownTree.named.depth_le here
      obtain ⟨laidTree, laidDepth⟩ :=
        each _ (tree.named.entry?_eq_some_iff.mp new) (knownTree.of_entry? here)
      dsimp only at laidDepth
      exact ⟨laidTree, by simp only [Option.elim_some]; omega⟩

/-- A tree that is laid over another one makes a tree that is no deeper. -/
theorem isTree_overlaid (oldTree : IsTree key leaf level old) (tree : IsTree key leaf level value) :
    IsTree key leaf level (overlaid old value) ∧
      (overlaid old value).depth ≤ max old.depth value.depth := by
  induction tree generalizing old with
  | scalar fits => exact ⟨.scalar fits, Nat.zero_le _⟩
  | @mapping level entries named keys values ih =>
    have tree : IsTree key leaf level (.mapping entries) := .mapping named keys values
    cases oldTree with
    | scalar =>
      rw [overlaid_scalar]
      exact ⟨tree, Nat.le_max_right _ _⟩
    | @mapping _ known knownNamed knownKeys knownValues =>
      have knownTree : IsTree key leaf level (.mapping known) :=
        .mapping knownNamed knownKeys knownValues
      have resultNamed := (named_overlaidEntries knownNamed named).1
      rw [overlaid_mapping]
      refine ⟨.mapping resultNamed (fun name value member => ?_) fun entry member => ?_, ?_⟩
      · exact (part_overlaidEntries knownTree tree ih (resultNamed.entry?_eq_some_iff.mpr member)).1
      · obtain ⟨name, there⟩ := resultNamed.exists_entry? member
        exact (part_overlaidEntries knownTree tree ih there).2.1
      · have depth := depthOfEntries_le fun entry member => by
          obtain ⟨name, there⟩ := resultNamed.exists_entry? member
          exact (part_overlaidEntries knownTree tree ih there).2.2
        simp only [Value.depth]
        omega

/-- Entries that have all names of others stay the same when they are laid over these, if that goes for the
values under each name. -/
private theorem alike_overlaidEntries (knownNamed : AreNamed known) (named : AreNamed others)
    (alike : Alike (.mapping others) (.mapping result))
    (names : ∀ name, (Value.entry? (.text name) known).isSome = true →
      (Value.entry? (.text name) result).isSome = true)
    (each : ∀ name old again value, entry? (.text name) known = some old →
      entry? (.text name) others = some again → entry? (.text name) result = some value →
      Alike again value → Alike (overlaid old again) value) :
    Alike (.mapping (overlaidEntries known others)) (.mapping result) := by
  obtain ⟨-, laidUnder⟩ := named_overlaidEntries knownNamed named
  refine .mapping (fun name => ?_) fun name value other there present => ?_
  · rw [laidUnder name]
    rcases alike.entry? name with ⟨none, absent⟩ | ⟨again, value, found, present, -⟩
    · rw [none, absent]
      cases here : entry? (.text name) known with
      | none => rfl
      | some old =>
        have there := names name (by rw [here]; rfl)
        rw [absent] at there
        cases there
    · rw [found, present]
      rfl
  · rw [laidUnder name] at there
    rcases alike.entry? name with ⟨-, absent⟩ | ⟨again, value', found, present', same⟩
    · cases absent.symm.trans present
    · obtain rfl := Option.some.inj (present'.symm.trans present)
      rw [found, laid] at there
      obtain rfl := Option.some.inj there
      cases here : entry? (.text name) known with
      | none => exact same
      | some old => exact each name old again value' here found present same

private theorem alike_overlaid_self (tree : IsTree key leaf level old)
    (againTree : IsTree key leaf level again) (alike : Alike again old) :
    Alike (overlaid old again) old := by
  induction tree generalizing again with
  | scalar =>
    obtain rfl := alike.scalar_right
    exact .same _
  | @mapping level entries named keys values ih =>
    cases againTree with
    | scalar => cases alike
    | @mapping _ others othersNamed othersKeys trees =>
      rw [overlaid_mapping]
      refine alike_overlaidEntries named othersNamed alike (fun _ present => present) ?_
      intro name old again value here found present same
      obtain rfl := Option.some.inj (here.symm.trans present)
      exact ih _ (named.entry?_eq_some_iff.mp here)
        (trees _ (othersNamed.entry?_eq_some_iff.mp found)) same

/-- What came of laying a tree over another stays the same when it is laid over that once more. -/
theorem alike_overlaid_again (oldTree : IsTree key leaf level old) (tree : IsTree key leaf level value)
    (againTree : IsTree key leaf level again) (alike : Alike again (overlaid old value)) :
    Alike (overlaid old again) (overlaid old value) := by
  induction tree generalizing old again with
  | scalar =>
    obtain rfl := alike.scalar_right
    exact .same _
  | @mapping level entries named keys values ih =>
    cases againTree with
    | scalar =>
      cases oldTree with
      | scalar =>
        rw [overlaid_scalar] at alike
        cases alike
      | mapping =>
        rw [overlaid_mapping] at alike
        cases alike
    | @mapping _ others othersNamed othersKeys trees =>
      cases oldTree with
      | scalar =>
        rw [overlaid_scalar] at alike
        rwa [overlaid_scalar, overlaid_scalar]
      | @mapping _ known knownNamed knownKeys knownValues =>
        have knownTree : IsTree key leaf level (.mapping known) :=
          .mapping knownNamed knownKeys knownValues
        obtain ⟨-, laidUnder⟩ := named_overlaidEntries knownNamed named
        rw [overlaid_mapping, overlaid_mapping] at *
        refine alike_overlaidEntries knownNamed othersNamed alike (fun name present => ?_) ?_
        · rw [laidUnder name]
          cases entry? (.text name) entries with
          | none => exact present
          | some => rfl
        · intro name old again value here found present same
          have againTree := trees _ (othersNamed.entry?_eq_some_iff.mp found)
          rw [laidUnder name, here] at present
          cases new : entry? (.text name) entries with
          | none =>
            rw [new] at present
            obtain rfl := Option.some.inj present
            exact alike_overlaid_self (knownTree.of_entry? here) againTree same
          | some given =>
            rw [new] at present
            obtain rfl := Option.some.inj present
            exact ih _ (named.entry?_eq_some_iff.mp new) (knownTree.of_entry? here) againTree same

end UnitLift.Value
