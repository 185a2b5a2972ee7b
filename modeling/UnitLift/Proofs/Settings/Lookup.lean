import UnitLift.Proofs.Settings.Overlay
import UnitLift.Settings

namespace UnitLift.Settings

open Value (IsTree)

variable {key : Nat → String → Prop} {leaf : Nat → Scalar → Prop} {level : Nat} {value : Value}

/-! ## Values that stand for themselves -/

section Given

variable (given : ∀ level scalar, leaf level scalar → scalar.IsGiven)
include given

private theorem isOpen_eq (tree : IsTree key leaf level value) : isOpen value = false := by
  cases tree with
  | scalar fits =>
    have known := given _ _ fits
    rw [isOpen, beq_eq_false_iff_ne]
    rintro rfl
    exact known.1 rfl
  | mapping => rfl

private theorem resolve_eq {setting : Located} (tree : IsTree key leaf level setting.value)
    (lookups : Lookups) (container : Located) : resolve lookups container setting = .ok setting := by
  unfold resolve
  split
  · rename_i text same
    rw [same] at tree
    cases tree with
    | scalar fits =>
      rw [if_pos (by simp [hasReferences_of_isGiven (given _ _ fits)])]
      rfl
  · rfl

/-- The part that a name leads to, and what further names lead to in it. -/
private theorem selectPart_eq (lookups : Lookups) (name : String) {located : Located}
    (tree : IsTree key leaf level located.value) :
    selectPart lookups located name false = .ok none ∧
        (∀ rest, located.value.under (name :: rest) = .null) ∨
      ∃ part, selectPart lookups located name false = .ok (some part) ∧
        (∀ rest, located.value.under (name :: rest) = part.value.under rest) ∧
        IsTree key leaf (level + 1) part.value := by
  unfold selectPart Located.part?
  generalize located.value = value at tree
  cases tree with
  | scalar => exact .inl ⟨rfl, fun _ => rfl⟩
  | @mapping _ entries named keys values =>
    cases found : Value.entry? (.text name) entries with
    | none =>
      exact .inl ⟨by simp [found, bind, Except.bind, pure, Except.pure], fun _ => by
        simp [Value.under, found]⟩
    | some value =>
      have inner : IsTree key leaf (level + 1) (located.part name value).value :=
        values _ (named.entry?_eq_some_iff.mp found)
      refine .inr ⟨located.part name value, ?_, fun _ => by simp [Value.under, found]; rfl, inner⟩
      simp [found, bind, Except.bind, resolve_eq given inner, pure, Except.pure]

/-! ## Keys -/

/-- What is found where names lead. -/
private inductive Finds : Value → Except Fault (Option Located) → Prop
  | found {located : Located} {value : Value} (there : located.value = value)
      (closed : isOpen value = false) : Finds value (.ok (some located))
  | nothing : Finds .null (.ok none)
  | scalar : Finds .null (.error .noContainer)

private theorem finds_follow (lookups : Lookups) (names : List String) {located : Located}
    (tree : IsTree key leaf level located.value) :
    Finds (located.value.under names) (follow lookups false located names) := by
  induction names generalizing located level with
  | nil => exact .found rfl (isOpen_eq given tree)
  | cons name rest ih =>
    rcases selectPart_eq given lookups name tree with ⟨absent, none⟩ | ⟨part, found, there, tree⟩
    · rw [none]
      cases rest with
      | nil => simpa only [follow, absent] using Finds.nothing
      | cons =>
        simp only [follow, absent]
        exact .nothing
    · rw [there]
      cases rest with
      | nil => simpa only [follow, found, Value.under] using Finds.found rfl (isOpen_eq given tree)
      | cons next rest =>
        have goesOn := ih tree
        simp only [follow, found, bind, Except.bind]
        cases container : part.isContainer with
        | true => exact goesOn
        | false =>
          -- a scalar has no parts, so that nothing is under the names that are left
          unfold Located.isContainer at container
          cases here : part.value with
          | scalar => exact .scalar
          | list => simp [here] at container
          | mapping => simp [here] at container

end Given

/-- The names that a key leads through from the top. -/
def namesOfKey (key : String) : Except Fault (List String) :=
  let key := Key.ofText key
  if key.above.getD 0 = 0 then key.names else .error .noParent

private theorem namesOfKey_ne (name : String) : namesOfKey name ≠ .error .noContainer := by
  unfold namesOfKey Key.names
  dsimp only
  split
  · split
    · exact nofun
    · split
      · exact nofun
      · exact nofun
  · exact nofun

/-- What is under a key is what the names in it lead to. -/
theorem selected_eq (given : ∀ level scalar, leaf level scalar → scalar.IsGiven)
    (tree : IsTree key leaf level value) (name : String) :
    selected value name = (namesOfKey name).map value.under := by
  have start (key : Key) : (Located.top value).start key =
      if key.above.getD 0 = 0 then .ok (.top value) else .error .noParent := by
    unfold Located.start
    rcases key.above with _ | _ | levels
    · rfl
    · rfl
    · rfl
  have selects : allLookups.select (.top value) name false =
      namesOfKey name >>= follow (lookups 55) false (.top value) := by
    change select (lookups 55) (.top value) name false = _
    simp only [select, start, namesOfKey]
    split
    · rfl
    · rfl
  rw [selected, selects]
  have apart := namesOfKey_ne name
  generalize namesOfKey name = names at apart ⊢
  cases names with
  | error fault =>
    cases fault with
    | noContainer => exact absurd rfl apart
    | _ => rfl
  | ok names =>
    have top : IsTree key leaf level (Located.top value).value := tree
    have finds : Finds (value.under names) (follow (lookups 55) false (.top value) names) :=
      finds_follow given (lookups 55) names top
    simp only [bind, Except.bind, Except.map]
    generalize value.under names = there at finds
    generalize follow (lookups 55) false (.top value) names = result at finds
    cases finds with
    | found same closed => simp [same, closed]
    | nothing => rfl
    | scalar => rfl

/-! ## Parts that have to be there -/

theorem part_eq (given : ∀ level scalar, leaf level scalar → scalar.IsGiven)
    (tree : IsTree key leaf level value) (names : List String) :
    part value names = value.require names := by
  have follows (names : List String) {located : Located} {level : Nat}
      (tree : IsTree key leaf level located.value) :
      (names.foldlM required located).map Located.value = located.value.require names := by
    induction names generalizing located level with
    | nil => rfl
    | cons name rest ih =>
      rw [List.foldlM_cons, required]
      generalize same : located.value = value at tree
      cases tree with
      | scalar => rfl
      | @mapping _ entries named keys values =>
        cases found : Value.entry? (.text name) entries with
        | none => simp [found, Value.require, bind, Except.bind, Except.map, throw, throwThe,
            MonadExceptOf.throw]
        | some value =>
          have inner : IsTree key leaf (level + 1) (located.part name value).value :=
            values _ (named.entry?_eq_some_iff.mp found)
          have closed : isOpen value = false := isOpen_eq given inner
          have goesOn := ih inner
          simp only [found, Value.require, closed, resolve_eq given inner]
          exact goesOn
  have whole : (names.foldlM required (.top value)).map Located.value = value.require names :=
    follows names tree
  rw [part, ← whole]
  rfl

end UnitLift.Settings
