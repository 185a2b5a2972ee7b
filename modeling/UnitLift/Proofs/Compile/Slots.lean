import Mathlib.Data.List.Basic
import Mathlib.Data.List.Induction
import UnitLift.Table

/-! Slots of an argument list and the order that a history of writes puts them in. An include
directory stays where it was first named, every other slot moves to where it was last written. -/

namespace UnitLift

inductive Slot where
  /-- The standard together with the extensions. -/
  | language
  | includeDir (path : String)
  /-- Definitions and removals of one name. -/
  | definition (name : List Char)
deriving DecidableEq, Repr

namespace Slot

/-- Writing the slot again does not move it. -/
def keepsPlace : Slot → Bool
  | includeDir _ => true
  | language | definition _ => false

/-- A write between earlier and later ones is the one that places its slot: the first of those that
keep their place, the last of the others. -/
def stands (slot : Slot) (earlier later : List Slot) : Bool :=
  if slot.keepsPlace then !earlier.contains slot else !later.contains slot

/-- The writes that place their slots, in order, when others came before. -/
def arrangeAfter (earlier : List Slot) : List Slot → List Slot
  | [] => []
  | slot :: later =>
    if slot.stands earlier later then slot :: arrangeAfter (slot :: earlier) later
    else arrangeAfter (slot :: earlier) later

/-- The slots of a history of writes, each once, in the order of their blocks. -/
def arrange (writes : List Slot) : List Slot := arrangeAfter [] writes

theorem stands_of_keepsPlace {slot : Slot} (keeps : slot.keepsPlace = true)
    (earlier later : List Slot) : slot.stands earlier later = !earlier.contains slot := by
  simp [stands, keeps]

theorem stands_of_moves {slot : Slot} (moves : slot.keepsPlace = false)
    (earlier later : List Slot) : slot.stands earlier later = !later.contains slot := by
  simp [stands, moves]

theorem mem_arrangeAfter (earlier writes : List Slot) (slot : Slot) :
    slot ∈ arrangeAfter earlier writes ↔
      slot ∈ writes ∧ (slot.keepsPlace = true → slot ∉ earlier) := by
  induction writes generalizing earlier with
  | nil => simp [arrangeAfter]
  | cons first later ih =>
    cases kind : first.keepsPlace with
    | true =>
      simp only [arrangeAfter, stands_of_keepsPlace kind]
      by_cases same : slot = first
      · subst slot
        by_cases known : first ∈ earlier <;> simp [known, ih, kind]
      · split <;> simp [ih, same]
    | false =>
      simp only [arrangeAfter, stands_of_moves kind]
      by_cases same : slot = first
      · subst slot
        by_cases again : first ∈ later <;> simp [again, ih, kind]
      · split <;> simp [ih, same]

/-- No slot is lost, and none comes from anywhere else. -/
theorem mem_arrange (writes : List Slot) (slot : Slot) : slot ∈ arrange writes ↔ slot ∈ writes := by
  simp [arrange, mem_arrangeAfter]

theorem nodup_arrangeAfter (earlier writes : List Slot) : (arrangeAfter earlier writes).Nodup := by
  induction writes generalizing earlier with
  | nil => simp [arrangeAfter]
  | cons first later ih =>
    simp only [arrangeAfter]
    split
    · rename_i stand
      refine List.nodup_cons.mpr ⟨?_, ih _⟩
      intro again
      obtain ⟨present, fresh⟩ := (mem_arrangeAfter _ _ _).mp again
      cases kind : first.keepsPlace with
      | true => exact fresh kind (List.mem_cons_self)
      | false => simp [stands_of_moves kind, present] at stand
    · exact ih _

theorem nodup_arrange (writes : List Slot) : (arrange writes).Nodup := nodup_arrangeAfter [] writes

private theorem arrangeAfter_concat_of_keepsPlace {slot : Slot} (keeps : slot.keepsPlace = true)
    (earlier writes : List Slot) :
    arrangeAfter earlier (writes ++ [slot]) = arrangeAfter earlier writes ++
      if slot ∈ earlier ∨ slot ∈ writes then [] else [slot] := by
  induction writes generalizing earlier with
  | nil =>
    by_cases known : slot ∈ earlier <;> simp [arrangeAfter, stands_of_keepsPlace keeps, known]
  | cons first later ih =>
    have unchanged : first.stands earlier (later ++ [slot]) = first.stands earlier later := by
      cases kind : first.keepsPlace with
      | true => simp [stands_of_keepsPlace kind]
      | false =>
        have different : first ≠ slot := by
          intro same
          simp [same, keeps] at kind
        simp [stands_of_moves kind, different]
    have known : (slot ∈ first :: earlier ∨ slot ∈ later) ↔
        (slot ∈ earlier ∨ slot ∈ first :: later) := by
      simp only [List.mem_cons]
      tauto
    simp only [List.cons_append, arrangeAfter, unchanged, ih, known]
    split <;> simp

private theorem arrangeAfter_concat_of_moves {slot : Slot} (moves : slot.keepsPlace = false)
    (earlier writes : List Slot) :
    arrangeAfter earlier (writes ++ [slot]) =
      (arrangeAfter earlier writes).filter (· != slot) ++ [slot] := by
  induction writes generalizing earlier with
  | nil => simp [arrangeAfter, stands_of_moves moves]
  | cons first later ih =>
    simp only [List.cons_append, arrangeAfter, ih]
    by_cases same : first = slot
    · subst first
      by_cases again : slot ∈ later <;> simp [stands_of_moves moves, again]
    · have unchanged : first.stands earlier (later ++ [slot]) = first.stands earlier later := by
        cases kind : first.keepsPlace with
        | true => simp [stands_of_keepsPlace kind]
        | false => simp [stands_of_moves kind, same]
      rw [unchanged]
      split <;> simp [same]

theorem arrange_concat_of_keepsPlace {slot : Slot} (keeps : slot.keepsPlace = true)
    (writes : List Slot) :
    arrange (writes ++ [slot]) = arrange writes ++ if slot ∈ writes then [] else [slot] := by
  simp [arrange, arrangeAfter_concat_of_keepsPlace keeps]

theorem arrange_concat_of_moves {slot : Slot} (moves : slot.keepsPlace = false)
    (writes : List Slot) :
    arrange (writes ++ [slot]) = (arrange writes).filter (· != slot) ++ [slot] :=
  arrangeAfter_concat_of_moves moves [] writes

/-- Writes that are all repeated later on place nothing. -/
theorem arrangeAfter_append_of_superseded (earlier superseded writes : List Slot)
    (moves : ∀ slot ∈ superseded, slot.keepsPlace = false)
    (again : ∀ slot ∈ superseded, slot ∈ writes) :
    arrangeAfter earlier (superseded ++ writes) =
      arrangeAfter (superseded.reverse ++ earlier) writes := by
  induction superseded generalizing earlier with
  | nil => rfl
  | cons first rest ih =>
    have present : first ∈ rest ++ writes := List.mem_append_right _ (again first (by simp))
    rw [List.cons_append, arrangeAfter, stands_of_moves (moves first (by simp))]
    simp only [List.contains_iff_mem.mpr present, Bool.not_true, Bool.false_eq_true, ↓reduceIte]
    rw [ih (first :: earlier) (fun slot member => moves slot (by simp [member]))
      (fun slot member => again slot (by simp [member]))]
    simp

theorem arrangeAfter_of_nodup (earlier writes : List Slot) (unique : writes.Nodup)
    (fresh : ∀ slot ∈ writes, slot.keepsPlace = true → slot ∉ earlier) :
    arrangeAfter earlier writes = writes := by
  induction writes generalizing earlier with
  | nil => rfl
  | cons first later ih =>
    obtain ⟨once, rest⟩ := List.nodup_cons.mp unique
    have stand : first.stands earlier later = true := by
      cases kind : first.keepsPlace with
      | true => simpa [stands_of_keepsPlace kind] using fresh first (by simp) kind
      | false => simpa [stands_of_moves kind] using once
    have freshLater : ∀ slot ∈ later, slot.keepsPlace = true → slot ∉ first :: earlier := by
      intro slot member keeps known
      rcases List.mem_cons.mp known with same | known
      · subst slot
        exact once member
      · exact fresh slot (by simp [member]) keeps known
    simp only [arrangeAfter, stand, ↓reduceIte, ih _ rest freshLater]

/-- First writes that keep their place place their slots. -/
theorem arrangeAfter_append_of_keepsPlace (earlier kept writes : List Slot)
    (keeps : ∀ slot ∈ kept, slot.keepsPlace = true) (unique : kept.Nodup)
    (fresh : ∀ slot ∈ kept, slot ∉ earlier) :
    arrangeAfter earlier (kept ++ writes) =
      kept ++ arrangeAfter (kept.reverse ++ earlier) writes := by
  induction kept generalizing earlier with
  | nil => rfl
  | cons first rest ih =>
    obtain ⟨once, unique⟩ := List.nodup_cons.mp unique
    have freshRest : ∀ slot ∈ rest, slot ∉ first :: earlier := by
      intro slot member known
      rcases List.mem_cons.mp known with same | known
      · subst slot
        exact once member
      · exact fresh slot (by simp [member]) known
    rw [List.cons_append, arrangeAfter, stands_of_keepsPlace (keeps first (by simp)),
      ih (first :: earlier) (fun slot member => keeps slot (by simp [member])) unique freshRest]
    simp [fresh first]

/-- Writes that keep their place and were made before place nothing. -/
theorem arrangeAfter_append_of_known (earlier known writes : List Slot)
    (keeps : ∀ slot ∈ known, slot.keepsPlace = true) (present : ∀ slot ∈ known, slot ∈ earlier) :
    arrangeAfter earlier (known ++ writes) = arrangeAfter (known.reverse ++ earlier) writes := by
  induction known generalizing earlier with
  | nil => rfl
  | cons first rest ih =>
    rw [List.cons_append, arrangeAfter, stands_of_keepsPlace (keeps first (by simp)),
      ih (first :: earlier) (fun slot member => keeps slot (by simp [member]))
        (fun slot member => List.mem_cons_of_mem _ (present slot (by simp [member])))]
    simp [present first]

/-- When arranged slots are written again after the writes that came first, they get the same order:
of the first writes those that keep their place are first again, and the others move. -/
theorem arrange_append_arrange (kept moved more : List Slot)
    (keeps : ∀ slot ∈ kept, slot.keepsPlace = true) (uniqueKept : kept.Nodup)
    (moves : ∀ slot ∈ moved, slot.keepsPlace = false) :
    arrange (kept ++ moved ++ arrange (kept ++ moved ++ more)) =
      arrange (kept ++ moved ++ more) := by
  rw [List.append_assoc kept moved more]
  have again (slot : Slot) (member : slot ∈ moved) : slot ∈ arrange (kept ++ (moved ++ more)) := by
    simp [mem_arrange, member]
  have unique := nodup_arrange (kept ++ (moved ++ more))
  have first : arrange (kept ++ (moved ++ more)) =
      kept ++ arrangeAfter (kept.reverse ++ []) (moved ++ more) :=
    arrangeAfter_append_of_keepsPlace [] kept _ keeps uniqueKept (by simp)
  rw [first] at unique again ⊢
  obtain ⟨_, uniqueRest, apart⟩ := List.nodup_append.mp unique
  rw [arrange, List.append_assoc,
    arrangeAfter_append_of_keepsPlace _ _ _ keeps uniqueKept (by simp),
    arrangeAfter_append_of_superseded _ _ _ moves again,
    arrangeAfter_append_of_known _ _ _ keeps (by simp +contextual),
    arrangeAfter_of_nodup _ _ uniqueRest]
  intro slot member keeping known
  simp only [List.append_nil, List.mem_append, List.mem_reverse] at known
  rcases known with inside | inside | inside
  · exact apart slot inside slot member rfl
  · rw [moves slot inside] at keeping
    cases keeping
  · exact apart slot inside slot member rfl

def includeDir? : Slot → Option String
  | includeDir path => some path
  | language | definition _ => none

theorem includeDir?_eq_some_iff {slot : Slot} {path : String} :
    slot.includeDir? = some path ↔ slot = includeDir path := by
  cases slot <;> simp [includeDir?]

theorem mem_filterMap_includeDir? (slots : List Slot) (path : String) :
    path ∈ slots.filterMap includeDir? ↔ includeDir path ∈ slots := by
  simp [List.mem_filterMap, includeDir?_eq_some_iff]

private theorem filterMap_includeDir?_filter {slot : Slot} (moves : slot.keepsPlace = false)
    (slots : List Slot) :
    (slots.filter (· != slot)).filterMap includeDir? = slots.filterMap includeDir? := by
  rw [List.filterMap_filter]
  apply List.filterMap_congr
  intro other _
  by_cases same : other = slot
  · cases slot <;> simp [keepsPlace] at moves <;> simp [same, includeDir?]
  · simp [same]

/-- Include directories come in the order in which they were first named. -/
theorem filterMap_includeDir?_arrange (writes : List Slot) :
    (arrange writes).filterMap includeDir? = (writes.filterMap includeDir?).eraseDups := by
  induction writes using List.reverseRecOn with
  | nil => rfl
  | append_singleton writes slot ih =>
    cases kind : slot.keepsPlace with
    | true =>
      cases slot with
      | includeDir path =>
        have named : [Slot.includeDir path].filterMap includeDir? = [path] := rfl
        rw [arrange_concat_of_keepsPlace kind, List.filterMap_append, List.filterMap_append, ih,
          named, Table.eraseDups_concat]
        simp only [List.contains_iff_mem, mem_filterMap_includeDir?]
        split <;> simp [named]
      | language | definition name => simp [keepsPlace] at kind
    | false =>
      have unnamed : [slot].filterMap includeDir? = [] := by
        cases slot <;> simp [keepsPlace] at kind <;> rfl
      rw [arrange_concat_of_moves kind, List.filterMap_append, List.filterMap_append, unnamed,
        filterMap_includeDir?_filter kind, ih, List.append_nil, List.append_nil]

end Slot

end UnitLift
