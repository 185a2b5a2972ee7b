import UnitLift.Parse.Cursor

namespace UnitLift

/-- Where a cursor stands below others: the number of one of them, then the number of one of its
children, and so on. -/
abbrev Place := List Nat

namespace Cursor

/-- Induction on a list of cursors: on the children of the first one and on the rest. -/
theorem list_induction {motive : List Cursor → Prop} (nil : motive [])
    (cons : ∀ data children rest, motive children → motive rest →
      motive (.node data children :: rest)) :
    ∀ cursors, motive cursors
  | [] => nil
  | .node data children :: rest =>
    cons data children rest (list_induction nil cons children) (list_induction nil cons rest)

def data : Cursor → CursorData
  | .node data _ => data

def children : Cursor → List Cursor
  | .node _ children => children

def at? : List Cursor → Place → Option Cursor
  | _, [] => none
  | cursors, number :: inside =>
    match cursors[number]? with
    | none => none
    | some cursor => if inside.isEmpty then some cursor else at? cursor.children inside

end Cursor

/-- A cursor that is shown where the one above it is. -/
def CursorData.IsShown (view : PathView) (path : String) (data : CursorData) : Prop :=
  (∃ kind, data.kind = some kind ∧ (kind ∈ entityKinds ∨ kind ∈ transparentKinds)) ∧
    ∃ file, data.location.file = some file ∧ view.resolve file = path

namespace CursorData

variable {view : PathView} {path : String} {data : CursorData}

/-- What a role says about a cursor. -/
inductive HasRole (view : PathView) (path : String) (data : CursorData) : Role → Prop
  | entity {kind : String} (known : data.kind = some kind) (lifted : kind ∈ entityKinds)
      (shown : data.IsShown view path) : HasRole view path data (.entity kind)
  | transparent {kind : String} (known : data.kind = some kind) (unlifted : kind ∉ entityKinds)
      (shown : data.IsShown view path) : HasRole view path data .transparent
  | unreadable (hidden : ¬data.IsShown view path) : HasRole view path data .unreadable
  | leftOut (hidden : ¬data.IsShown view path) : HasRole view path data .leftOut

private theorem isIn_iff : data.isIn view path = true ↔
    ∃ file, data.location.file = some file ∧ view.resolve file = path := by
  cases file : data.location.file <;> simp [isIn, file]

private theorem notMem_entityKinds : ∀ kind ∈ transparentKinds, kind ∉ entityKinds := by decide

private theorem hasRole_role (view : PathView) (path : String) (data : CursorData) :
    HasRole view path data (data.role view path) := by
  unfold role
  split
  · rename_i unknown
    refine .unreadable ?_
    rintro ⟨⟨kind, known, -⟩, -⟩
    cases unknown.symm.trans known
  · rename_i kind known
    split
    · rename_i outside
      refine .leftOut ?_
      rintro ⟨-, inside⟩
      simp [isIn_iff.mpr inside] at outside
    · rename_i inside
      have place := isIn_iff.mp (by simpa using inside)
      split
      · rename_i transparent
        have member : kind ∈ transparentKinds := by simpa using transparent
        exact .transparent known (notMem_entityKinds kind member)
          ⟨⟨kind, known, .inr member⟩, place⟩
      · rename_i solid
        split
        · rename_i entity
          have member : kind ∈ entityKinds := by simpa using entity
          exact .entity known member ⟨⟨kind, known, .inl member⟩, place⟩
        · rename_i unlifted
          refine .leftOut ?_
          rintro ⟨⟨other, same, kinds⟩, -⟩
          cases known.symm.trans same
          rcases kinds with entity | transparent
          · simp [entity] at unlifted
          · simp [transparent] at solid

theorem hasRole_of_role {role : Role} (has : data.role view path = role) :
    HasRole view path data role := by
  rw [← has]
  exact hasRole_role view path data

end CursorData

/-- The cursor at a place is visible: it is shown, and what is above it is visible or the unit. -/
inductive Visible (view : PathView) (path : String) (cursors : List Cursor) : Place → Prop
  | top {number : Nat} {cursor : Cursor} (found : Cursor.at? cursors [number] = some cursor)
      (shown : cursor.data.IsShown view path) : Visible view path cursors [number]
  | child {above : Place} {number : Nat} {cursor : Cursor}
      (parent : Visible view path cursors above)
      (found : Cursor.at? cursors (above ++ [number]) = some cursor)
      (shown : cursor.data.IsShown view path) : Visible view path cursors (above ++ [number])

namespace Cursor

variable {view : PathView} {path : String} {cursors : List Cursor} {cursor : Cursor}

theorem at?_singleton (cursors : List Cursor) (number : Nat) :
    at? cursors [number] = cursors[number]? := by
  rw [at?]
  cases cursors[number]? <;> rfl

theorem at?_cons {number : Nat} (found : cursors[number]? = some cursor) {inside : Place}
    (deeper : inside ≠ []) : at? cursors (number :: inside) = at? cursor.children inside := by
  rw [at?, found]
  simp [deeper]

end Cursor

namespace Visible

variable {view : PathView} {path : String} {cursors : List Cursor} {cursor : Cursor}

theorem ne_nil {place : Place} (visible : Visible view path cursors place) : place ≠ [] := by
  cases visible with
  | top => simp
  | child => simp

/-- What is visible among the children of a visible cursor is visible. -/
theorem cons {number : Nat} (found : cursors[number]? = some cursor)
    (shown : cursor.data.IsShown view path) {inside : Place}
    (visible : Visible view path cursor.children inside) :
    Visible view path cursors (number :: inside) := by
  have here : Visible view path cursors [number] :=
    .top (by rw [Cursor.at?_singleton, found]) shown
  induction visible with
  | @top last _ foundLast shownLast =>
    rw [← List.singleton_append]
    refine .child here ?_ shownLast
    rw [List.singleton_append, Cursor.at?_cons found (by simp), foundLast]
  | @child above last _ parent foundLast shownLast ih =>
    rw [← List.cons_append]
    refine .child ih ?_ shownLast
    rw [List.cons_append, Cursor.at?_cons found (by simp), foundLast]

/-- What is visible belongs to a topmost cursor that is, and is visible among its children. -/
theorem of_cons {number : Nat} {inside : Place}
    (visible : Visible view path cursors (number :: inside)) :
    ∃ cursor, cursors[number]? = some cursor ∧ cursor.data.IsShown view path ∧
      (inside = [] ∨ Visible view path cursor.children inside) := by
  generalize whole : number :: inside = place at visible
  induction visible generalizing inside with
  | @top last cursor found shown =>
    cases whole
    rw [Cursor.at?_singleton] at found
    exact ⟨cursor, found, shown, .inl rfl⟩
  | @child above last cursor parent found shown ih =>
    obtain ⟨first, rest, rfl⟩ := List.exists_cons_of_ne_nil parent.ne_nil
    cases whole
    obtain ⟨top, foundTop, shownTop, deeper⟩ := ih rfl
    rw [List.cons_append, Cursor.at?_cons foundTop (by simp)] at found
    refine ⟨top, foundTop, shownTop, .inr ?_⟩
    rcases deeper with rfl | visibleRest
    · exact .top found shown
    · exact .child visibleRest found shown

end Visible

/-- A visible cursor of the kind of an entity. -/
structure Liftable (view : PathView) (path : String) (cursors : List Cursor) (place : Place) :
    Prop where
  visible : Visible view path cursors place
  kind : ∃ cursor kind, Cursor.at? cursors place = some cursor ∧ cursor.data.kind = some kind ∧
    kind ∈ entityKinds

theorem Liftable.inside {view : PathView} {path : String} {cursors : List Cursor} {cursor : Cursor}
    {first : Nat} {inside : Place} (wanted : Liftable view path cursors (first :: inside))
    (found : cursors[first]? = some cursor) (deeper : inside ≠ []) :
    Liftable view path cursor.children inside := by
  obtain ⟨top, foundTop, _, visible⟩ := wanted.visible.of_cons
  cases foundTop.symm.trans found
  obtain ⟨inner, kind, place, known⟩ := wanted.kind
  rw [Cursor.at?_cons found deeper] at place
  exact ⟨visible.resolve_left deeper, inner, kind, place, known⟩

end UnitLift
