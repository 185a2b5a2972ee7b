import UnitLift.Proofs.Parse.Visibility

namespace UnitLift

/-- A cursor that becomes an entity. -/
structure LiftedCursor where
  place : Place
  data : CursorData
  kind : String
  id : Nat
  parent : Nat

namespace LiftedCursor

/-- The same cursor seen from above a cursor with a number. -/
def under (number : Nat) (lifted : LiftedCursor) : LiftedCursor :=
  { lifted with place := number :: lifted.place }

def name (lifted : LiftedCursor) : Place × EntityId := (lifted.place, lifted.id)

theorem map_id_under (number : Nat) (rows : List LiftedCursor) :
    (rows.map (under number)).map id = rows.map id := by
  rw [List.map_map]
  rfl

end LiftedCursor

/-- One place is above another. -/
def IsAbove (outer place : Place) : Prop := outer <+: place ∧ outer ≠ place

/-- `parent` is the nearest of the named places above a place, or the `root` if none of them is. -/
def Encloses (named : List (Place × EntityId)) (root : EntityId) (place : Place)
    (parent : EntityId) : Prop :=
  (∃ outer, (outer, parent) ∈ named ∧ IsAbove outer place ∧
      ∀ other ∈ named, IsAbove other.1 place → other.1 <+: outer) ∨
    (parent = root ∧ ∀ other ∈ named, ¬IsAbove other.1 place)

private theorem isAbove_cons_iff {number : Nat} {outer place : Place} :
    IsAbove (number :: outer) (number :: place) ↔ IsAbove outer place := by
  simp [IsAbove, List.cons_prefix_cons]

private theorem not_isAbove_of_ne {first second : Nat} (apart : first ≠ second)
    (outer place : Place) : ¬IsAbove (first :: outer) (second :: place) := by
  rintro ⟨start, -⟩
  exact apart (List.cons_prefix_cons.mp start).1

private theorem not_isAbove_singleton {first number : Nat} {outer : Place} :
    ¬IsAbove (first :: outer) [number] := by
  rintro ⟨start, apart⟩
  obtain ⟨rfl, nothing⟩ := List.cons_prefix_cons.mp start
  rw [List.prefix_nil.mp nothing] at apart
  exact apart rfl

namespace Encloses

variable {number : Nat}

/-- More named places make no difference if none of them is above the place. -/
theorem mono {few all : List (Place × EntityId)} {root parent : EntityId}
    {place : Place} (encloses : Encloses few root place parent) (sub : ∀ name ∈ few, name ∈ all)
    (same : ∀ name ∈ all, IsAbove name.1 place → name ∈ few) : Encloses all root place parent := by
  rcases encloses with ⟨outer, named, above, nearest⟩ | ⟨root, nothing⟩
  · exact .inl ⟨outer, sub _ named, above,
      fun other member higher => nearest other (same other member higher) higher⟩
  · exact .inr ⟨root, fun other member higher => nothing other (same other member higher) higher⟩

theorem under {inner : List LiftedCursor} {root parent : EntityId} {place : Place}
    (encloses : Encloses (inner.map LiftedCursor.name) root place parent) (number : Nat) :
    Encloses ((inner.map (LiftedCursor.under number)).map LiftedCursor.name) root
      (number :: place) parent := by
  have listed : (inner.map (LiftedCursor.under number)).map LiftedCursor.name =
      (inner.map LiftedCursor.name).map fun name => (number :: name.1, name.2) := by
    simp [LiftedCursor.under, LiftedCursor.name, Function.comp_def]
  rw [listed]
  rcases encloses with ⟨outer, named, above, nearest⟩ | ⟨root, nothing⟩
  · refine .inl ⟨number :: outer, List.mem_map.mpr ⟨_, named, rfl⟩, isAbove_cons_iff.mpr above, ?_⟩
    intro other member higher
    obtain ⟨inside, known, rfl⟩ := List.mem_map.mp member
    exact List.cons_prefix_cons.mpr ⟨rfl, nearest inside known (isAbove_cons_iff.mp higher)⟩
  · refine .inr ⟨root, ?_⟩
    intro other member higher
    obtain ⟨inside, known, rfl⟩ := List.mem_map.mp member
    exact nothing inside known (isAbove_cons_iff.mp higher)

/-- Below a cursor that is named, that one takes the place of the root. -/
theorem cons {named : List (Place × EntityId)} {id root parent : EntityId}
    {number : Nat} {place : Place} (encloses : Encloses named id (number :: place) parent)
    (deeper : place ≠ [])
    (same : ∀ name ∈ named, ∃ inside, name.1 = number :: inside) :
    Encloses (([number], id) :: named) root (number :: place) parent := by
  have top (inside : Place) : [number] <+: number :: inside := ⟨inside, rfl⟩
  rcases encloses with ⟨outer, known, above, nearest⟩ | ⟨rfl, nothing⟩
  · refine .inl ⟨outer, List.mem_cons_of_mem _ known, above, List.forall_mem_cons.mpr ⟨?_, nearest⟩⟩
    intro _
    obtain ⟨inside, shape⟩ : ∃ inside, outer = number :: inside := same _ known
    rw [shape]
    exact top inside
  · refine .inl ⟨[number], List.mem_cons_self, ⟨top place, by simp [Ne.symm deeper]⟩, ?_⟩
    refine List.forall_mem_cons.mpr ⟨fun _ => List.prefix_refl _, ?_⟩
    intro other member higher
    exact absurd higher (nothing other member)

theorem append_left {first more : List (Place × EntityId)} {root parent : EntityId}
    {place : Place} (encloses : Encloses first root (number :: place) parent)
    (behind : ∀ name ∈ more, ∃ later inside, name.1 = later :: inside ∧ number + 1 ≤ later) :
    Encloses (first ++ more) root (number :: place) parent := by
  refine encloses.mono (fun _ member => List.mem_append_left _ member) ?_
  intro name member higher
  rcases List.mem_append.mp member with known | unknown
  · exact known
  · obtain ⟨later, inside, shape, bound⟩ := behind name unknown
    rw [shape] at higher
    exact absurd higher (not_isAbove_of_ne (by omega) inside place)

theorem append_right {first more : List (Place × EntityId)} {root parent : EntityId}
    {place : Place} (encloses : Encloses more root place parent)
    (behind : ∃ later inside, place = later :: inside ∧ number + 1 ≤ later)
    (front : ∀ name ∈ first, ∃ inside, name.1 = number :: inside) :
    Encloses (first ++ more) root place parent := by
  refine encloses.mono (fun _ member => List.mem_append_right _ member) ?_
  intro name member higher
  rcases List.mem_append.mp member with unknown | known
  · obtain ⟨later, below, rfl, bound⟩ := behind
    obtain ⟨inside, shape⟩ := front name unknown
    rw [shape] at higher
    exact absurd higher (not_isAbove_of_ne (by omega) inside below)
  · exact known

end Encloses

/-- The cursors that become entities among those from `number` on and all below them. Their entities
are named from `id` on, and go below `parent` unless they go below another of them. -/
inductive Enumeration (view : PathView) (path : String) :
    Nat → Nat → Nat → List Cursor → List LiftedCursor → Prop
  | nil {parent id number : Nat} : Enumeration view path parent id number [] []
  | entity {parent id number : Nat} {data : CursorData} {kind : String}
      {children rest : List Cursor} {inner more : List LiftedCursor} (role : data.role view path = .entity kind)
      (inside : Enumeration view path id (id + 1) 0 children inner)
      (after : Enumeration view path parent (id + 1 + inner.length) (number + 1) rest more) :
      Enumeration view path parent id number (.node data children :: rest)
        (⟨[number], data, kind, id, parent⟩ :: (inner.map (.under number) ++ more))
  | transparent {parent id number : Nat} {data : CursorData} {children rest : List Cursor}
      {inner more : List LiftedCursor} (role : data.role view path = .transparent)
      (inside : Enumeration view path parent id 0 children inner)
      (after : Enumeration view path parent (id + inner.length) (number + 1) rest more) :
      Enumeration view path parent id number (.node data children :: rest)
        (inner.map (.under number) ++ more)
  | hidden {parent id number : Nat} {data : CursorData} {children rest : List Cursor}
      {more : List LiftedCursor} (hidden : ¬data.IsShown view path)
      (after : Enumeration view path parent id (number + 1) rest more) :
      Enumeration view path parent id number (.node data children :: rest) more

namespace Enumeration

variable {view : PathView} {path : String} {parent id number : Nat} {cursors : List Cursor}
  {rows : List LiftedCursor}

theorem exists_rows (view : PathView) (path : String) (parent id number : Nat)
    (cursors : List Cursor) : ∃ rows, Enumeration view path parent id number cursors rows := by
  induction cursors using Cursor.list_induction generalizing parent id number with
  | nil => exact ⟨[], .nil⟩
  | cons data children rest ihChildren ihRest =>
    cases role : data.role view path with
    | entity kind =>
      obtain ⟨inner, inside⟩ := ihChildren id (id + 1) 0
      obtain ⟨more, after⟩ := ihRest parent (id + 1 + inner.length) (number + 1)
      exact ⟨_, .entity role inside after⟩
    | transparent =>
      obtain ⟨inner, inside⟩ := ihChildren parent id 0
      obtain ⟨more, after⟩ := ihRest parent (id + inner.length) (number + 1)
      exact ⟨_, .transparent role inside after⟩
    | unreadable =>
      obtain ⟨more, after⟩ := ihRest parent id (number + 1)
      cases CursorData.hasRole_of_role role with
      | unreadable hidden => exact ⟨_, .hidden hidden after⟩
    | leftOut =>
      obtain ⟨more, after⟩ := ihRest parent id (number + 1)
      cases CursorData.hasRole_of_role role with
      | leftOut hidden => exact ⟨_, .hidden hidden after⟩

theorem ids (enumeration : Enumeration view path parent id number cursors rows) :
    rows.map (·.id) = List.range' id rows.length := by
  induction enumeration with
  | nil => rfl
  | @entity _ id number data kind children rest inner more role inside after ihInside ihAfter =>
    rw [List.map_cons, List.map_append, LiftedCursor.map_id_under, ihInside, ihAfter,
      List.range'_append_1]
    simp [List.range'_succ]
  | @transparent _ _ number data children rest inner more role inside after ihInside ihAfter =>
    rw [List.map_append, LiftedCursor.map_id_under, ihInside, ihAfter, List.range'_append_1]
    simp
  | hidden _ _ ih => exact ih

theorem exists_cons (enumeration : Enumeration view path parent id number cursors rows) :
    ∀ row ∈ rows, ∃ first inside, row.place = first :: inside ∧ number ≤ first := by
  have within (number : Nat) (inner : List LiftedCursor) :
      ∀ row ∈ inner.map (LiftedCursor.under number), ∃ first inside,
        row.place = first :: inside ∧ number ≤ first := by
    simp [LiftedCursor.under]
  have after {number : Nat} {more : List LiftedCursor}
      (later : ∀ row ∈ more, ∃ first inside, row.place = first :: inside ∧ number + 1 ≤ first) :
      ∀ row ∈ more, ∃ first inside, row.place = first :: inside ∧ number ≤ first := by
    intro row member
    obtain ⟨first, inside, place, bound⟩ := later row member
    exact ⟨first, inside, place, by omega⟩
  induction enumeration with
  | nil => simp
  | entity _ _ _ _ ih =>
    refine List.forall_mem_cons.mpr ⟨⟨_, _, rfl, Nat.le_refl _⟩, ?_⟩
    exact List.forall_mem_append.mpr ⟨within _ _, after ih⟩
  | transparent _ _ _ _ ih => exact List.forall_mem_append.mpr ⟨within _ _, after ih⟩
  | hidden _ _ ih => exact after ih

/-- What comes later stands behind all that is below the cursor with the number before. -/
private theorem lt_of_after
    (enumeration : Enumeration view path parent id (number + 1) cursors rows) (inside : Place) :
    ∀ row ∈ rows, number :: inside < row.place := by
  intro row member
  obtain ⟨first, rest, place, bound⟩ := enumeration.exists_cons row member
  rw [place, List.cons_lt_cons_iff]
  exact .inl bound

/-- The cursors come in the order of the tree, parents first. -/
theorem ordered (enumeration : Enumeration view path parent id number cursors rows) :
    rows.Pairwise fun earlier later => earlier.place < later.place := by
  have within {number : Nat} {inner : List LiftedCursor}
      (sorted : inner.Pairwise fun earlier later => earlier.place < later.place) :
      (inner.map (LiftedCursor.under number)).Pairwise
        fun earlier later => earlier.place < later.place := by
    rw [List.pairwise_map]
    refine sorted.imp ?_
    intro earlier later less
    exact List.cons_lt_cons_iff.mpr (.inr ⟨rfl, less⟩)
  have apart {number parent id : Nat} {rest : List Cursor} {inner more : List LiftedCursor}
      (after : Enumeration view path parent id (number + 1) rest more) :
      ∀ earlier ∈ inner.map (LiftedCursor.under number), ∀ later ∈ more,
        earlier.place < later.place := by
    intro earlier member
    obtain ⟨row, _, rfl⟩ := List.mem_map.mp member
    exact lt_of_after after row.place
  induction enumeration with
  | nil => exact .nil
  | entity _ inside after ihInside ihAfter =>
    refine .cons ?_ (List.pairwise_append.mpr ⟨within ihInside, ihAfter, apart after⟩)
    refine List.forall_mem_append.mpr ⟨?_, lt_of_after after []⟩
    intro row member
    obtain ⟨inner, known, rfl⟩ := List.mem_map.mp member
    obtain ⟨first, rest, place, -⟩ := inside.exists_cons inner known
    refine List.cons_lt_cons_iff.mpr (.inr ⟨rfl, ?_⟩)
    rw [place]
    exact List.nil_lt_cons first rest
  | transparent _ _ after ihInside ihAfter =>
    exact List.pairwise_append.mpr ⟨within ihInside, ihAfter, apart after⟩
  | hidden _ _ ih => exact ih

/-- The cursor of a row is visible, and of the kind of an entity. -/
structure Sound (view : PathView) (path : String) (cursors : List Cursor) (row : LiftedCursor) :
    Prop where
  visible : Visible view path cursors row.place
  found : ∃ children, Cursor.at? cursors row.place = some (.node row.data children)
  known : row.data.kind = some row.kind
  lifted : row.kind ∈ entityKinds

private theorem getElem?_of_drop {all rest : List Cursor} {cursor : Cursor}
    (split : all.drop number = cursor :: rest) :
    all[number]? = some cursor ∧ all.drop (number + 1) = rest := by
  constructor
  · rw [← Nat.add_zero number, ← List.getElem?_drop, split]
    rfl
  · rw [← List.drop_drop, split]
    rfl

private theorem Sound.under {all children : List Cursor} {data : CursorData} {row : LiftedCursor}
    (sound : Sound view path children row) (found : all[number]? = some (.node data children))
    (shown : data.IsShown view path) : Sound view path all (row.under number) := by
  obtain ⟨below, place⟩ := sound.found
  exact
    { visible := sound.visible.cons found shown
      found := ⟨below, by
        rw [LiftedCursor.under, Cursor.at?_cons found sound.visible.ne_nil]
        exact place⟩
      known := sound.known
      lifted := sound.lifted }

theorem sound (enumeration : Enumeration view path parent id number cursors rows)
    {all : List Cursor} (split : all.drop number = cursors) :
    ∀ row ∈ rows, Sound view path all row := by
  -- places count from the start of `all`, of which `cursors` are those from `number` on
  induction enumeration generalizing all with
  | nil => simp
  | @entity _ id number data kind children rest inner more role inside after ihInside ihAfter =>
    obtain ⟨found, later⟩ := getElem?_of_drop split
    cases CursorData.hasRole_of_role role with
    | entity known lifted shown =>
      have here : Cursor.at? all [number] = some (.node data children) := by
        rw [Cursor.at?_singleton, found]
      refine List.forall_mem_cons.mpr ⟨⟨.top here shown, ⟨_, here⟩, known, lifted⟩, ?_⟩
      refine List.forall_mem_append.mpr ⟨?_, ihAfter later⟩
      intro row member
      obtain ⟨below, known, rfl⟩ := List.mem_map.mp member
      exact (ihInside List.drop_zero below known).under found shown
  | @transparent _ _ number data children rest inner more role inside after ihInside ihAfter =>
    obtain ⟨found, later⟩ := getElem?_of_drop split
    cases CursorData.hasRole_of_role role with
    | transparent _ _ shown =>
      refine List.forall_mem_append.mpr ⟨?_, ihAfter later⟩
      intro row member
      obtain ⟨below, known, rfl⟩ := List.mem_map.mp member
      exact (ihInside List.drop_zero below known).under found shown
  | hidden _ _ ih => exact ih (getElem?_of_drop split).2

theorem Sound.wanted {row : LiftedCursor} (sound : Sound view path cursors row) :
    Liftable view path cursors row.place := by
  obtain ⟨children, found⟩ := sound.found
  exact ⟨sound.visible, _, row.kind, found, sound.known, sound.lifted⟩

theorem complete (enumeration : Enumeration view path parent id number cursors rows)
    {all : List Cursor} (split : all.drop number = cursors) {first : Nat} {inside : Place}
    (bound : number ≤ first) (wanted : Liftable view path all (first :: inside)) :
    ∃ row ∈ rows, row.place = first :: inside := by
  have within {number : Nat} {inner : List LiftedCursor} {place : Place}
      (listed : ∃ row ∈ inner, row.place = place) :
      ∃ row ∈ inner.map (LiftedCursor.under number), row.place = number :: place := by
    obtain ⟨row, member, rfl⟩ := listed
    exact ⟨row.under number, List.mem_map_of_mem member, rfl⟩
  induction enumeration generalizing all first inside with
  | @nil _ _ number =>
    obtain ⟨cursor, found, -⟩ := wanted.visible.of_cons
    rw [List.drop_eq_nil_iff] at split
    rw [List.getElem?_eq_none (by omega)] at found
    cases found
  | @entity parent id number data kind children rest inner more role below after ihBelow ihAfter =>
    obtain ⟨found, later⟩ := getElem?_of_drop split
    rcases Nat.eq_or_lt_of_le bound with rfl | behind
    · cases inside with
      | nil => exact ⟨_, List.mem_cons_self, rfl⟩
      | cons second deeper =>
        have listed := ihBelow List.drop_zero (Nat.zero_le _) (wanted.inside found (by simp))
        obtain ⟨row, member, place⟩ := within listed
        exact ⟨row, List.mem_cons_of_mem _ (List.mem_append_left _ member), place⟩
    · obtain ⟨row, member, place⟩ := ihAfter later behind wanted
      exact ⟨row, List.mem_cons_of_mem _ (List.mem_append_right _ member), place⟩
  | @transparent parent id number data children rest inner more role below after ihBelow ihAfter =>
    obtain ⟨found, later⟩ := getElem?_of_drop split
    rcases Nat.eq_or_lt_of_le bound with rfl | behind
    · cases inside with
      | nil =>
        obtain ⟨cursor, kind, place, known, lifted⟩ := wanted.kind
        rw [Cursor.at?_singleton, found] at place
        cases place
        cases CursorData.hasRole_of_role role with
        | transparent same unlifted _ =>
          cases same.symm.trans known
          exact absurd lifted unlifted
      | cons second deeper =>
        have listed := ihBelow List.drop_zero (Nat.zero_le _) (wanted.inside found (by simp))
        obtain ⟨row, member, place⟩ := within listed
        exact ⟨row, List.mem_append_left _ member, place⟩
    · obtain ⟨row, member, place⟩ := ihAfter later behind wanted
      exact ⟨row, List.mem_append_right _ member, place⟩
  | hidden hidden _ ih =>
    obtain ⟨found, later⟩ := getElem?_of_drop split
    rcases Nat.eq_or_lt_of_le bound with rfl | behind
    · obtain ⟨cursor, same, shown, -⟩ := wanted.visible.of_cons
      cases same.symm.trans found
      exact absurd shown hidden
    · exact ih later behind wanted

/-- Each entity goes below that of the nearest cursor above that becomes one. -/
theorem encloses (enumeration : Enumeration view path parent id number cursors rows) :
    ∀ row ∈ rows, Encloses (rows.map LiftedCursor.name) parent row.place row.parent := by
  have within (number : Nat) (inner : List LiftedCursor) :
      ∀ name ∈ (inner.map (LiftedCursor.under number)).map LiftedCursor.name,
        ∃ inside, name.1 = number :: inside := by
    simp [LiftedCursor.under, LiftedCursor.name]
  have behind {number parent id : Nat} {rest : List Cursor} {more : List LiftedCursor}
      (after : Enumeration view path parent id (number + 1) rest more) :
      ∀ name ∈ more.map LiftedCursor.name, ∃ later inside,
        name.1 = later :: inside ∧ number + 1 ≤ later := by
    intro name member
    obtain ⟨row, known, rfl⟩ := List.mem_map.mp member
    exact after.exists_cons row known
  induction enumeration with
  | nil => simp
  | @entity parent id number data kind _ rest inner more role inside after ihInside ihAfter =>
    let row : LiftedCursor := ⟨[number], data, kind, id, parent⟩
    have names : (row :: (inner.map (LiftedCursor.under number) ++ more)).map LiftedCursor.name =
        (([number], id) :: (inner.map (LiftedCursor.under number)).map LiftedCursor.name) ++
          more.map LiftedCursor.name := by
      rw [List.map_cons, List.map_append]
      rfl
    rw [names]
    -- nothing is above the cursor itself, which is above what is inside, but not above what follows
    refine List.forall_mem_cons.mpr ⟨.inr ⟨rfl, ?_⟩, List.forall_mem_append.mpr ⟨?_, ?_⟩⟩
    · have whole := (Enumeration.entity role inside after).exists_cons
      intro name member
      rw [← names] at member
      obtain ⟨row, known, rfl⟩ := List.mem_map.mp member
      obtain ⟨first, rest, place, -⟩ := whole row known
      rw [LiftedCursor.name, place]
      exact not_isAbove_singleton
    · intro row member
      obtain ⟨below, known, rfl⟩ := List.mem_map.mp member
      have deeper : below.place ≠ [] := by
        obtain ⟨first, rest, place, -⟩ := inside.exists_cons below known
        simp [place]
      exact (((ihInside below known).under number).cons deeper (within number inner)).append_left
        (behind after)
    · intro row known
      refine (ihAfter row known).append_right (after.exists_cons row known) ?_
      exact List.forall_mem_cons.mpr ⟨⟨[], rfl⟩, within number inner⟩
  | @transparent _ _ number data children rest inner more role inside after ihInside ihAfter =>
    rw [List.map_append]
    refine List.forall_mem_append.mpr ⟨?_, ?_⟩
    · intro row member
      obtain ⟨below, known, rfl⟩ := List.mem_map.mp member
      exact ((ihInside below known).under number).append_left (behind after)
    · intro row known
      exact (ihAfter row known).append_right (after.exists_cons row known) (within number inner)
  | hidden _ _ ih => exact ih

end Enumeration

end UnitLift
