import UnitLift.Proofs.Compile.Calls
import UnitLift.Proofs.Entity.Planting
import UnitLift.Proofs.Parse.Enumeration
import UnitLift.Proofs.Parse.File

/-! What a parse makes of the cursors of a unit: one entity for each visible cursor of such a kind,
in the order of the tree, below the entity of the nearest cursor above that has one. -/

namespace UnitLift

open Outline (Planted count tops)

/-- A cursor is found in a graph as an entity below another. -/
structure LiftedCursor.StandsIn (view : PathView) (graph : EntityGraph) (row : LiftedCursor) :
    Prop where
  entity : ∃ children, children.Nodup ∧ graph.get? row.id =
    some { graph.freshEntity (row.data.content view row.kind) row.parent with children }
  listed : row.id ∈ graph.childrenOf row.parent

namespace Enumeration

variable {view : PathView} {path : String} {parent id number : Nat} {cursors : List Cursor}
  {rows : List LiftedCursor}

private theorem outlinesOf_of_entity {data : CursorData} {kind : String}
    (role : data.role view path = .entity kind) (children rest : List Cursor) :
    Cursor.outlinesOf view path (.node data children :: rest) =
      .node (data.content view kind) (Cursor.outlinesOf view path children) ::
        Cursor.outlinesOf view path rest := by
  rw [Cursor.outlinesOf, Cursor.outlines, role]
  rfl

private theorem outlinesOf_of_transparent {data : CursorData}
    (role : data.role view path = .transparent) (children rest : List Cursor) :
    Cursor.outlinesOf view path (.node data children :: rest) =
      Cursor.outlinesOf view path children ++ Cursor.outlinesOf view path rest := by
  rw [Cursor.outlinesOf, Cursor.outlines, role]

private theorem outlinesOf_of_hidden {data : CursorData} (hidden : ¬data.IsShown view path)
    (children rest : List Cursor) :
    Cursor.outlinesOf view path (.node data children :: rest) =
      Cursor.outlinesOf view path rest := by
  rw [Cursor.outlinesOf, Cursor.outlines]
  cases role : data.role view path with
  | entity kind =>
    cases CursorData.hasRole_of_role role with
    | entity _ _ shown => exact absurd shown hidden
  | transparent =>
    cases CursorData.hasRole_of_role role with
    | transparent _ _ shown => exact absurd shown hidden
  | unreadable => rfl
  | leftOut => rfl

theorem length_rows (enumeration : Enumeration view path parent id number cursors rows) :
    rows.length = count (Cursor.outlinesOf view path cursors) := by
  induction enumeration with
  | nil => simp [Cursor.outlinesOf, count]
  | entity role _ _ ihInside ihAfter =>
    rw [outlinesOf_of_entity role, count, ← ihInside, ← ihAfter]
    simp only [List.length_cons, List.length_append, List.length_map]
    omega
  | transparent role _ _ ihInside ihAfter =>
    rw [outlinesOf_of_transparent role, Outline.count_append, ← ihInside, ← ihAfter]
    simp
  | hidden hidden _ ih => rw [outlinesOf_of_hidden hidden, ih]

theorem standsIn (enumeration : Enumeration view path parent id number cursors rows)
    {graph : EntityGraph} (planted : Planted graph parent id (Cursor.outlinesOf view path cursors))
    (listed : ∀ top ∈ tops id (Cursor.outlinesOf view path cursors),
      top ∈ graph.childrenOf parent) :
    ∀ row ∈ rows, row.StandsIn view graph := by
  have within {number : Nat} {inner : List LiftedCursor}
      (stand : ∀ row ∈ inner, row.StandsIn view graph) :
      ∀ row ∈ inner.map (LiftedCursor.under number), row.StandsIn view graph := by
    intro row member
    obtain ⟨below, known, rfl⟩ := List.mem_map.mp member
    exact ⟨(stand below known).entity, (stand below known).listed⟩
  induction enumeration with
  | nil => simp
  | @entity _ id number data kind children rest inner more role inside after ihInside ihAfter =>
    rw [outlinesOf_of_entity role] at planted listed
    rw [tops] at listed
    cases planted with
    | cons entity below behind =>
      rw [← inside.length_rows] at behind listed
      have own : graph.childrenOf id = tops (id + 1) (Cursor.outlinesOf view path children) := by
        simp [EntityGraph.childrenOf, entity]
      refine List.forall_mem_cons.mpr ⟨⟨⟨_, Outline.nodup_tops _ _, entity⟩, ?_⟩, ?_⟩
      · exact listed id List.mem_cons_self
      · refine List.forall_mem_append.mpr ⟨within (ihInside below ?_), ihAfter behind ?_⟩
        · rw [own]
          exact fun top member => member
        · exact fun top member => listed top (List.mem_cons_of_mem _ member)
  | @transparent _ _ number data children rest inner more role inside after ihInside ihAfter =>
    rw [outlinesOf_of_transparent role] at planted listed
    rw [Outline.tops_append] at listed
    obtain ⟨below, behind⟩ := planted.of_append
    rw [← inside.length_rows] at behind listed
    refine List.forall_mem_append.mpr ⟨within (ihInside below ?_), ihAfter behind ?_⟩
    · exact fun top member => listed top (List.mem_append_left _ member)
    · exact fun top member => listed top (List.mem_append_right _ member)
  | hidden hidden _ ih =>
    rw [outlinesOf_of_hidden hidden] at planted listed
    exact ih planted listed

end Enumeration

/-- The entities below `root` are those of the cursors, in the order of the tree: one for each
visible cursor of the kind of an entity. `lifted` has the places of these cursors and the names of
their entities. -/
structure Lifts (view : PathView) (path : String) (cursors : List Cursor) (graph : EntityGraph)
    (root : EntityId) (lifted : List (Place × EntityId)) : Prop where
  below : graph.below root = lifted.map (·.2)
  distinct : (root :: lifted.map (·.2)).Nodup
  ordered : (lifted.map (·.1)).Pairwise (· < ·)
  wanted : ∀ place, place ∈ lifted.map (·.1) ↔ Liftable view path cursors place
  entity : ∀ place id, (place, id) ∈ lifted → ∃ data kind entity parent outer,
    (∃ children, Cursor.at? cursors place = some (.node data children)) ∧
      data.kind = some kind ∧ graph.get? id = some entity ∧
      entity.toEntityContent = data.content view kind ∧
      entity.parent = some parent ∧ Encloses lifted root place parent ∧
      graph.get? parent = some outer ∧ outer.children.count id = 1 ∧
      entity.uuid =
        Sha256.ofText (Entity.digestText entity.toEntityContent (some outer.uuid))

/-- What is planted below a root without other children has been lifted. -/
theorem exists_lifts {view : PathView} {path : String} {cursors : List Cursor}
    {graph : EntityGraph} {root : Nat} {entity : Entity} (found : graph.get? root = some entity)
    (children : entity.children = tops (root + 1) (Cursor.outlinesOf view path cursors))
    (planted : Planted graph root (root + 1) (Cursor.outlinesOf view path cursors))
    (few : count (Cursor.outlinesOf view path cursors) ≤ graph.entities.size) :
    ∃ lifted, Lifts view path cursors graph root lifted := by
  obtain ⟨rows, enumeration⟩ := Enumeration.exists_rows view path root (root + 1) 0 cursors
  have ids : (rows.map LiftedCursor.name).map (·.2) =
      List.range' (root + 1) (count (Cursor.outlinesOf view path cursors)) := by
    rw [List.map_map, ← enumeration.length_rows, ← enumeration.ids]
    rfl
  have places : (rows.map LiftedCursor.name).map (·.1) = rows.map LiftedCursor.place := by
    rw [List.map_map]
    rfl
  have own : graph.childrenOf root = tops (root + 1) (Cursor.outlinesOf view path cursors) := by
    simp [EntityGraph.childrenOf, found, children]
  have stands := enumeration.standsIn planted (by rw [own]; exact fun top member => member)
  have sound := enumeration.sound List.drop_zero
  refine ⟨rows.map LiftedCursor.name, ?_, ?_, ?_, ?_, ?_⟩
  · rw [ids, planted.below_eq own few]
  · rw [ids, List.nodup_cons, List.mem_range'_1]
    exact ⟨by omega, List.nodup_range'⟩
  · rw [places, List.pairwise_map]
    exact enumeration.ordered
  · intro place
    rw [places, List.mem_map]
    constructor
    · rintro ⟨row, member, rfl⟩
      exact (sound row member).wanted
    · intro wanted
      obtain ⟨first, inside, rfl⟩ := List.exists_cons_of_ne_nil wanted.visible.ne_nil
      exact enumeration.complete List.drop_zero (Nat.zero_le _) wanted
  · intro place id member
    obtain ⟨row, known, same⟩ := List.mem_map.mp member
    cases same
    have encloses := enumeration.encloses row known
    obtain ⟨grandchildren, -, entered⟩ := (stands row known).entity
    -- what the entity goes below is the root or another of the entities
    have parent : ∃ outer, graph.get? row.parent = some outer ∧ outer.children.Nodup := by
      rcases encloses with ⟨outer, named, -⟩ | ⟨same, -⟩
      · obtain ⟨above, knownAbove, same⟩ := List.mem_map.mp named
        have parent : above.id = row.parent := congrArg (·.2) same
        obtain ⟨siblings, nodup, entered⟩ := (stands above knownAbove).entity
        rw [parent] at entered
        exact ⟨_, entered, nodup⟩
      · rw [same]
        exact ⟨entity, found, children ▸ Outline.nodup_tops _ _⟩
    obtain ⟨outer, foundOuter, nodup⟩ := parent
    have listed : row.id ∈ outer.children := by
      have member := (stands row known).listed
      simpa [EntityGraph.childrenOf, foundOuter] using member
    refine ⟨row.data, row.kind, _, row.parent, outer, (sound row known).found,
      (sound row known).known, entered, rfl, rfl, encloses, foundOuter,
      List.count_eq_one_of_mem nodup listed, ?_⟩
    simp [EntityGraph.freshEntity, EntityGraph.parentUuid, foundOuter]

namespace Parser

variable {session left : Session}

theorem exists_lifts_of_grown {view : PathView} {target path : String}
    {cursors : List Cursor} {facts : FileFacts} {graph final : EntityGraph}
    {planted : List EntityId}
    (grew : grown graph path facts (Cursor.outlinesOf view target cursors) = (planted, final)) :
    (∃ lifted, Lifts view target cursors final graph.entities.size lifted) ∧
      planted = final.below graph.entities.size ∧
      (final.get? graph.entities.size).bind (·.facts) = some facts := by
  let rooted := (graph.createFile path facts).2
  have size : rooted.entities.size = graph.entities.size + 1 := Array.size_push _
  obtain ⟨entity, created, childless, known⟩ : ∃ entity,
      rooted.get? graph.entities.size = some entity ∧ entity.children = [] ∧
        entity.facts = some facts :=
    ⟨_, Array.getElem?_push_size, rfl, rfl⟩
  obtain ⟨other, plants, grows, stands⟩ := Outline.plantAll_eq graph.entities.size
    (Cursor.outlinesOf view target cursors) rooted (by omega)
  cases plants.symm.trans grew
  rw [size] at grows stands
  have found := grows.parent
  rw [created, Option.map_some, childless, List.nil_append] at found
  have few : count (Cursor.outlinesOf view target cursors) ≤ final.entities.size := by
    rw [grows.size]
    omega
  have own : final.childrenOf graph.entities.size =
      tops (graph.entities.size + 1) (Cursor.outlinesOf view target cursors) := by
    simp [EntityGraph.childrenOf, found]
  refine ⟨exists_lifts found rfl stands few, by rw [size, stands.below_eq own few], ?_⟩
  rw [found, Option.bind_some, known]

theorem parse_lifts {path : String} {config : AnyConfig} {root : EntityId}
    (ran : (parse (.path path) config).runFrom session = (.ok root, left)) :
    let view := session.world.pathView
    let target := view.resolve (Path.absolute session.world.currentDirectory path)
    ∃ cursors diagnostics rest lifted,
      session.world.units = .unit cursors diagnostics :: rest ∧
      Lifts view target cursors left.graph root lifted ∧
      left.index = ((lifted.map (·.2)).foldl (EntityIndex.register left.graph)
        session.index).registerFile left.graph root := by
  by_cases admitted : Admits session config
  · cases config with
    | plain flags => exact admitted.elim
    | library config =>
      obtain ⟨result, after, run, settled⟩ := exists_fileRun admitted path
      obtain ⟨rfl, rfl⟩ := eq_of_settle_ok (settled.symm.trans ran)
      cases run with
      | lifted first opened answered grew parser graph index =>
        obtain ⟨diagnostics, rest, units⟩ := units_of_outcomeOf answered
        obtain ⟨⟨lifted, lifts⟩, planted, -⟩ := exists_lifts_of_grown grew
        refine ⟨_, diagnostics, rest, lifted, units, ?_, ?_⟩
        · rw [graph]
          exact lifts
        · rw [graph, ← lifts.below, ← planted]
          exact index
  · obtain ⟨refusal, refused⟩ := runFrom_parse_of_not admitted (.path path)
    cases refused.symm.trans ran

/-- A namespace with a class, a function in a transparent cursor, and a variable of another file. -/
def liftedSample : List Cursor :=
  let place : CursorPlace := ⟨some "/src/a.cpp", 1, 1⟩
  [.node { kind := some "NAMESPACE", spelling := "lib", location := place, usr := "c:@N@lib" }
      [.node { kind := some "CLASS_DECL", spelling := "Box", location := place, usr := "c:@N@lib@S@Box" }
        []],
    .node { kind := some "LINKAGE_SPEC", location := place }
      [.node { kind := some "FUNCTION_DECL", spelling := "run", location := place, usr := "c:@F@run#" } []],
    .node { kind := some "VAR_DECL", location := ⟨some "/src/b.hpp", 1, 1⟩ } []]

/-- A session with a new parser, to which the library shows these cursors. -/
def liftSample : Session :=
  { defaults := .sample
    world :=
      { currentDirectory := "/src"
        children := [.runs { stdout := "# 1 \"/src/a.cpp\"\nint a;\n" }]
        units := [.unit liftedSample []] } }

/-- What is known of three entities that are registered, and of the file that they are in. -/
private def registeredSample (graph : EntityGraph) : List String × Option EntityId × Option EntityId :=
  let index := ([1, 2, 3].foldl (EntityIndex.register graph) {}).registerFile graph 0
  (index.entities.keys, index.lookup "c:@F@run#", index.lookupFile "/src/a.cpp")

theorem parse_lifts_sample :
    let config : AnyConfig := .library (.blank BuildDefaults.sample.toolchain)
    ∃ left lifted, (parse (.path "a.cpp") config).runFrom liftSample = (.ok 0, left) ∧
      Lifts liftSample.world.pathView "/src/a.cpp" liftedSample left.graph 0 lifted ∧
      (∃ id, ([1, 0], id) ∈ lifted) ∧ (∀ id, ([2], id) ∉ lifted) ∧
      left.index.entities.keys = ["c:@N@lib", "c:@N@lib@S@Box", "c:@F@run#"] ∧
      left.index.lookup "c:@F@run#" = some 3 ∧ left.index.lookupFile "/src/a.cpp" = some 0 := by
  intro config
  have ends : ((parse (.path "a.cpp") config).runFrom liftSample).1 = .ok 0 := by decide +kernel
  have target : liftSample.world.pathView.resolve
      (Path.absolute liftSample.world.currentDirectory "a.cpp") = "/src/a.cpp" := by
    decide +kernel
  have below : ((parse (.path "a.cpp") config).runFrom liftSample).2.graph.below 0 = [1, 2, 3] := by
    decide +kernel
  have known : registeredSample ((parse (.path "a.cpp") config).runFrom liftSample).2.graph =
      (["c:@N@lib", "c:@N@lib@S@Box", "c:@F@run#"], some 3, some 0) := by decide +kernel
  obtain ⟨left, ran⟩ := Work.exists_runFrom ends
  rw [ran] at below known
  obtain ⟨cursors, diagnostics, rest, lifted, units, lifts, index⟩ := parse_lifts ran
  obtain rfl : liftedSample = cursors := by cases units; rfl
  rw [target] at lifts
  have own : liftSample.world.pathView.resolve "/src/a.cpp" = "/src/a.cpp" := by decide +kernel
  have other : liftSample.world.pathView.resolve "/src/b.hpp" ≠ "/src/a.cpp" := by decide +kernel
  rw [← lifts.below, below] at index
  obtain ⟨keys, found, file⟩ := by simpa only [registeredSample, Prod.mk.injEq] using known
  refine ⟨left, lifted, ran, lifts, ?_, ?_, index ▸ keys, index ▸ found, index ▸ file⟩
  · have outer : Visible liftSample.world.pathView "/src/a.cpp" liftedSample [1] :=
      .top rfl ⟨⟨"LINKAGE_SPEC", rfl, .inr (by decide)⟩, _, rfl, own⟩
    have enclosed : Visible liftSample.world.pathView "/src/a.cpp" liftedSample ([1] ++ [0]) :=
      outer.child rfl ⟨⟨"FUNCTION_DECL", rfl, .inl (by decide)⟩, _, rfl, own⟩
    have listed := (lifts.wanted _).mpr ⟨enclosed, _, _, rfl, rfl, by decide⟩
    obtain ⟨⟨place, id⟩, member, rfl⟩ := List.mem_map.mp listed
    exact ⟨id, member⟩
  · intro id member
    have wanted := (lifts.wanted [2]).mp (List.mem_map_of_mem member)
    obtain ⟨cursor, found, ⟨-, file, place, inside⟩, -⟩ := wanted.visible.of_cons
    cases found
    cases place
    exact other inside

end Parser

end UnitLift
