import UnitLift.Parse.Cursor

/-! Outlines that are added to a graph. New entities get consecutive names in the order of the
outlines, parents first, and the graph around them changes only by the children of what they are
planted under. -/

namespace UnitLift

namespace Outline

/-- Induction on a list of outlines: on the children of the first one and on the rest. -/
theorem list_induction {motive : List Outline → Prop} (nil : motive [])
    (cons : ∀ content children rest, motive children → motive rest →
      motive (.node content children :: rest)) :
    ∀ outlines, motive outlines
  | [] => nil
  | .node content children :: rest =>
    cons content children rest (list_induction nil cons children) (list_induction nil cons rest)

/-- How many entities outlines are for. -/
def count : List Outline → Nat
  | [] => 0
  | .node _ children :: rest => 1 + count children + count rest

/-- The names of the topmost entities of outlines whose first entity is named `start`. -/
def tops (start : Nat) : List Outline → List Nat
  | [] => []
  | .node _ children :: rest => start :: tops (start + 1 + count children) rest

end Outline

namespace EntityGraph

variable {graph grown : EntityGraph} {parent id : Nat}

theorem get?_modify (graph : EntityGraph) (id other : Nat) (change : Entity → Entity) :
    (graph.modify id change).get? other =
      if id = other then (graph.get? other).map change else graph.get? other :=
  Array.getElem?_modify

/-- An entity that has just been created below another. -/
def freshEntity (graph : EntityGraph) (content : EntityContent) (parent : Nat) : Entity :=
  { content with
    parent := some parent, children := []
    uuid := Sha256.ofText (Entity.digestText content (graph.parentUuid (some parent))) }

/-- A graph that has grown below `parent`: by `count` entities, of which `children` are its own. -/
structure GrowsTo (graph grown : EntityGraph) (parent : Nat) (children : List Nat)
    (count : Nat) : Prop where
  size : grown.entities.size = graph.entities.size + count
  others : ∀ id < graph.entities.size, id ≠ parent → grown.get? id = graph.get? id
  parent : grown.get? parent =
    (graph.get? parent).map fun entity => { entity with children := entity.children ++ children }

namespace GrowsTo

variable {children more : List Nat} {count added : Nat} {last : EntityGraph}

theorem refl (graph : EntityGraph) (parent : Nat) : GrowsTo graph graph parent [] 0 :=
  { size := rfl
    others := fun _ _ _ => rfl
    parent := by cases found : graph.get? parent <;> simp }

theorem trans (first : GrowsTo graph grown parent children count)
    (second : GrowsTo grown last parent more added) :
    GrowsTo graph last parent (children ++ more) (count + added) :=
  { size := by rw [second.size, first.size, Nat.add_assoc]
    others := by
      intro id known apart
      rw [second.others id (by rw [first.size]; omega) apart, first.others id known apart]
    parent := by
      rw [second.parent, first.parent, Option.map_map]
      simp [Function.comp_def] }

/-- The digest of an entity does not change when it gets children. -/
theorem parentUuid (grows : GrowsTo graph grown parent children count)
    (known : id < graph.entities.size) :
    grown.parentUuid (some id) = graph.parentUuid (some id) := by
  by_cases same : id = parent
  · subst same
    simp [EntityGraph.parentUuid, grows.parent, Option.map_map, Function.comp_def]
  · simp [EntityGraph.parentUuid, grows.others id known same]

end GrowsTo

private theorem get?_create (content : EntityContent) (id : Nat) :
    (graph.create content (some parent)).2.get? id =
      if id = graph.entities.size then some (graph.freshEntity content parent)
      else graph.get? id :=
  Array.getElem?_push

theorem growsTo_addChild_create (content : EntityContent) (known : parent < graph.entities.size) :
    let sprouted := (graph.create content (some parent)).2.addChild parent graph.entities.size
    GrowsTo graph sprouted parent [graph.entities.size] 1 ∧
      sprouted.get? graph.entities.size = some (graph.freshEntity content parent) := by
  intro sprouted
  have look (id : Nat) : sprouted.get? id =
      if parent = id then (graph.get? id).map fun entity =>
        { entity with children := entity.children ++ [graph.entities.size] }
      else if id = graph.entities.size then some (graph.freshEntity content parent)
      else graph.get? id := by
    simp only [sprouted, addChild, get?_modify, get?_create]
    by_cases self : parent = id
    · have old : graph.entities.size ≠ id := by omega
      simp [self, old, Ne.symm old]
    · by_cases new : id = graph.entities.size
      · subst new
        simp [self, freshEntity]
      · simp [self, new, Ne.symm new]
  refine ⟨{ size := ?_, others := ?_, parent := ?_ }, ?_⟩
  · simp [sprouted, addChild, EntityGraph.modify, create]
  · intro id inside apart
    rw [look, if_neg (Ne.symm apart), if_neg (by omega)]
  · rw [look, if_pos rfl]
  · rw [look, if_neg (by omega), if_pos rfl]

end EntityGraph

namespace Outline

/-- Outlines stand in a graph below `parent`, under consecutive names. -/
inductive Planted (graph : EntityGraph) : Nat → Nat → List Outline → Prop
  | nil {parent start : Nat} : Planted graph parent start []
  | cons {parent start : Nat} {content : EntityContent} {children rest : List Outline}
      (entity : graph.get? start =
        some { graph.freshEntity content parent with children := tops (start + 1) children })
      (below : Planted graph start (start + 1) children)
      (after : Planted graph parent (start + 1 + count children) rest) :
      Planted graph parent start (.node content children :: rest)

/-- Outlines stay planted while other parts of the graph change. -/
theorem Planted.congr {graph grown : EntityGraph} {parent start : Nat} {outlines : List Outline}
    (planted : Planted graph parent start outlines)
    (same : ∀ id, start ≤ id → id < start + count outlines → grown.get? id = graph.get? id)
    (uuid : grown.parentUuid (some parent) = graph.parentUuid (some parent)) :
    Planted grown parent start outlines := by
  induction planted with
  | nil => exact .nil
  | @cons parent start content children rest entity below after ihBelow ihAfter =>
    rw [count] at same
    have first : grown.get? start = graph.get? start := same start (by omega) (by omega)
    refine .cons ?_ (ihBelow ?_ ?_) (ihAfter ?_ uuid)
    · rw [first, entity, EntityGraph.freshEntity, EntityGraph.freshEntity, uuid]
    · intro id _ _
      exact same id (by omega) (by omega)
    · simp [EntityGraph.parentUuid, first]
    · intro id _ _
      exact same id (by omega) (by omega)

/-- The names of an outline: its own, those of its children, and those of what follows. -/
private theorem range'_names (start children rest : Nat) :
    List.range' start (1 + children + rest) =
      start :: List.range' (start + 1) children ++ List.range' (start + 1 + children) rest := by
  rw [Nat.add_assoc, Nat.add_comm 1, List.range'_succ, List.cons_append, List.range'_append_1]

theorem plantAll_eq (parent : Nat) (outlines : List Outline) (graph : EntityGraph)
    (known : parent < graph.entities.size) :
    ∃ grown, plantAll parent outlines graph =
        (List.range' graph.entities.size (count outlines), grown) ∧
      graph.GrowsTo grown parent (tops graph.entities.size outlines) (count outlines) ∧
      Planted grown parent graph.entities.size outlines := by
  induction outlines using list_induction generalizing parent graph with
  | nil =>
    refine ⟨graph, by simp [plantAll, count], ?_, .nil⟩
    simpa [tops, count] using EntityGraph.GrowsTo.refl graph parent
  | cons content children rest ihChildren ihRest =>
    let name := graph.entities.size
    let sprouted := (graph.create content (some parent)).2.addChild parent name
    obtain ⟨sprouts, entity⟩ := EntityGraph.growsTo_addChild_create content known
    have sproutedSize : sprouted.entities.size = name + 1 := sprouts.size
    obtain ⟨middle, plantChildren, branches, below⟩ := ihChildren name sprouted (by omega)
    rw [sproutedSize] at plantChildren branches below
    have middleSize : middle.entities.size = name + 1 + count children := by
      rw [branches.size, sproutedSize]
    obtain ⟨grown, plantRest, grows, after⟩ := ihRest parent middle (by omega)
    rw [middleSize] at plantRest grows after
    -- the children are planted below a new entity, so all older ones are as they were
    have middleGrows : graph.GrowsTo middle parent [name] (1 + count children) :=
      { size := by rw [middleSize, Nat.add_assoc]
        others := by
          intro id inside apart
          rw [branches.others id (by omega) (by omega), sprouts.others id inside apart]
        parent := by rw [branches.others parent (by omega) (by omega), sprouts.parent] }
    have whole := middleGrows.trans grows
    refine ⟨grown, ?_, ?_, .cons ?_ ?_ after⟩
    · change (let planted := plantAll name children sprouted
        let more := plantAll parent rest planted.2
        (name :: planted.1 ++ more.1, more.2)) = _
      rw [plantChildren]
      simp only
      rw [plantRest, count, range'_names]
    · rw [tops, count]
      exact whole
    · have digest := whole.parentUuid known
      rw [grows.others name (by omega) (by omega), branches.parent, entity, Option.map_some,
        EntityGraph.freshEntity, EntityGraph.freshEntity, digest, List.nil_append]
    · refine below.congr ?_ ?_
      · intro id _ _
        exact grows.others id (by omega) (by omega)
      · exact grows.parentUuid (by omega)

theorem count_append (first second : List Outline) :
    count (first ++ second) = count first + count second := by
  induction first using list_induction with
  | nil => simp [count]
  | cons content children rest _ ih =>
    rw [List.cons_append, count, count, ih]
    omega

theorem tops_append (start : Nat) (first second : List Outline) :
    tops start (first ++ second) = tops start first ++ tops (start + count first) second := by
  induction first using list_induction generalizing start with
  | nil => simp [tops, count]
  | cons content children rest _ ih =>
    rw [List.cons_append, tops, tops, ih, count, List.cons_append]
    simp only [Nat.add_assoc]

theorem Planted.of_append {graph : EntityGraph} {parent start : Nat} {first second : List Outline}
    (planted : Planted graph parent start (first ++ second)) :
    Planted graph parent start first ∧ Planted graph parent (start + count first) second := by
  induction first using list_induction generalizing start with
  | nil => exact ⟨.nil, by simpa [count] using planted⟩
  | cons content children rest _ ih =>
    cases planted with
    | cons entity below after =>
      obtain ⟨before, behind⟩ := ih after
      refine ⟨.cons entity below before, ?_⟩
      rw [count, ← Nat.add_assoc, ← Nat.add_assoc]
      exact behind

/-- Outlines that are planted are walked through in the order of their names. -/
theorem Planted.flatMap_walkTo {graph : EntityGraph} {parent start : Nat} {outlines : List Outline}
    (planted : Planted graph parent start outlines) {depth : Nat} (deep : count outlines ≤ depth) :
    (tops start outlines).flatMap (graph.walkTo depth) = List.range' start (count outlines) := by
  induction planted generalizing depth with
  | nil => simp [tops, count]
  | @cons parent start content children rest entity below after ihBelow ihAfter =>
    rw [count] at deep
    obtain ⟨levels, rfl⟩ : ∃ levels, depth = levels + 1 := ⟨depth - 1, by omega⟩
    have own : graph.childrenOf start = tops (start + 1) children := by
      simp [EntityGraph.childrenOf, entity]
    rw [tops, List.flatMap_cons, EntityGraph.walkTo, own, ihBelow (by omega), ihAfter (by omega),
      count, range'_names]

theorem Planted.below_eq {graph : EntityGraph} {root : Nat} {outlines : List Outline}
    (planted : Planted graph root (root + 1) outlines)
    (own : graph.childrenOf root = tops (root + 1) outlines)
    (few : count outlines ≤ graph.entities.size) :
    graph.below root = List.range' (root + 1) (count outlines) := by
  rw [EntityGraph.below, own]
  exact planted.flatMap_walkTo few

theorem lt_of_mem_tops {start top : Nat} {outlines : List Outline}
    (member : top ∈ tops start outlines) : start ≤ top := by
  induction outlines using list_induction generalizing start with
  | nil => simp [tops] at member
  | cons content children rest _ ih =>
    rw [tops, List.mem_cons] at member
    rcases member with same | later
    · omega
    · have := ih later
      omega

theorem nodup_tops (start : Nat) (outlines : List Outline) : (tops start outlines).Nodup := by
  induction outlines using list_induction generalizing start with
  | nil => simp [tops]
  | cons content children rest _ ih =>
    rw [tops, List.nodup_cons]
    refine ⟨?_, ih _⟩
    intro member
    have := lt_of_mem_tops member
    omega

end Outline

end UnitLift
