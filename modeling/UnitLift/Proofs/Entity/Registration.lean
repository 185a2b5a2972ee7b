import Mathlib.Data.List.Induction
import UnitLift.Entity.Index

/-! Entities that several parsers register in one index. Under each key the last definition prevails, or
else the last entity, and what kind of entity is found does not hang on how the parsers take turns. -/

namespace UnitLift

namespace EntityGraph

def key? (graph : EntityGraph) (id : EntityId) : Option String := (graph.get? id).map Entity.key

def isDefinition (graph : EntityGraph) (id : EntityId) : Bool :=
  (graph.get? id).any (·.isDefinition)

def goesBy (graph : EntityGraph) (key : String) (id : EntityId) : Bool := graph.key? id == some key

/-- The entity goes by a key and is a definition. -/
def defines (graph : EntityGraph) (key : String) (id : EntityId) : Bool :=
  graph.goesBy key id && graph.isDefinition id

/-- Two graphs show the same of an entity, as far as that matters for registering it. -/
def Agrees (graph other : EntityGraph) (id : EntityId) : Prop :=
  graph.key? id = other.key? id ∧ graph.isDefinition id = other.isDefinition id

instance (graph other : EntityGraph) (id : EntityId) : Decidable (graph.Agrees other id) :=
  inferInstanceAs (Decidable (_ ∧ _))

end EntityGraph

namespace EntityIndex

variable {graph : EntityGraph} {index : EntityIndex} {key : String} {ids : List EntityId}
  {id : EntityId}

/-- The last definition among the entities that go by a key, or else the last of these entities. -/
def prevailing? (graph : EntityGraph) (key : String) (ids : List EntityId) : Option EntityId :=
  (ids.filter (graph.defines key)).getLast?.or (ids.filter (graph.goesBy key)).getLast?

theorem replaces_eq (graph : EntityGraph) (existing new : EntityId) :
    replaces graph existing new = (graph.isDefinition new || !graph.isDefinition existing) := rfl

/-- An entity is written under its key, unless a declaration would take the place of a definition. -/
theorem register_eq (graph : EntityGraph) (index : EntityIndex) (id : EntityId) :
    index.register graph id =
      match graph.key? id with
      | none => index
      | some key =>
        if (index.lookup key).all (replaces graph · id) then
          { index with entities := index.entities.insert key id }
        else index := by
  rw [register, EntityGraph.key?]
  cases graph.get? id with
  | none => rfl
  | some entity =>
    simp only [Option.map_some, lookup]
    split
    · rename_i known
      simp [known]
    · rename_i existing known
      simp [known]

theorem lookup_register (graph : EntityGraph) (index : EntityIndex) (id : EntityId) (key : String) :
    (index.register graph id).lookup key =
      if graph.goesBy key id && (index.lookup key).all (replaces graph · id) then some id
      else index.lookup key := by
  rw [register_eq, EntityGraph.goesBy]
  cases graph.key? id with
  | none => rfl
  | some own =>
    have written : ({ index with entities := index.entities.insert own id } : EntityIndex).lookup key =
        if own == key then some id else index.lookup key := Table.get?_insert ..
    by_cases same : own = key
    · subst same
      by_cases gives : (index.lookup own).all (replaces graph · id) = true
      · simp [gives, written]
      · simp [gives]
    · by_cases gives : (index.lookup own).all (replaces graph · id) = true
      · simp [gives, same, written]
      · simp [gives, same]

theorem any_isDefinition_prevailing? (graph : EntityGraph) (key : String) (ids : List EntityId) :
    (prevailing? graph key ids).any graph.isDefinition = ids.any (graph.defines key) := by
  rw [prevailing?]
  cases last : (ids.filter (graph.defines key)).getLast? with
  | some id =>
    have member := List.mem_filter.mp (List.mem_of_getLast? last)
    have defines := member.2
    rw [EntityGraph.defines, Bool.and_eq_true] at defines
    rw [Option.some_or, Option.any_some, defines.2, List.any_eq_true.mpr ⟨id, member⟩]
  | none =>
    have none : ∀ id ∈ ids, ¬graph.defines key id = true :=
      List.filter_eq_nil_iff.mp (List.getLast?_eq_none_iff.mp last)
    rw [Option.none_or, List.any_eq_false.mpr none]
    cases lastNamed : (ids.filter (graph.goesBy key)).getLast? with
    | none => rfl
    | some id =>
      obtain ⟨member, named⟩ := List.mem_filter.mp (List.mem_of_getLast? lastNamed)
      have undefined := none id member
      rw [EntityGraph.defines, named, Bool.true_and] at undefined
      simpa using undefined

theorem isSome_prevailing? (graph : EntityGraph) (key : String) (ids : List EntityId) :
    (prevailing? graph key ids).isSome = ids.any (graph.goesBy key) := by
  have narrower : ∀ id, graph.defines key id = true → graph.goesBy key id = true := by
    intro id defines
    rw [EntityGraph.defines, Bool.and_eq_true] at defines
    exact defines.1
  rw [prevailing?, Option.isSome_or, Bool.eq_iff_iff]
  simp only [Bool.or_eq_true, List.getLast?_isSome, ne_eq, List.filter_eq_nil_iff, List.any_eq_true]
  grind

theorem mem_of_prevailing? (prevails : prevailing? graph key ids = some id) : id ∈ ids := by
  rw [prevailing?, Option.or_eq_some_iff] at prevails
  rcases prevails with last | ⟨-, last⟩
  · exact (List.mem_filter.mp (List.mem_of_getLast? last)).1
  · exact (List.mem_filter.mp (List.mem_of_getLast? last)).1

theorem prevailing?_concat (graph : EntityGraph) (key : String) (ids : List EntityId)
    (id : EntityId) :
    prevailing? graph key (ids ++ [id]) =
      if graph.goesBy key id && (prevailing? graph key ids).all (replaces graph · id) then some id
      else prevailing? graph key ids := by
  by_cases named : graph.goesBy key id = true
  · by_cases definition : graph.isDefinition id = true
    · simp [prevailing?, List.filter_append, EntityGraph.defines, named, definition, replaces_eq]
    · have declaration (existing : EntityId) :
          replaces graph existing id = !graph.isDefinition existing := by
        simp [replaces_eq, definition]
      have appended : prevailing? graph key (ids ++ [id]) =
          (ids.filter (graph.defines key)).getLast?.or (some id) := by
        simp [prevailing?, List.filter_append, EntityGraph.defines, named, definition]
      simp only [appended, named, declaration, Bool.true_and]
      cases last : (ids.filter (graph.defines key)).getLast? with
      | some first =>
        have stands : prevailing? graph key ids = some first := by rw [prevailing?, last, Option.some_or]
        have defines := (List.mem_filter.mp (List.mem_of_getLast? last)).2
        rw [EntityGraph.defines, Bool.and_eq_true] at defines
        simp [stands, defines.2]
      | none =>
        have none := List.filter_eq_nil_iff.mp (List.getLast?_eq_none_iff.mp last)
        have kind := any_isDefinition_prevailing? graph key ids
        rw [List.any_eq_false.mpr none] at kind
        cases known : prevailing? graph key ids with
        | none => rfl
        | some first =>
          rw [known] at kind
          simp_all
  · simp [prevailing?, List.filter_append, EntityGraph.defines, named]

theorem registerAll_concat (graph : EntityGraph) (ids : List EntityId) (id : EntityId) :
    registerAll graph {} (ids ++ [id]) = (registerAll graph {} ids).register graph id := by
  simp only [registerAll, List.foldl_append, List.foldl_cons, List.foldl_nil]

/-- Whatever is registered, and in whatever order: the last definition is found under a key, or else the
last entity. -/
theorem lookup_registerAll (graph : EntityGraph) (ids : List EntityId) (key : String) :
    (registerAll graph {} ids).lookup key = prevailing? graph key ids := by
  induction ids using List.reverseRecOn with
  | nil => rfl
  | append_singleton ids id ih => rw [registerAll_concat, lookup_register, prevailing?_concat, ih]

theorem keys_register (graph : EntityGraph) (index : EntityIndex) (id : EntityId) :
    (index.register graph id).entities.keys =
      match graph.key? id with
      | none => index.entities.keys
      | some key =>
        if index.entities.keys.contains key then index.entities.keys
        else index.entities.keys ++ [key] := by
  rw [register_eq]
  cases graph.key? id with
  | none => rfl
  | some key =>
    simp only
    cases known : index.lookup key with
    | none => exact Table.keys_insert ..
    | some existing =>
      have member := Table.mem_keys_of_get? known
      split
      · exact Table.keys_insert ..
      · simp [member]

/-- The keys are those of all registered entities, each once. -/
theorem keys_registerAll (graph : EntityGraph) (ids : List EntityId) :
    (registerAll graph {} ids).entities.keys = (ids.filterMap graph.key?).eraseDups := by
  induction ids using List.reverseRecOn with
  | nil => rfl
  | append_singleton ids id ih =>
    rw [registerAll_concat, keys_register, ih, List.filterMap_append]
    cases named : graph.key? id with
    | none => simp [named]
    | some key =>
      have alone : [id].filterMap graph.key? = [key] := by simp [named]
      rw [alone, Table.eraseDups_concat]
      by_cases known : key ∈ ids.filterMap graph.key? <;> simp [known]

theorem register_congr {early late : EntityGraph} (own : early.Agrees late id)
    (others : ∀ key existing, index.lookup key = some existing → early.Agrees late existing) :
    index.register early id = index.register late id := by
  rw [register_eq, register_eq, own.1]
  cases late.key? id with
  | none => rfl
  | some key =>
    have same : (index.lookup key).all (replaces early · id) =
        (index.lookup key).all (replaces late · id) := by
      cases known : index.lookup key with
      | none => rfl
      | some existing =>
        simp only [Option.all_some, replaces_eq, own.2, (others key existing known).2]
    simp only [same]

/-- A call that registers an entity, in the graph as it is at the time. -/
structure Registration where
  graph : EntityGraph
  id : EntityId

def ofCalls (calls : List Registration) : EntityIndex :=
  calls.foldl (fun index call => index.register call.graph call.id) {}

/-- Entities stay as they are once they are registered: each call finds its own entity, and those of the
calls before, as they are in the end. -/
def Steady (graph : EntityGraph) (calls : List Registration) : Prop :=
  ∀ number (known : number < calls.length), ∀ id ∈ (calls.take (number + 1)).map (·.id),
    calls[number].graph.Agrees graph id

instance (graph : EntityGraph) (calls : List Registration) : Decidable (Steady graph calls) :=
  inferInstanceAs (Decidable (∀ number (known : number < calls.length),
    ∀ id ∈ (calls.take (number + 1)).map (·.id), calls[number].graph.Agrees graph id))

/-- As entities stay as they are, all calls may as well be made in the graph of the end. -/
theorem ofCalls_eq_registerAll {calls : List Registration} (steady : Steady graph calls) :
    ofCalls calls = registerAll graph {} (calls.map (·.id)) := by
  induction calls using List.reverseRecOn with
  | nil => rfl
  | append_singleton calls call ih =>
    have before : Steady graph calls := by
      intro number known id member
      have agrees := steady number (by simp; omega) id
        (by rwa [List.take_append_of_le_length (by omega)])
      rwa [List.getElem_append_left known] at agrees
    have now : ∀ id ∈ (calls ++ [call]).map (·.id), call.graph.Agrees graph id := by
      have agrees := steady calls.length (by simp)
      rwa [List.getElem_concat_length rfl, List.take_of_length_le (by simp)] at agrees
    have last : ofCalls (calls ++ [call]) = (ofCalls calls).register call.graph call.id := by
      simp only [ofCalls, List.foldl_append, List.foldl_cons, List.foldl_nil]
    rw [last, ih before, List.map_append, List.map_singleton, registerAll_concat]
    apply register_congr (now call.id (by simp))
    intro key existing found
    rw [lookup_registerAll] at found
    have member := mem_of_prevailing? found
    exact now existing (by simp [List.mem_map.mp member])

end EntityIndex

/-- An order of the calls of several callers, in which each caller makes its own in turn. -/
inductive Interleaves {α : Type} : List (List α) → List α → Prop
  | done {queues : List (List α)} (finished : ∀ queue ∈ queues, queue = []) : Interleaves queues []
  | next (before : List (List α)) {after : List (List α)} {call : α} {queue order : List α}
      (others : Interleaves (before ++ queue :: after) order) :
      Interleaves (before ++ (call :: queue) :: after) (call :: order)

/-- No call is lost, and none is made that no caller makes. -/
theorem Interleaves.mem_iff {α : Type} {queues : List (List α)} {order : List α}
    (interleaves : Interleaves queues order) (call : α) :
    call ∈ order ↔ ∃ queue ∈ queues, call ∈ queue := by
  induction interleaves with
  | done finished =>
    simp only [List.not_mem_nil, false_iff, not_exists, not_and]
    intro queue member inside
    rw [finished queue member] at inside
    cases inside
  | next _ _ ih =>
    simp only [List.mem_cons, ih, List.mem_append]
    grind

namespace EntityIndex

variable {graph : EntityGraph} {queues : List (List EntityId)} {calls : List Registration}

private theorem any_of_interleaves {order : List EntityId} (interleaves : Interleaves queues order)
    (test : EntityId → Bool) : order.any test = queues.any (·.any test) := by
  rw [Bool.eq_iff_iff]
  simp only [List.any_eq_true, interleaves.mem_iff]
  grind

/-- Several parsers may register their entities in any order: no definition is lost. Which keys are
known, and which of them stand for definitions, depends on what is registered only, and so does the
definition that a key stands for if it has no other. -/
theorem definitions_prevail (steady : Steady graph calls)
    (interleaves : Interleaves queues (calls.map (·.id))) :
    let index := ofCalls calls
    (∀ key, index.lookup key = prevailing? graph key (calls.map (·.id)) ∧
      index.contains key = (index.lookup key).isSome) ∧
    index.size = ((calls.map (·.id)).filterMap graph.key?).eraseDups.length ∧
    ∀ key, (index.lookup key).isSome = queues.any (·.any (graph.goesBy key)) ∧
      (index.lookup key).any graph.isDefinition = queues.any (·.any (graph.defines key)) ∧
      ∀ id, (∃ queue ∈ queues, id ∈ queue) → graph.defines key id = true →
        (∀ queue ∈ queues, ∀ other ∈ queue, graph.defines key other = true → other = id) →
        index.lookup key = some id := by
  intro index
  have fills : index = registerAll graph {} (calls.map (·.id)) := ofCalls_eq_registerAll steady
  have found (key : String) : index.lookup key = prevailing? graph key (calls.map (·.id)) := by
    rw [fills, lookup_registerAll]
  refine ⟨fun key => ⟨found key, rfl⟩, ?_, fun key => ⟨?_, ?_, ?_⟩⟩
  · have keys : index.entities.keys.length = index.size := List.length_map _
    rw [← keys, fills, keys_registerAll]
  · rw [found, isSome_prevailing?, any_of_interleaves interleaves]
  · rw [found, any_isDefinition_prevailing?, any_of_interleaves interleaves]
  · intro id registered defines only
    rw [found, prevailing?]
    have member := List.mem_filter.mpr ⟨(interleaves.mem_iff id).mpr registered, defines⟩
    obtain ⟨last, ends⟩ := Option.isSome_iff_exists.mp
      (List.getLast?_isSome.mpr (List.ne_nil_of_mem member))
    obtain ⟨inside, definesLast⟩ := List.mem_filter.mp (List.mem_of_getLast? ends)
    obtain ⟨queue, known, among⟩ := (interleaves.mem_iff last).mp inside
    rw [ends, Option.some_or, only queue known last among definesLast]

/-- The graph of a function with a definition between two declarations, and of another function, when
so many of the entities have been created. -/
def sharedSample (created : Nat) : EntityGraph :=
  let entity (usr : String) (isDefinition : Bool) : Entity :=
    { name := usr, kind := "FUNCTION_DECL", extent := ⟨"/src/a.cpp", 1, 1, 1, 1⟩, usr, isDefinition
      parent := none, children := [], uuid := "" }
  ⟨([entity "f" false, entity "f" true, entity "f" false, entity "g" false].take created).toArray⟩

theorem definitions_prevail_sample :
    let created : List Registration :=
      [⟨sharedSample 1, 0⟩, ⟨sharedSample 2, 1⟩, ⟨sharedSample 3, 2⟩, ⟨sharedSample 4, 3⟩]
    let late : List Registration :=
      [⟨sharedSample 4, 2⟩, ⟨sharedSample 4, 0⟩, ⟨sharedSample 4, 3⟩, ⟨sharedSample 4, 1⟩]
    Interleaves [[0, 1], [2, 3]] (created.map (·.id)) ∧ (ofCalls created).lookup "f" = some 1 ∧
      Interleaves [[0, 1], [2, 3]] (late.map (·.id)) ∧ (ofCalls late).lookup "f" = some 1 := by
  intro created late
  have inTurn : Interleaves [[0, 1], [2, 3]] (created.map (·.id)) :=
    .next [] (.next [] (.next [[]] (.next [[]] (.done (by simp)))))
  have mixed : Interleaves [[0, 1], [2, 3]] (late.map (·.id)) :=
    .next [[0, 1]] (.next [] (.next [[1]] (.next [] (.done (by simp)))))
  have growing : Steady (sharedSample 4) created := by decide +kernel
  have grown : Steady (sharedSample 4) late := by decide +kernel
  have alone : ∀ queue ∈ [[0, 1], [2, 3]], ∀ other ∈ queue,
      (sharedSample 4).defines "f" other = true → other = 1 := by
    decide +kernel
  have defines : (sharedSample 4).defines "f" 1 = true := by decide +kernel
  refine ⟨inTurn, ?_, mixed, ?_⟩
  · exact ((definitions_prevail growing inTurn).2.2 "f").2.2 1 (by simp) defines alone
  · exact ((definitions_prevail grown mixed).2.2 "f").2.2 1 (by simp) defines alone

end EntityIndex

end UnitLift
