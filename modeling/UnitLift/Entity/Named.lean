import UnitLift.Data.Access
import UnitLift.Entity.Index
import UnitLift.Failure

namespace UnitLift

open Access

/-- A graph and an index of entities, some of which have names. -/
structure NamedEntities where
  graph : EntityGraph := {}
  index : EntityIndex := {}
  /-- The last name that was given comes first. -/
  names : List (String × EntityId) := []

namespace NamedEntities

def find (state : NamedEntities) (name : String) : Except Fault EntityId :=
  ((state.names.lookup name).map .ok).getD (.error .unknownName)

def find? (state : NamedEntities) (name : Value) : Except Fault (Option EntityId) :=
  (text? name).mapM state.find

def nameOf? (state : NamedEntities) (id : EntityId) : Option String :=
  (state.names.find? fun (name, known) => known == id && state.names.lookup name == some id).map
    (·.1)

def give (state : NamedEntities) (name : String) (id : EntityId) (graph : EntityGraph) :
    NamedEntities :=
  { state with graph, names := (name, id) :: state.names }

/-- Changes a field of an entity. The identifier follows from other fields and cannot be changed. -/
def set (state : NamedEntities) (id : EntityId) (field : String) (v : Value) :
    Except Fault NamedEntities := do
  let parent ← if field == "parent" then state.find? v else .ok none
  let extent (change : Extent → Extent) (entity : Entity) : Entity :=
    { entity with extent := change entity.extent }
  let facts (change : FileFacts → FileFacts) (entity : Entity) : Entity :=
    { entity with facts := entity.facts.map change }
  let change : Entity → Entity ← match field with
    | "id" => .error .missingPart
    | "parent" => .ok ({ · with parent })
    | "name" => .ok ({ · with name := print v })
    | "kind" => .ok ({ · with kind := print v })
    | "usr" => .ok ({ · with usr := print v })
    | "uuid" => .ok ({ · with uuid := print v })
    | "type_info" => .ok ({ · with typeInfo := text? v })
    | "comment" => .ok ({ · with comment := print v })
    | "is_definition" => .ok ({ · with isDefinition := v.isTruthy })
    | "file" => .ok (extent ({ · with file := print v }))
    | "line" => .ok (extent ({ · with line := int v }))
    | "column" => .ok (extent ({ · with column := int v }))
    | "end_line" => .ok (extent ({ · with endLine := int v }))
    | "end_column" => .ok (extent ({ · with endColumn := int v }))
    | "had_errors" => .ok (facts ({ · with hadErrors := v.isTruthy }))
    | "full_include_paths" => .ok (facts ({ · with fullIncludePaths := v.isTruthy }))
    | _ => .ok fun entity => entity
  return { state with graph := state.graph.modify id change }

/-- An entity whose descendants are to be visited: there has to be an end to them. -/
def finite (state : NamedEntities) (id : EntityId) : Except Fault EntityId :=
  if state.graph.isEndless id then .error .nestedTooDeeply else .ok id

/-- The entities of a file, its root excluded. Only the root of a file has entities. -/
def entitiesOf (state : NamedEntities) (id : EntityId) : Except Fault (List EntityId) := do
  if ((state.graph.get? id).bind (·.facts)).isNone then throw .missingPart
  return state.graph.below (← state.finite id)

end NamedEntities

end UnitLift
