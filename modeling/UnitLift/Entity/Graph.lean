import UnitLift.Digest.Sha256
import UnitLift.Preprocess.MainFile
import UnitLift.Text.Quoted

namespace UnitLift

/-- The name of an entity within its graph. -/
abbrev EntityId := Nat

/-- Where an entity starts and ends. -/
structure Extent where
  file : String
  line : Int
  column : Int
  endLine : Int
  endColumn : Int
deriving DecidableEq, Repr

/-- What is known about a parsed file as a whole. -/
structure FileFacts where
  /-- Errors were reported, none of them fatal. -/
  hadErrors : Bool := false
  includes : List Include := []
  /-- The includes have the full paths of the included files. -/
  fullIncludePaths : Bool := true
deriving DecidableEq, Repr

/-- What an entity is created from. -/
structure EntityContent where
  name : String
  kind : String
  extent : Extent
  usr : String := ""
  typeInfo : Option String := none
  comment : String := ""
  isDefinition : Bool := false
deriving DecidableEq, Repr

/-- A node in the tree of a parsed file. -/
structure Entity extends EntityContent where
  parent : Option EntityId
  children : List EntityId
  /-- The digest of what the entity was created from. -/
  uuid : String
  /-- Present at the root of a file. -/
  facts : Option FileFacts := none
deriving DecidableEq, Repr

namespace Entity

/-- The text whose digest identifies an entity: name, kind, place, and the identity of its parent. -/
def digestText (content : EntityContent) (parentUuid : Option String) : String :=
  let extent := content.extent
  let fields := [content.name, content.kind, extent.file, toString extent.line,
    toString extent.column, toString extent.endLine, toString extent.endColumn]
  String.intercalate ":" (fields ++ parentUuid.toList)

/-- The identifier under which an entity is looked up: the one given by the library, or else the
digest. -/
def key (entity : Entity) : String := if entity.usr.isEmpty then entity.uuid else entity.usr

def summary (entity : Entity) : String :=
  (if entity.facts.isSome then "CppFile(" else "CppEntity(") ++ entity.kind ++ " " ++
    Text.quoted entity.name ++ " at " ++ entity.extent.file ++ ":" ++ toString entity.extent.line ++
    ")"

end Entity

inductive EntityTree where
  | node (entity : Entity) (parentUuid : Option String) (children : List EntityTree)

/-- Entities in the order of their creation. -/
structure EntityGraph where
  entities : Array Entity := #[]
deriving Repr

namespace EntityGraph

def get? (graph : EntityGraph) (id : EntityId) : Option Entity := graph.entities[id]?

def childrenOf (graph : EntityGraph) (id : EntityId) : List EntityId :=
  ((graph.get? id).map Entity.children).getD []

def modify (graph : EntityGraph) (id : EntityId) (change : Entity → Entity) : EntityGraph :=
  ⟨graph.entities.modify id change⟩

/-- The digest of the parent of an entity. -/
def parentUuid (graph : EntityGraph) (parent : Option EntityId) : Option String :=
  (parent.bind graph.get?).map Entity.uuid

/-- Creates an entity. Its digest is taken now and stays when the entity changes later. -/
def create (graph : EntityGraph) (content : EntityContent) (parent : Option EntityId)
    (facts : Option FileFacts := none) : EntityId × EntityGraph :=
  let uuid := Sha256.ofText (Entity.digestText content (graph.parentUuid parent))
  (graph.entities.size,
    ⟨graph.entities.push
      { content with parent, children := [], uuid, facts }⟩)

def createFile (graph : EntityGraph) (path : String) (facts : FileFacts := {}) :
    EntityId × EntityGraph :=
  graph.create
    { name := path, kind := "TRANSLATION_UNIT", extent := ⟨path, 1, 1, 1, 1⟩ } none (some facts)

/-- Makes an entity the last child of another. -/
def addChild (graph : EntityGraph) (parent child : EntityId) : EntityGraph :=
  (graph.modify child fun entity => { entity with parent := some parent }).modify parent
    fun entity => { entity with children := entity.children ++ [child] }

/-- Whether something is below an entity at `depth` levels. -/
def hasDepth (graph : EntityGraph) : Nat → EntityId → Bool
  | 0, _ => true
  | depth + 1, id => (graph.childrenOf id).any (graph.hasDepth depth)

/-- Whether an entity has no last level below it, as something is below itself there. Only then are
there as many levels as entities. -/
def isEndless (graph : EntityGraph) (id : EntityId) : Bool := graph.hasDepth graph.entities.size id

/-- An entity and all below it down to `depth` levels, parents before their children. -/
def walkTo (graph : EntityGraph) : Nat → EntityId → List EntityId
  | 0, _ => []
  | depth + 1, id => id :: (graph.childrenOf id).flatMap (graph.walkTo depth)

/-- An entity and all below it, parents before their children. A tree has no more levels than
entities. -/
def walk (graph : EntityGraph) (id : EntityId) : List EntityId :=
  graph.walkTo graph.entities.size id

/-- All that is below an entity, parents before their children. -/
def below (graph : EntityGraph) (id : EntityId) : List EntityId :=
  (graph.childrenOf id).flatMap graph.walk

/-- An entity with what is below it down to `depth` levels. -/
def treeTo (graph : EntityGraph) : Nat → EntityId → Option EntityTree
  | 0, _ => none
  | depth + 1, id =>
    (graph.get? id).map fun entity =>
      .node entity (graph.parentUuid entity.parent)
        (entity.children.filterMap (graph.treeTo depth))

def tree (graph : EntityGraph) (id : EntityId) : Option EntityTree :=
  graph.treeTo graph.entities.size id

end EntityGraph

end UnitLift
