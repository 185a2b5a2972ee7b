import UnitLift.Entity.Graph
import UnitLift.Table

namespace UnitLift

/-- Entities by key, and roots of files by path. -/
structure EntityIndex where
  entities : Table String EntityId := .empty
  files : Table String EntityId := .empty
deriving DecidableEq, Repr

namespace EntityIndex

/-- Whether an entity takes the place of `existing`. -/
def replaces (graph : EntityGraph) (existing new : EntityId) : Bool :=
  let isDefinition (id : EntityId) := (graph.get? id).any (·.isDefinition)
  isDefinition new || !isDefinition existing

def register (graph : EntityGraph) (index : EntityIndex) (id : EntityId) : EntityIndex :=
  match graph.get? id with
  | none => index
  | some entity =>
    match index.entities.get? entity.key with
    | none => { index with entities := index.entities.insert entity.key id }
    | some existing =>
      if replaces graph existing id then
        { index with entities := index.entities.insert entity.key id }
      else index

/-- Registers entities, one after the other. -/
def registerAll (graph : EntityGraph) (index : EntityIndex) (ids : List EntityId) : EntityIndex :=
  ids.foldl (register graph) index

/-- Registers the root of a file under its path. -/
def registerFile (graph : EntityGraph) (index : EntityIndex) (id : EntityId) : EntityIndex :=
  match graph.get? id with
  | none => index
  | some root => { index with files := index.files.insert root.name id }

def lookup (index : EntityIndex) (key : String) : Option EntityId := index.entities.get? key

def contains (index : EntityIndex) (key : String) : Bool := index.entities.contains key

def lookupFile (index : EntityIndex) (path : String) : Option EntityId := index.files.get? path

def size (index : EntityIndex) : Nat := index.entities.size

end EntityIndex

end UnitLift
