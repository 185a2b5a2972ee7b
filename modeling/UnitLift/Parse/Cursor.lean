import UnitLift.Path.Links
import UnitLift.Entity.Graph

/-!
Cursors: the syntax tree of a translation unit as the library shows it, and what of it is lifted.
Cursors of some kinds become entities; others are transparent, their children belong to whatever
they are in; all others are left out with everything below them, as is what lies in another file.
-/

namespace UnitLift

/-- A place as the library knows it; there may be no file object, and the name of one may be empty. -/
structure CursorPlace where
  file : Option String := none
  line : Int := 0
  column : Int := 0
deriving DecidableEq, Repr

structure CursorData where
  /-- Absent if the kind is not known to the bindings. -/
  kind : Option String
  spelling : String := ""
  location : CursorPlace := {}
  start : CursorPlace := {}
  stop : CursorPlace := {}
  /-- The spelling of the type, if the cursor has one. -/
  type : Option String := none
  usr : String := ""
  comment : String := ""
  isDefinition : Bool := false
deriving DecidableEq, Repr, Inhabited

inductive Cursor where
  | node (data : CursorData) (children : List Cursor)
deriving Inhabited

/-- What a cursor is lifted to: an entity with those below it. -/
inductive Outline where
  | node (content : EntityContent) (children : List Outline)

/-- The kinds of cursors that become entities. -/
def entityKinds : List String :=
  ["NAMESPACE", "NAMESPACE_ALIAS", "USING_DIRECTIVE", "USING_DECLARATION", "CLASS_DECL",
   "STRUCT_DECL", "UNION_DECL", "ENUM_DECL", "ENUM_CONSTANT_DECL", "CLASS_TEMPLATE",
   "CLASS_TEMPLATE_PARTIAL_SPECIALIZATION", "CXX_BASE_SPECIFIER", "CXX_ACCESS_SPEC_DECL",
   "FRIEND_DECL", "FIELD_DECL", "VAR_DECL", "FUNCTION_DECL", "FUNCTION_TEMPLATE", "CXX_METHOD",
   "CONSTRUCTOR", "DESTRUCTOR", "CONVERSION_FUNCTION", "PARM_DECL", "TEMPLATE_TYPE_PARAMETER",
   "TEMPLATE_NON_TYPE_PARAMETER", "TEMPLATE_TEMPLATE_PARAMETER", "TYPEDEF_DECL", "TYPE_ALIAS_DECL",
   "TYPE_ALIAS_TEMPLATE_DECL", "CONCEPT_DECL", "STATIC_ASSERT", "MACRO_DEFINITION"]

/-- The kinds of cursors whose children belong to what encloses them. -/
def transparentKinds : List String := ["LINKAGE_SPEC", "UNEXPOSED_DECL"]

/-- The file system as far as lifting sees it. -/
structure PathView where
  currentDirectory : String
  links : Path.Links

/-- The path that a file name leads to. -/
def PathView.resolve (view : PathView) (path : String) : String :=
  Path.resolve view.currentDirectory view.links path

namespace CursorData

/-- Whether a cursor lies in the file at `path`, which has no links in it. -/
def isIn (view : PathView) (path : String) (data : CursorData) : Bool :=
  data.location.file.any fun file => view.resolve file == path

/-- What is done with a cursor. -/
inductive Role where
  | entity (kind : String)
  | transparent
  | unreadable
  | leftOut
deriving DecidableEq, Repr

/-- The role of a cursor in lifting the file at `path`. -/
def role (view : PathView) (path : String) (data : CursorData) : Role :=
  match data.kind with
  | none => .unreadable
  | some kind =>
    if !data.isIn view path then .leftOut
    else if transparentKinds.contains kind then .transparent
    else if entityKinds.contains kind then .entity kind
    else .leftOut

/-- The extent of a cursor, or the place it is at if its extent is in no file. -/
def extent (view : PathView) (data : CursorData) : Extent :=
  match data.start.file with
  | some file =>
    ⟨view.resolve file, data.start.line, data.start.column, data.stop.line, data.stop.column⟩
  | none =>
    ⟨view.resolve (data.location.file.getD ""), data.location.line, data.location.column,
      data.location.line, data.location.column⟩

def content (view : PathView) (kind : String) (data : CursorData) : EntityContent :=
  { name := data.spelling
    kind
    extent := data.extent view
    usr := data.usr
    typeInfo := data.type.filter (!·.isEmpty)
    comment := data.comment
    isDefinition := data.isDefinition }

end CursorData

mutual

def Cursor.outlines (view : PathView) (path : String) : Cursor → List Outline
  | .node data children =>
    match data.role view path with
    | .entity kind => [.node (data.content view kind) (Cursor.outlinesOf view path children)]
    | .transparent => Cursor.outlinesOf view path children
    | .unreadable => []
    | .leftOut => []

/-- What cursors are lifted to, in order. -/
def Cursor.outlinesOf (view : PathView) (path : String) : List Cursor → List Outline
  | [] => []
  | cursor :: rest => cursor.outlines view path ++ Cursor.outlinesOf view path rest

end

mutual

/-- How many cursors of unknown kind are met in lifting a cursor. -/
def Cursor.unreadable (view : PathView) (path : String) : Cursor → Nat
  | .node data children =>
    match data.role view path with
    | .entity _ => Cursor.unreadableIn view path children
    | .transparent => Cursor.unreadableIn view path children
    | .unreadable => 1
    | .leftOut => 0

/-- How many cursors of unknown kind are met in lifting cursors. -/
def Cursor.unreadableIn (view : PathView) (path : String) : List Cursor → Nat
  | [] => 0
  | cursor :: rest => cursor.unreadable view path + Cursor.unreadableIn view path rest

end

mutual

/-- Adds an outline to a graph below `parent`; also the new entities, parents first. -/
def Outline.plant (parent : EntityId) : Outline → EntityGraph → List EntityId × EntityGraph
  | .node content children, graph =>
    let (id, graph) := graph.create content (some parent)
    let (planted, graph) := Outline.plantAll id children (graph.addChild parent id)
    (id :: planted, graph)

/-- Adds outlines to a graph below `parent`, in order. -/
def Outline.plantAll (parent : EntityId) : List Outline → EntityGraph → List EntityId × EntityGraph
  | [], graph => ([], graph)
  | outline :: rest, graph =>
    let (first, graph) := outline.plant parent graph
    let (more, graph) := Outline.plantAll parent rest graph
    (first ++ more, graph)

end

end UnitLift
