import UnitLift.Yaml.ScalarKind
import UnitLift.Yaml.Token

/-!
The nodes of a document: scalars, sequences and mappings, each with a tag. Nodes know their parts by
number, for an alias stands for the very node with its anchor, which may even be around it. A text
holds one document or none.
-/

namespace UnitLift.Yaml

/-- The number of a node among those of its document. -/
abbrev NodeId := Nat

inductive Content where
  | scalar (text : String)
  | sequence (items : List NodeId)
  | mapping (entries : List (NodeId × NodeId))
deriving DecidableEq, Repr, Inhabited

structure Node where
  tag : String
  content : Content
deriving DecidableEq, Repr, Inhabited

/-- The nodes of a document by number, and which of them is the root. -/
structure NodeGraph where
  nodes : Array Node
  root : NodeId
deriving Repr

/-- The tag of a sequence, unless another is given. -/
def sequenceTag : String := "tag:yaml.org,2002:seq"

/-- The tag of a mapping, unless another is given. -/
def mappingTag : String := "tag:yaml.org,2002:map"

/-- The tag of a scalar: the one that is given, or else what it looks like if it stands without quotes.
A lone exclamation mark asks for the latter. -/
def scalarTag (given : Option String) (plain : Bool) (text : String) : String :=
  match given with
  | some tag => if tag == "!" then (ScalarKind.read text.toList).tag else tag
  | none => if plain then (ScalarKind.read text.toList).tag else ScalarKind.text.tag

def collectionTag (given : Option String) (usual : String) : String :=
  match given with
  | some tag => if tag == "!" then usual else tag
  | none => usual

/-- The tokens that are left, what was declared before them, and the nodes so far. -/
structure Reading where
  tokens : Tokens
  /-- What the handles of tags stand for. -/
  handles : List (String × String) := []
  anchors : List (String × NodeId) := []
  nodes : Array Node := #[]

/-- Reading nodes off the tokens. -/
abbrev Reader (α : Type) := StateT Reading (Except Flaw) α

namespace Reader

def peek : Reader (Option Token) := do
  match (← get).tokens with
  | ⟨token :: _, _⟩ => return some token
  | ⟨[], some flaw⟩ => throw flaw
  | ⟨[], none⟩ => return none

def sees (tokens : List Token) : Reader Bool := return (← peek).any tokens.contains

/-- Takes the next token off. -/
def drop : Reader Unit :=
  modify fun reading =>
    { reading with tokens := { reading.tokens with list := reading.tokens.list.drop 1 } }

/-- Takes the next token off if it is a certain one. -/
def takes (token : Token) : Reader Bool := do
  let found ← sees [token]
  if found then drop
  return found

/-- Takes a token that has to come next. -/
def expect (token : Token) : Reader Unit := do
  if !(← takes token) then throw .disorder

def resolveTag (tag : Tag) : Reader String := do
  match tag.handle with
  | none => return tag.suffix
  | some handle =>
    match ((← get).handles ++ [("!", "!"), ("!!", "tag:yaml.org,2002:")]).lookup handle with
    | some start => return start ++ tag.suffix
    | none => throw .badTag

/-- What may stand before a node: an anchor and a tag, in either order. -/
def takeProperties : Reader (Option String × Option String) := do
  match ← peek with
  | some (.anchor name) =>
    drop
    match ← peek with
    | some (.tag tag) =>
      drop
      return (some name, some (← resolveTag tag))
    | _ => return (some name, none)
  | some (.tag tag) =>
    drop
    match ← peek with
    | some (.anchor name) =>
      drop
      return (some name, some (← resolveTag tag))
    | _ => return (none, some (← resolveTag tag))
  | _ => return (none, none)

def findAlias (name : String) : Reader NodeId := do
  match (← get).anchors.lookup name with
  | some id => return id
  | none => throw .unknownAlias

/-- Adds a node. It gets its anchor, which no other node has, before its parts are read. -/
def add (anchor : Option String) (node : Node) : Reader NodeId := do
  let id := (← get).nodes.size
  if let some name := anchor then
    if ((← get).anchors.lookup name).isSome then throw .repeatedAnchor
    modify fun reading => { reading with anchors := (name, id) :: reading.anchors }
  modify fun reading => { reading with nodes := reading.nodes.push node }
  return id

def scalar (anchor tag : Option String) (plain : Bool) (text : String) : Reader NodeId :=
  add anchor ⟨scalarTag tag plain text, .scalar text⟩

def absent : Reader NodeId := scalar none none true ""

/-- A node of which only the anchor or the tag is written. -/
def bare (anchor tag : Option String) : Reader NodeId :=
  if anchor.isSome || tag.isSome then scalar anchor tag tag.isNone "" else throw .disorder

/-- Gives a node its parts. -/
def fill (id : NodeId) (content : Content) : Reader Unit :=
  modify fun reading =>
    { reading with nodes := reading.nodes.modify id fun node => { node with content } }

/-- Where a node stands, which decides how it may begin. -/
inductive Position where
  | flow
  | block
  /-- A key or a value of a block mapping: a sequence there need not be indented. -/
  | entry
deriving DecidableEq

/-- How deep nodes may be nested. -/
def deepest : Nat := 480

mutual

/-- Reads a node that may be nested by some levels more. -/
def node (position : Position) (levels : Nat) : Nat → Reader NodeId
  | 0 => throw .disorder
  | fuel + 1 => do
    if levels == 0 then throw .nestedTooDeeply
    let levels := levels - 1
    if let some (.alias name) ← peek then
      drop
      return ← findAlias name
    let (anchor, tag) ← takeProperties
    let isBlock := position != .flow
    let sequence (items : Reader (List NodeId)) : Reader NodeId := do
      let id ← add anchor ⟨collectionTag tag sequenceTag, .sequence []⟩
      fill id (.sequence (← items))
      return id
    let mapping (entries : Reader (List (NodeId × NodeId))) : Reader NodeId := do
      let id ← add anchor ⟨collectionTag tag mappingTag, .mapping []⟩
      fill id (.mapping (← entries))
      return id
    match ← peek with
    | some (.scalar plain text) =>
      drop
      scalar anchor tag plain text
    | some .flowSequenceStart =>
      drop
      sequence (flowItems levels fuel true)
    | some .flowMappingStart =>
      drop
      mapping (flowEntries levels fuel true)
    | some .blockEntry =>
      if position == .entry then sequence (looseItems levels fuel) else bare anchor tag
    | some .sequenceStart =>
      if isBlock then
        drop
        sequence (items levels fuel)
      else bare anchor tag
    | some .mappingStart =>
      if isBlock then
        drop
        mapping (entries levels fuel)
      else bare anchor tag
    | _ => bare anchor tag
termination_by structural fuel => fuel

/-- Reads a node, which is absent if one of some tokens comes next. -/
def nodeUnless (stops : List Token) (position : Position) (levels : Nat) : Nat → Reader NodeId
  | 0 => throw .disorder
  | fuel + 1 => do
    if ← sees stops then return ← absent
    node position levels fuel
termination_by structural fuel => fuel

def items (levels : Nat) : Nat → Reader (List NodeId)
  | 0 => throw .disorder
  | fuel + 1 => do
    if ← takes .blockEntry then
      let item ← nodeUnless [.blockEntry, .blockEnd] .block levels fuel
      return item :: (← items levels fuel)
    expect .blockEnd
    return []
termination_by structural fuel => fuel

/-- The items of a sequence that is not indented. -/
def looseItems (levels : Nat) : Nat → Reader (List NodeId)
  | 0 => throw .disorder
  | fuel + 1 => do
    if ← takes .blockEntry then
      let item ← nodeUnless [.blockEntry, .key, .value, .blockEnd] .block levels fuel
      return item :: (← looseItems levels fuel)
    return []
termination_by structural fuel => fuel

def entries (levels : Nat) : Nat → Reader (List (NodeId × NodeId))
  | 0 => throw .disorder
  | fuel + 1 => do
    if ← takes .key then
      let key ← nodeUnless [.key, .value, .blockEnd] .entry levels fuel
      let value ← if ← takes .value then nodeUnless [.key, .value, .blockEnd] .entry levels fuel
        else absent
      return (key, value) :: (← entries levels fuel)
    expect .blockEnd
    return []
termination_by structural fuel => fuel

/-- The items of a flow sequence. A key among them begins a mapping with one entry. -/
def flowItems (levels : Nat) : Nat → Bool → Reader (List NodeId)
  | 0, _ => throw .disorder
  | fuel + 1, first => do
    if ← takes .flowSequenceEnd then return []
    if !first then
      expect .flowEntry
      if ← takes .flowSequenceEnd then return []
    let item ← if ← takes .key then do
        let id ← add none ⟨mappingTag, .mapping []⟩
        let key ← nodeUnless [.value, .flowEntry, .flowSequenceEnd] .flow (levels - 1) fuel
        let value ← if ← takes .value then
            nodeUnless [.flowEntry, .flowSequenceEnd] .flow (levels - 1) fuel
          else absent
        fill id (.mapping [(key, value)])
        pure id
      else node .flow levels fuel
    return item :: (← flowItems levels fuel false)
termination_by structural fuel _ => fuel

def flowEntries (levels : Nat) : Nat → Bool → Reader (List (NodeId × NodeId))
  | 0, _ => throw .disorder
  | fuel + 1, first => do
    if ← takes .flowMappingEnd then return []
    if !first then
      expect .flowEntry
      if ← takes .flowMappingEnd then return []
    let entry ← if ← takes .key then do
        let key ← nodeUnless [.value, .flowEntry, .flowMappingEnd] .flow levels fuel
        let value ← if ← takes .value then
            nodeUnless [.flowEntry, .flowMappingEnd] .flow levels fuel
          else absent
        pure (key, value)
      else do
        let key ← node .flow levels fuel
        pure (key, ← absent)
    return entry :: (← flowEntries levels fuel false)
termination_by structural fuel _ => fuel

end

/-- Takes directives off, and keeps what they say. -/
def takeDirectives (versions : Nat) : Nat → Reader Unit
  | 0 => return
  | fuel + 1 => do
    match ← peek with
    | some (.directive directive) =>
      drop
      match directive with
      | .version major =>
        if versions != 0 || major != 1 then throw .badDirective
        takeDirectives 1 fuel
      | .shorthand handle start =>
        if ((← get).handles.lookup handle).isSome then throw .badDirective
        modify fun reading => { reading with handles := (handle, start) :: reading.handles }
        takeDirectives versions fuel
      | .other => takeDirectives versions fuel
    | _ => return

/-- Takes the ends of documents off. -/
def takeEnds : Nat → Reader Unit
  | 0 => return
  | fuel + 1 => do if ← takes .documentEnd then takeEnds fuel

/-- Whether the next token belongs to no node of the document. -/
def seesOutside : Reader Bool := do
  match ← peek with
  | none => return true
  | some (.directive _) => return true
  | some token => return token == .documentStart || token == .documentEnd

/-- Reads the root of a document, which may be absent or have no start of its own. -/
def document (fuel : Nat) : Reader (Option NodeId) := do
  match ← peek with
  | none => return none
  | some token =>
    let isExplicit := token == .documentStart || token matches .directive _
    if isExplicit then
      takeDirectives 0 fuel
      expect .documentStart
      if ← seesOutside then return some (← absent)
    let root ← node .block deepest fuel
    return some root

def onlyDocument (fuel : Nat) : Reader (Option NodeId) := do
  let root ← document fuel
  takeEnds fuel
  if (← peek).isSome then throw .severalDocuments
  return root

end Reader

def NodeGraph.ofText (text : List Char) : Except Flaw (Option NodeGraph) := do
  let tokens := Tokens.ofText text
  let (root, reading) ← (Reader.onlyDocument (4 * tokens.list.length + 4)).run { tokens }
  return root.map fun root => ⟨reading.nodes, root⟩

end UnitLift.Yaml
