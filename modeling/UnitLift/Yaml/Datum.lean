import UnitLift.Data.Value
import UnitLift.Text.Base64
import UnitLift.Yaml.Moment
import UnitLift.Yaml.Node
import UnitLift.Yaml.Number

/-!
The data that the nodes of a document stand for, by their tags. A collection goes by the number of its
node, and its parts are found after it, so that it may be a part of itself. The mappings under merge
keys are laid below the mapping around them.
-/

namespace UnitLift.Yaml

/-- What a node stands for. -/
inductive Datum where
  | scalar (value : Scalar)
  | bytes
  | moment
  | list (node : NodeId)
  | mapping (node : NodeId)
  | set (node : NodeId)
deriving DecidableEq, Repr, Inhabited

inductive Parts where
  | items (items : List Datum)
  /-- Items that are pairs. -/
  | pairs (pairs : List (Datum × Datum))
  | entries (entries : List (Datum × Datum))
deriving DecidableEq, Repr, Inhabited

structure Data where
  root : Datum
  /-- The parts of the collections, by their nodes. -/
  parts : Array Parts
deriving Repr

namespace Datum

def isCollection : Datum → Bool
  | list _ | mapping _ | set _ => true
  | _ => false

/-- Whether two data are the same key. -/
def isSameKey : Datum → Datum → Bool
  | scalar a, scalar b => a.isSameKey b
  | _, _ => false

/-- Writes an entry: under a key that is there already the value is replaced. -/
def write (key value : Datum) : List (Datum × Datum) → List (Datum × Datum)
  | [] => [(key, value)]
  | (known, old) :: rest =>
    if known.isSameKey key then (known, value) :: rest else (known, old) :: write key value rest

end Datum

/-- The truth value that a word stands for. -/
def boolOf (text : String) : Except Flaw Bool :=
  let word := text.map Char.toLower
  if ["yes", "true", "on"].contains word then .ok true
  else if ["no", "false", "off"].contains word then .ok false
  else .error .unknownTruth

/-- Whether a text gives bytes: in base 64, without characters beyond ASCII. -/
def givesBytes (text : String) : Bool :=
  text.toList.all (fun c => c.toNat < 128) && Text.isCompleteBase64 0 0 text.toList

/-- The nodes of a document, and what is known of the data they stand for. -/
structure Making where
  nodes : Array Node
  made : Array (Option Datum)
  parts : Array Parts
  /-- The number of keys that merge something, in all mappings. -/
  mergeKeys : Nat
  /-- The collections in the order in which their parts are looked for. -/
  collections : Array NodeId := #[]

/-- Finding the data of nodes. -/
abbrev Maker (α : Type) := StateT Making (Except Flaw) α

namespace Maker

def node (id : NodeId) : Maker Node := return (← get).nodes[id]?.getD default

def modifyNode (id : NodeId) (change : Node → Node) : Maker Unit :=
  modify fun making => { making with nodes := making.nodes.modify id change }

def entries? (id : NodeId) : Maker (Option (List (NodeId × NodeId))) := do
  match (← node id).content with
  | .mapping entries => return some entries
  | _ => return none

/-- The text of a node that should be a scalar. A mapping goes by the value under its key `=`. -/
def textOf : Nat → NodeId → Maker String
  | 0, _ => throw .endless
  | fuel + 1, id => do
    match (← node id).content with
    | .scalar text => return text
    | .sequence _ => throw .unexpectedNode
    | .mapping entries =>
      match ← entries.findM? fun entry => return (← node entry.1).tag == ScalarKind.value.tag with
      | some (_, value) => textOf fuel value
      | none => throw .unexpectedNode

/-! ## Merging -/

/-- Splits entries at the first one that merges: those before it, what it merges, and those after it.
The key `=` is a text if it comes before. -/
def splitAtMerge :
    List (NodeId × NodeId) →
      Maker (List (NodeId × NodeId) × Option (NodeId × List (NodeId × NodeId)))
  | [] => return ([], none)
  | (key, value) :: rest => do
    let tag := (← node key).tag
    if tag == ScalarKind.merge.tag then return ([], some (value, rest))
    if tag == ScalarKind.value.tag then
      modifyNode key fun node => { node with tag := ScalarKind.text.tag }
    let (before, found) ← splitAtMerge rest
    return ((key, value) :: before, found)

/-- Lays the mappings that a mapping merges below its own entries, and gives all its entries. Of several
mappings that are merged together the first one counts most. At most `merges` keys are left that merge
anything. -/
def flatten : Nat → NodeId → Maker (List (NodeId × NodeId))
  | 0, id => return (← splitAtMerge ((← entries? id).getD [])).1
  | merges + 1, id => do
    let (before, found) ← splitAtMerge ((← entries? id).getD [])
    match found with
    | none => return before
    | some (value, after) =>
      modifyNode id fun node => { node with content := .mapping (before ++ after) }
      let merged ← match (← node value).content with
        | .mapping _ => flatten merges value
        | .sequence items => do
          let parts ← items.mapM fun item => do
            if (← entries? item).isNone then throw .unmergeable
            flatten merges item
          pure parts.reverse.flatten
        | .scalar _ => throw .unmergeable
      let own ← flatten merges id
      let all := merged ++ own
      modifyNode id fun node => { node with content := .mapping all }
      return all

/-! ## Data by tags -/

def keep (id : NodeId) (datum : Datum) : Maker Datum := do
  modify fun making =>
    { making with
      made := making.made.setIfInBounds id (some datum)
      collections := if datum.isCollection then making.collections.push id else making.collections }
  return datum

def datum (id : NodeId) : Maker Datum := do
  if let some (some datum) := (← get).made[id]? then return datum
  let text := do textOf ((← get).nodes.size + 1) id
  match (← node id).tag with
  | "tag:yaml.org,2002:null" => do
    let _ ← text
    keep id (.scalar .null)
  | "tag:yaml.org,2002:bool" => do keep id (.scalar (.bool (← boolOf (← text))))
  | "tag:yaml.org,2002:int" => do keep id (.scalar (.int (← Number.int (← text).toList)))
  | "tag:yaml.org,2002:float" => do keep id (.scalar (.real (← Number.float (← text).toList)))
  | "tag:yaml.org,2002:str" => do keep id (.scalar (.text (← text)))
  | "tag:yaml.org,2002:binary" =>
    do if givesBytes (← text) then keep id .bytes else throw .badBytes
  | "tag:yaml.org,2002:timestamp" => do
    let text ← text
    match (← node id).content with
    | .scalar _ =>
      let _ ← Moment.ofText text
      keep id .moment
    | _ => throw .wrongSort
  | "tag:yaml.org,2002:seq" | "tag:yaml.org,2002:omap" | "tag:yaml.org,2002:pairs" =>
    keep id (.list id)
  | "tag:yaml.org,2002:map" => keep id (.mapping id)
  | "tag:yaml.org,2002:set" => keep id (.set id)
  | _ => throw .unknownTag

/-! ## Parts of collections -/

/-- Refuses texts that are twice among keys. `seen` are those before. -/
def refuseRepeated (seen : List String) : List (NodeId × NodeId) → Maker Unit
  | [] => return
  | (key, _) :: rest => do
    let node ← node key
    if node.tag != ScalarKind.text.tag then return ← refuseRepeated seen rest
    match node.content with
    | .scalar text =>
      if seen.contains text then throw .repeatedKey
      refuseRepeated (text :: seen) rest
    | _ => throw .wrongSort

/-- The entries of a mapping with their data, under each key the last one. -/
def entryData (id : NodeId) : Maker (List (Datum × Datum)) := do
  match (← node id).content with
  | .scalar text => throw (if text.isEmpty then .unexpectedNode else .scalarForMapping)
  | .sequence items => throw (if items.isEmpty then .unexpectedNode else .wrongSort)
  | .mapping entries =>
    refuseRepeated [] entries
    let entries ← flatten (← get).mergeKeys id
    entries.foldlM (fun written (key, value) => do
      let key ← datum key
      if key.isCollection then throw .compoundKey
      return Datum.write key (← datum value) written) []

/-- The items of a sequence with their data. -/
def itemData (id : NodeId) : Maker (List Datum) := do
  match (← node id).content with
  | .sequence items => items.mapM datum
  | _ => throw .unexpectedNode

/-- The pairs of a sequence of mappings with one entry each. -/
def pairData (id : NodeId) : Maker (List (Datum × Datum)) := do
  match (← node id).content with
  | .sequence items =>
    items.mapM fun item => do
      match (← node item).content with
      | .mapping [(key, value)] =>
        let key ← datum key
        return (key, ← datum value)
      | _ => throw .unexpectedNode
  | _ => throw .unexpectedNode

def findParts (id : NodeId) : Maker Unit := do
  let parts ← match (← node id).tag with
    | "tag:yaml.org,2002:seq" => Parts.items <$> itemData id
    | "tag:yaml.org,2002:omap" | "tag:yaml.org,2002:pairs" => Parts.pairs <$> pairData id
    | _ => Parts.entries <$> entryData id
  modify fun making => { making with parts := making.parts.setIfInBounds id parts }

/-- Finds the parts of the collections from the `next`-th one on, and of those that come up then. -/
def findAllParts (next : Nat) : Nat → Maker Unit
  | 0 => return
  | fuel + 1 => do
    if let some id := (← get).collections[next]? then
      findParts id
      findAllParts (next + 1) fuel

end Maker

/-- The number of keys that merge something, in all mappings. -/
def mergeKeys (nodes : Array Node) : Nat :=
  let isMerge (entry : NodeId × NodeId) : Bool :=
    (nodes[entry.1]?.map Node.tag) == some ScalarKind.merge.tag
  (nodes.toList.map fun node => match node.content with
    | .mapping entries => entries.countP isMerge
    | _ => 0).foldl (· + ·) 0

def Data.ofNodes (graph : NodeGraph) : Except Flaw Data := do
  let count := graph.nodes.size
  let work : Maker Datum := do
    let root ← Maker.datum graph.root
    Maker.findAllParts 0 count
    return root
  let (root, making) ← work.run
    { nodes := graph.nodes, made := Array.replicate count none
      parts := Array.replicate count (.items []), mergeKeys := mergeKeys graph.nodes }
  return ⟨root, making.parts⟩

/-- The data of the document in a text; a text without a document has none. -/
def Data.ofText (text : String) : Except Flaw (Option Data) := do
  match ← NodeGraph.ofText text.toList with
  | none => return none
  | some graph => return some (← Data.ofNodes graph)

end UnitLift.Yaml
