import UnitLift.Proofs.Data.Tree
import UnitLift.Proofs.Yaml.Scanning
import UnitLift.Yaml.Node

namespace UnitLift.Yaml

open Value (depth depthOfEntries)

/-! ## Nodes -/

def scalarNode (scalar : Scalar) : Node :=
  ⟨scalarTag none (isPlain scalar) (scalarText scalar), .scalar (scalarText scalar)⟩

mutual

def nodeCount : Value → Nat
  | .scalar _ => 1
  | .list _ => 1
  | .mapping entries => 1 + nodeCountOfEntries entries

def nodeCountOfEntries : List (Scalar × Value) → Nat
  | [] => 0
  | (_, value) :: rest => 1 + nodeCount value + nodeCountOfEntries rest

end

/-- The numbers of the keys and values of a mapping, from `start` on. -/
def entryIds (start : NodeId) : List (Scalar × Value) → List (NodeId × NodeId)
  | [] => []
  | (_, value) :: rest => (start, start + 1) :: entryIds (start + 1 + nodeCount value) rest

mutual

/-- The nodes of a value, of which the first one has the number `start`. -/
def nodesOf (start : NodeId) : Value → List Node
  | .scalar scalar => [scalarNode scalar]
  | .list _ => [⟨sequenceTag, .sequence []⟩]
  | .mapping entries =>
    ⟨mappingTag, .mapping (entryIds (start + 1) entries)⟩ :: nodesOfEntries (start + 1) entries

def nodesOfEntries (start : NodeId) : List (Scalar × Value) → List Node
  | [] => []
  | (key, value) :: rest =>
    scalarNode key :: nodesOf (start + 1) value ++
      nodesOfEntries (start + 1 + nodeCount value) rest

end

mutual

theorem length_nodesOf (start : NodeId) (value : Value) :
    (nodesOf start value).length = nodeCount value := by
  cases value with
  | scalar => rfl
  | list => rfl
  | mapping entries =>
    rw [nodesOf, nodeCount, List.length_cons, length_nodesOfEntries]
    omega

theorem length_nodesOfEntries (start : NodeId) (entries : List (Scalar × Value)) :
    (nodesOfEntries start entries).length = nodeCountOfEntries entries := by
  match entries with
  | [] => rfl
  | (key, value) :: rest =>
    rw [nodesOfEntries, nodeCountOfEntries, List.length_append, List.length_cons, length_nodesOf,
      length_nodesOfEntries]
    omega

end

/-- A value without lists. -/
inductive IsNested : Value → Prop
  | scalar (scalar : Scalar) : IsNested (.scalar scalar)
  | mapping {entries : List (Scalar × Value)} (values : ∀ entry ∈ entries, IsNested entry.2) :
      IsNested (.mapping entries)

/-! ## Reading -/

theorem run_bind {σ ε α β : Type} {first : StateT σ (Except ε) α} {next : α → StateT σ (Except ε) β}
    {state after : σ} {result : α} (runs : first state = .ok (result, after)) :
    (first >>= next) state = next result after := by
  simp [bind, StateT.bind, runs, Except.bind]

namespace Reader

variable {handles : List (String × String)} {anchors : List (String × NodeId)} {nodes : Array Node}
  {tokens : List Token} {position : Position} (levels fuel : Nat)

private theorem node_scalar (plain : Bool) (text : String) :
    node position (levels + 1) (fuel + 1)
        ⟨⟨.scalar plain text :: tokens, none⟩, handles, anchors, nodes⟩ =
      .ok (nodes.size,
        ⟨⟨tokens, none⟩, handles, anchors, nodes.push ⟨scalarTag none plain text, .scalar text⟩⟩) := rfl

private theorem node_braces :
    node position (levels + 1) (fuel + 2)
        ⟨⟨.flowMappingStart :: .flowMappingEnd :: tokens, none⟩, handles, anchors, nodes⟩ =
      .ok (nodes.size, ⟨⟨tokens, none⟩, handles, anchors,
        (nodes.push ⟨mappingTag, .mapping []⟩).modify nodes.size
          fun node => { node with content := .mapping [] }⟩) := rfl

private theorem node_mapping (block : position ≠ .flow) :
    node position (levels + 1) (fuel + 1)
        ⟨⟨.mappingStart :: tokens, none⟩, handles, anchors, nodes⟩ = (do
      let (ids, after) ← entries levels fuel
        ⟨⟨tokens, none⟩, handles, anchors, nodes.push ⟨mappingTag, .mapping []⟩⟩
      return (nodes.size, { after with
        nodes := after.nodes.modify nodes.size fun node => { node with content := .mapping ids } })) := by
  cases position with
  | flow => exact absurd rfl block
  | block => rfl
  | entry => rfl

private theorem entries_end :
    entries levels (fuel + 1) ⟨⟨.blockEnd :: tokens, none⟩, handles, anchors, nodes⟩ =
      .ok ([], ⟨⟨tokens, none⟩, handles, anchors, nodes⟩) := rfl

private theorem entries_key (plain : Bool) (text : String) :
    entries (levels + 1) (fuel + 3)
        ⟨⟨.key :: .scalar plain text :: .value :: tokens, none⟩, handles, anchors, nodes⟩ = (do
      let (value, after) ← nodeUnless [.key, .value, .blockEnd] .entry (levels + 1) (fuel + 2)
        ⟨⟨tokens, none⟩, handles, anchors, nodes.push ⟨scalarTag none plain text, .scalar text⟩⟩
      let (others, last) ← entries (levels + 1) (fuel + 2) after
      return ((nodes.size, value) :: others, last)) := rfl

private theorem nodeUnless_value {value : Value} (nested : IsNested value) :
    nodeUnless [.key, .value, .blockEnd] .entry levels (fuel + 1)
        ⟨⟨tokensOf value ++ tokens, none⟩, handles, anchors, nodes⟩ =
      node .entry levels fuel ⟨⟨tokensOf value ++ tokens, none⟩, handles, anchors, nodes⟩ := by
  cases nested with
  | scalar => rfl
  | @mapping entries =>
    rw [tokensOf]
    split
    · rfl
    · rfl

/-- A mapping gets its entries once they have been read. -/
private theorem modify_push_append (nodes : Array Node) (node filled : Node) (parts : List Node)
    (change : Node → Node) (changes : change node = filled) :
    (nodes.push node ++ parts.toArray).modify nodes.size change =
      nodes ++ (filled :: parts).toArray := by
  refine Array.toList_inj.mp ?_
  subst changes
  have inside : nodes.size < (nodes.toList ++ node :: parts).length := by simp
  simp only [Array.toList_modify, Array.toList_append, Array.toList_push, List.append_assoc,
    List.cons_append, List.nil_append]
  rw [List.modify_eq_take_cons_drop inside]
  simp [List.drop_append]

variable {levels fuel}

/-- What reading a value gives: its nodes behind those there are, and the number of the first one. -/
private def Reads (value : Value) : Prop :=
  ∀ ⦃handles : List (String × String)⦄ ⦃anchors : List (String × NodeId)⦄ ⦃nodes : Array Node⦄
    ⦃tokens : List Token⦄ ⦃position : Position⦄ ⦃levels fuel : Nat⦄, position ≠ .flow →
    depth value < levels → 2 * (tokensOf value).length ≤ fuel →
    node position levels fuel ⟨⟨tokensOf value ++ tokens, none⟩, handles, anchors, nodes⟩ =
      .ok (nodes.size,
        ⟨⟨tokens, none⟩, handles, anchors, nodes ++ (nodesOf nodes.size value).toArray⟩)

private theorem entries_tokensOfEntries {entries : List (Scalar × Value)}
    (each : ∀ entry ∈ entries, Reads entry.2) (nested : ∀ entry ∈ entries, IsNested entry.2)
    (deep : depthOfEntries entries < levels) (enough : 2 * (tokensOfEntries entries).length + 1 ≤ fuel) :
    Reader.entries levels fuel
        ⟨⟨tokensOfEntries entries ++ .blockEnd :: tokens, none⟩, handles, anchors, nodes⟩ =
      .ok (entryIds nodes.size entries,
        ⟨⟨tokens, none⟩, handles, anchors,
          nodes ++ (nodesOfEntries nodes.size entries).toArray⟩) := by
  induction entries generalizing nodes fuel with
  | nil =>
    obtain ⟨fuel, rfl⟩ : ∃ more, fuel = more + 1 := ⟨fuel - 1, by omega⟩
    rw [tokensOfEntries, List.nil_append, entries_end, entryIds, nodesOfEntries]
    simp
  | cons entry rest ih =>
    obtain ⟨key, value⟩ := entry
    rw [Value.depthOfEntries] at deep
    rw [tokensOfEntries] at enough ⊢
    simp only [List.length_append, List.length_cons] at enough
    obtain ⟨fuel, rfl⟩ : ∃ more, fuel = more + 3 := ⟨fuel - 3, by omega⟩
    obtain ⟨levels, rfl⟩ : ∃ more, levels = more + 1 := ⟨levels - 1, by omega⟩
    have one : Reads value := each (key, value) (by simp)
    have reads := @one handles anchors (nodes.push (scalarNode key))
      (tokensOfEntries rest ++ .blockEnd :: tokens) .entry (levels + 1) (fuel + 1) (by decide) (by omega)
      (by omega)
    have others := @ih (nodes.push (scalarNode key) ++
      (nodesOf (nodes.push (scalarNode key)).size value).toArray) (fuel + 2)
      (fun entry member => each entry (List.mem_cons_of_mem _ member))
      (fun entry member => nested entry (List.mem_cons_of_mem _ member)) (by omega) (by omega)
    rw [← nodeUnless_value _ _ (nested (key, value) (by simp))] at reads
    simp only [scalarToken, List.cons_append, List.append_assoc, entries_key]
    rw [show Node.mk (scalarTag none (isPlain key) (scalarText key)) (.scalar (scalarText key)) =
      scalarNode key from rfl, reads]
    change (Reader.entries (levels + 1) (fuel + 2) _ >>= _) = _
    rw [others]
    simp only [entryIds, nodesOfEntries, Array.size_push, Array.size_append, List.size_toArray,
      length_nodesOf]
    have joined : nodes.push (scalarNode key) ++ (nodesOf (nodes.size + 1) value).toArray ++
        (nodesOfEntries (nodes.size + 1 + nodeCount value) rest).toArray =
        nodes ++ (scalarNode key :: nodesOf (nodes.size + 1) value ++
          nodesOfEntries (nodes.size + 1 + nodeCount value) rest).toArray := by
      refine Array.toList_inj.mp ?_
      simp
    rw [← joined]
    rfl

theorem node_tokensOf {value : Value} (nested : IsNested value) : Reads value := by
  induction nested with
  | scalar scalar =>
    intro handles anchors nodes tokens position levels fuel block deep enough
    obtain ⟨levels, rfl⟩ : ∃ more, levels = more + 1 := ⟨levels - 1, by omega⟩
    obtain ⟨fuel, rfl⟩ : ∃ more, fuel = more + 1 := ⟨fuel - 1, by simp [tokensOf] at enough; omega⟩
    simp only [tokensOf, scalarToken, List.cons_append, List.nil_append, node_scalar]
    simp [nodesOf, scalarNode]
  | @mapping entries values ih =>
    intro handles anchors nodes tokens position levels fuel block deep enough
    obtain ⟨levels, rfl⟩ : ∃ more, levels = more + 1 := ⟨levels - 1, by omega⟩
    rw [tokensOf] at enough ⊢
    rw [Value.depth] at deep
    split at enough
    · rename_i empty
      rw [List.isEmpty_iff.mp empty]
      obtain ⟨fuel, rfl⟩ : ∃ more, fuel = more + 2 := ⟨fuel - 2, by simp at enough; omega⟩
      simp only [List.isEmpty_nil, ↓reduceIte, List.cons_append, List.nil_append, node_braces]
      have filled := modify_push_append nodes ⟨mappingTag, .mapping []⟩
        ⟨mappingTag, .mapping []⟩ [] (fun node => { node with content := .mapping [] }) rfl
      simp only [nodesOf, entryIds, nodesOfEntries]
      simpa using filled
    · rename_i present
      simp only [List.length_append, List.length_cons, List.length_nil] at enough
      obtain ⟨fuel, rfl⟩ : ∃ more, fuel = more + 1 := ⟨fuel - 1, by omega⟩
      have reads : Reader.entries levels fuel
          ⟨⟨tokensOfEntries entries ++ .blockEnd :: tokens, none⟩, handles, anchors,
            nodes.push ⟨mappingTag, .mapping []⟩⟩ = _ :=
        entries_tokensOfEntries ih values (by omega) (by omega)
      simp only [present, Bool.false_eq_true, ↓reduceIte, List.cons_append, List.append_assoc,
        List.nil_append, node_mapping _ _ block]
      rw [reads]
      have filled := modify_push_append nodes ⟨mappingTag, .mapping []⟩
        ⟨mappingTag, .mapping (entryIds (nodes.size + 1) entries)⟩ (nodesOfEntries (nodes.size + 1) entries)
        (fun node => { node with content := .mapping (entryIds (nodes.size + 1) entries) }) rfl
      rw [nodesOf, ← filled]
      simp only [Array.size_push]
      rfl

/-- Behind the last token there is nothing left of a document. -/
private theorem onlyDocument_eq {root : NodeId} {fuel : Nat} {found : Array Node}
    (reads : node .block deepest fuel ⟨⟨.mappingStart :: tokens, none⟩, handles, anchors, nodes⟩ =
      .ok (root, ⟨⟨[], none⟩, handles, anchors, found⟩)) :
    onlyDocument fuel ⟨⟨.mappingStart :: tokens, none⟩, handles, anchors, nodes⟩ =
      .ok (some root, ⟨⟨[], none⟩, handles, anchors, found⟩) := by
  have found : document fuel ⟨⟨.mappingStart :: tokens, none⟩, handles, anchors, nodes⟩ =
      .ok (some root, ⟨⟨[], none⟩, handles, anchors, found⟩) := by
    change (node .block deepest fuel ⟨⟨.mappingStart :: tokens, none⟩, handles, anchors, nodes⟩ >>=
      fun result => .ok (some result.1, result.2)) = _
    rw [reads]
    rfl
  rw [onlyDocument, run_bind found]
  cases fuel with
  | zero => rfl
  | succ fuel => rfl

end Reader

theorem isNested_of_writable {level : Nat} {value : Value} (writable : Writable level value) :
    IsNested value := by
  induction writable with
  | scalar => exact .scalar _
  | mapping _ _ _ _ ih => exact .mapping ih

theorem NodeGraph.ofText_writeDocument {entries : List (Scalar × Value)}
    (writable : Writable 0 (.mapping entries)) (present : entries ≠ [])
    (deep : depth (.mapping entries) < Reader.deepest) :
    NodeGraph.ofText (writeDocument entries).toList =
      .ok (some ⟨(nodesOf 0 (.mapping entries)).toArray, 0⟩) := by
  have tokens : tokensOf (.mapping entries) =
      .mappingStart :: (tokensOfEntries entries ++ [.blockEnd]) := by
    simp [tokensOf, present]
  have reads := @Reader.node_tokensOf _ (isNested_of_writable writable) [] [] #[] [] .block
    Reader.deepest (4 * (tokensOf (.mapping entries)).length + 4) (by decide) deep (by omega)
  rw [List.append_nil] at reads
  unfold NodeGraph.ofText
  rw [Scan.ofText_writeDocument writable present]
  simp only
  generalize 4 * (tokensOf (.mapping entries)).length + 4 = fuel at reads ⊢
  rw [tokens] at reads ⊢
  have read := Reader.onlyDocument_eq reads
  change ((Reader.onlyDocument fuel ⟨⟨_, none⟩, [], [], #[]⟩) >>= fun result =>
    Except.ok (result.1.map fun root => (⟨result.2.nodes, root⟩ : NodeGraph))) = _
  rw [read]
  change Except.ok (some (⟨#[] ++ (nodesOf 0 (.mapping entries)).toArray, 0⟩ : NodeGraph)) = _
  rw [Array.empty_append]

end UnitLift.Yaml
