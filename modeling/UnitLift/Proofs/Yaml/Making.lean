import Mathlib.Data.List.Perm.Subperm
import UnitLift.Proofs.Yaml.Reading
import UnitLift.Yaml.Datum

/-! The data of the nodes of a value. A mapping is found before its parts, which are looked for in the order
in which the mappings came up; in the end every mapping that was found has its entries. -/

namespace UnitLift.Yaml

/-! ## What stands where -/

def scalarOfTag (tag text : String) : Except Flaw Scalar :=
  match tag with
  | "tag:yaml.org,2002:null" => .ok .null
  | "tag:yaml.org,2002:bool" => .bool <$> boolOf text
  | "tag:yaml.org,2002:int" => .int <$> Number.int text.toList
  | "tag:yaml.org,2002:float" => .real <$> Number.float text.toList
  | "tag:yaml.org,2002:str" => .ok (.text text)
  | _ => .error .unknownTag

/-- A scalar that is read as it was written. -/
def IsClear (scalar : Scalar) : Prop :=
  scalarOfTag (scalarNode scalar).tag (scalarText scalar) = .ok scalar

def datumOf (id : NodeId) : Value → Datum
  | .scalar scalar => .scalar scalar
  | _ => .mapping id

def entryDataOf (ids : List (NodeId × NodeId)) (entries : List (Scalar × Value)) :
    List (Datum × Datum) :=
  ids.zipWith (fun id entry => (.scalar entry.1, datumOf id.2 entry.2)) entries

/-- The nodes from a number on are those of a value. -/
inductive Stands (nodes : Array Node) : NodeId → Value → Prop
  | scalar {id : NodeId} {scalar : Scalar} (found : nodes[id]? = some (scalarNode scalar))
      (clear : IsClear scalar) : Stands nodes id (.scalar scalar)
  | mapping {id : NodeId} {ids : List (NodeId × NodeId)} {entries : List (Scalar × Value)}
      (found : nodes[id]? = some ⟨mappingTag, .mapping ids⟩) (length : ids.length = entries.length)
      (texts : entries.all (isText ·.1) = true) (distinct : (entries.map (·.1)).Nodup)
      (keys : ∀ pair ∈ ids.zip entries,
        nodes[pair.1.1]? = some (scalarNode pair.2.1) ∧ IsClear pair.2.1)
      (values : ∀ pair ∈ ids.zip entries, Stands nodes pair.1.2 pair.2.2) :
      Stands nodes id (.mapping entries)

theorem Stands.datumOf_eq {nodes : Array Node} {id : NodeId} {value other : Value}
    (stands : Stands nodes id value) (also : Stands nodes id other) :
    datumOf id value = datumOf id other := by
  cases stands with
  | @scalar _ scalar found clear =>
    cases also with
    | @scalar _ twin same clear' =>
      have nodes := Option.some.inj (found.symm.trans same)
      have texts : scalarText scalar = scalarText twin := by
        simpa [scalarNode] using congrArg Node.content nodes
      rw [IsClear, nodes, texts, clear'] at clear
      rw [Except.ok.inj clear]
    | mapping same =>
      have nodes := congrArg Node.content (Option.some.inj (found.symm.trans same))
      cases nodes
  | mapping found =>
    cases also with
    | scalar same =>
      have nodes := congrArg Node.content (Option.some.inj (same.symm.trans found))
      cases nodes
    | mapping => rfl

theorem Stands.unique {nodes : Array Node} {id : NodeId} {value other : Value}
    (stands : Stands nodes id value) (also : Stands nodes id other) : value = other := by
  have data := stands.datumOf_eq also
  induction stands generalizing other with
  | scalar found clear =>
    cases also with
    | scalar => rw [Datum.scalar.inj data]
    | mapping => cases data
  | @mapping id ids entries found length texts distinct keys values ih =>
    cases also with
    | scalar => cases data
    | @mapping _ ids' entries' found' length' texts' distinct' keys' values' =>
      obtain rfl : ids = ids' := by simpa using found.symm.trans found'
      congr 1
      refine List.ext_getElem (length.symm.trans length') fun i inside inside' => ?_
      have within : i < ids.length := length ▸ inside
      have first : (ids[i], entries[i]) ∈ ids.zip entries :=
        List.mem_iff_getElem.mpr ⟨i, by rw [List.length_zip]; omega, by simp⟩
      have second : (ids[i], entries'[i]) ∈ ids.zip entries' :=
        List.mem_iff_getElem.mpr ⟨i, by rw [List.length_zip]; omega, by simp⟩
      have key := (Stands.scalar (keys _ first).1 (keys _ first).2).datumOf_eq
        (.scalar (keys' _ second).1 (keys' _ second).2)
      have value := ih _ first (values' (ids[i], entries'[i]) second)
        ((values _ first).datumOf_eq (values' (ids[i], entries'[i]) second))
      exact Prod.ext (Datum.scalar.inj key) value

namespace Maker

/-- Data have been found as they should be. -/
structure Sound (nodes : Array Node) (making : Making) : Prop where
  same : making.nodes = nodes
  made : ∀ id datum, making.made[id]? = some (some datum) →
    ∃ value, Stands nodes id value ∧ datum = datumOf id value
  collected : ∀ id entries, Stands nodes id (.mapping entries) → making.made[id]? ≠ some none →
    id ∈ making.collections.toList
  mappings : ∀ id ∈ making.collections.toList,
    making.made[id]? = some (some (.mapping id)) ∧ ∃ entries, Stands nodes id (.mapping entries)
  once : making.collections.toList.Nodup
  size : making.made.size = nodes.size
  room : making.parts.size = nodes.size

/-- Making goes on: no collection is lost, and what is known of their parts stays. -/
structure Extends (making next : Making) : Prop where
  collections : making.collections.toList <+: next.collections.toList
  parts : next.parts = making.parts
  mergeKeys : next.mergeKeys = making.mergeKeys

theorem Extends.refl (making : Making) : Extends making making :=
  ⟨List.prefix_rfl, rfl, rfl⟩

theorem Extends.trans {making middle next : Making} (first : Extends making middle)
    (second : Extends middle next) : Extends making next :=
  ⟨first.collections.trans second.collections, second.parts.trans first.parts,
    second.mergeKeys.trans first.mergeKeys⟩

variable {nodes : Array Node} {making : Making} {id : NodeId} {value : Value}

private theorem node_eq (sound : Sound nodes making) {found : Node} (there : nodes[id]? = some found) :
    node id making = .ok (found, making) := by
  change Except.ok (making.nodes[id]?.getD default, making) = _
  rw [sound.same, there]
  rfl

private theorem textOf_eq (sound : Sound nodes making) {tag text : String}
    (there : nodes[id]? = some ⟨tag, .scalar text⟩) (fuel : Nat) :
    textOf (fuel + 1) id making = .ok (text, making) := by
  rw [textOf, run_bind (node_eq sound there)]
  rfl

/-- The datum of a node that has been found before. -/
private theorem datum_of_made {datum : Datum} (made : making.made[id]? = some (some datum)) :
    Maker.datum id making = .ok (datum, making) := by
  have got : (get : Maker Making) making = .ok (making, making) := rfl
  rw [Maker.datum, run_bind got]
  simp only [made]
  rfl

/-- What has been read from a text is kept as a scalar. -/
private theorem keep_read {α : Type} {wrap : α → Scalar} {result : Except Flaw α} {scalar : Scalar}
    (reads : wrap <$> result = .ok scalar) :
    ((liftM result : Maker α) >>= fun value => keep id (.scalar (wrap value))) making =
      keep id (.scalar scalar) making := by
  cases result with
  | error => cases reads
  | ok value =>
    cases reads
    rfl

private theorem datum_of_scalar (sound : Sound nodes making) {tag text : String} {scalar : Scalar}
    (there : nodes[id]? = some ⟨tag, .scalar text⟩) (unmade : making.made[id]? = some none)
    (reads : scalarOfTag tag text = .ok scalar) :
    Maker.datum id making = keep id (.scalar scalar) making := by
  have got : (get : Maker Making) making = .ok (making, making) := rfl
  have textRun : (do textOf ((← get).nodes.size + 1) id : Maker String) making = .ok (text, making) := by
    rw [run_bind got]
    exact textOf_eq sound there _
  rw [Maker.datum, run_bind got]
  simp only [unmade]
  unfold scalarOfTag at reads
  split at reads
  all_goals rw [run_bind (node_eq sound there)]
  case h_1 =>
    cases reads
    simp only [run_bind textRun]
  case h_2 | h_3 | h_4 =>
    simp only [run_bind textRun]
    exact keep_read reads
  case h_5 =>
    cases reads
    simp only [run_bind textRun]
  case h_6 => cases reads

private theorem datum_of_mapping (sound : Sound nodes making) {ids : List (NodeId × NodeId)}
    (there : nodes[id]? = some ⟨mappingTag, .mapping ids⟩) (unmade : making.made[id]? = some none) :
    Maker.datum id making = keep id (.mapping id) making := by
  have got : (get : Maker Making) making = .ok (making, making) := rfl
  rw [Maker.datum, run_bind got]
  simp only [unmade]
  rw [run_bind (node_eq sound there)]
  rfl

private theorem made_kept (sound : Sound nodes making) (stands : Stands nodes id value) {other : NodeId}
    {datum : Datum}
    (made : (making.made.setIfInBounds id (some (datumOf id value)))[other]? = some (some datum)) :
    ∃ value, Stands nodes other value ∧ datum = datumOf other value := by
  rw [Array.getElem?_setIfInBounds] at made
  split at made
  · rename_i here
    subst here
    split at made
    · exact ⟨value, stands, by simpa using made.symm⟩
    · cases made
  · exact sound.made other datum made

private theorem keep_scalar (sound : Sound nodes making) {scalar : Scalar}
    (stands : Stands nodes id (.scalar scalar)) (unmade : making.made[id]? = some none) :
    ∃ next, keep id (.scalar scalar) making = .ok (.scalar scalar, next) ∧ Sound nodes next ∧
      Extends making next ∧ next.made[id]? ≠ some none := by
  have inside : id < making.made.size := (Array.getElem?_eq_some_iff.mp unmade).1
  have keeps (other : NodeId) (known : making.made[other]? ≠ some none) :
      (making.made.setIfInBounds id (some (.scalar scalar)))[other]? = making.made[other]? := by
    rw [Array.getElem?_setIfInBounds_ne]
    rintro rfl
    exact known unmade
  refine ⟨{ making with made := making.made.setIfInBounds id (some (.scalar scalar)) }, rfl, ?_,
    ⟨List.prefix_rfl, rfl, rfl⟩, by simp [inside]⟩
  exact {
    same := sound.same
    made := fun other datum made => made_kept sound stands made
    collected := fun other entries also known => by
      by_cases here : id = other
      · subst here
        cases stands.datumOf_eq also
      · rw [Array.getElem?_setIfInBounds_ne here] at known
        exact sound.collected other entries also known
    mappings := fun other member => by
      obtain ⟨made, found⟩ := sound.mappings other member
      exact ⟨(keeps other (by simp [made])).trans made, found⟩
    once := sound.once
    size := by simpa using sound.size
    room := sound.room }

private theorem keep_mapping (sound : Sound nodes making) {entries : List (Scalar × Value)}
    (stands : Stands nodes id (.mapping entries)) (unmade : making.made[id]? = some none) :
    ∃ next, keep id (.mapping id) making = .ok (.mapping id, next) ∧ Sound nodes next ∧
      Extends making next ∧ next.made[id]? ≠ some none := by
  have inside : id < making.made.size := (Array.getElem?_eq_some_iff.mp unmade).1
  have fresh : id ∉ making.collections.toList := by
    intro member
    have made := (sound.mappings id member).1
    rw [unmade] at made
    cases made
  refine ⟨{ making with
      made := making.made.setIfInBounds id (some (.mapping id))
      collections := making.collections.push id }, rfl, ?_,
    ⟨by simp, rfl, rfl⟩, by simp [inside]⟩
  exact {
    same := sound.same
    made := fun other datum made => made_kept sound stands made
    collected := fun other others also known => by
      by_cases here : id = other
      · simp [here]
      · rw [Array.getElem?_setIfInBounds_ne here] at known
        simp [sound.collected other others also known]
    mappings := fun other member => by
      rw [Array.toList_push, List.mem_append, List.mem_singleton] at member
      rcases member with before | rfl
      · have apart : id ≠ other := fun same => fresh (same ▸ before)
        obtain ⟨made, found⟩ := sound.mappings other before
        exact ⟨(Array.getElem?_setIfInBounds_ne apart).trans made, found⟩
      · exact ⟨by simp [inside], entries, stands⟩
    once := by
      rw [Array.toList_push, List.nodup_append]
      exact ⟨sound.once, by simp, fun other member last also => by
        rw [List.mem_singleton.mp also]
        exact fun same => fresh (same ▸ member)⟩
    size := by simpa using sound.size
    room := sound.room }

theorem datum_eq (sound : Sound nodes making) (stands : Stands nodes id value) :
    ∃ next, Maker.datum id making = .ok (datumOf id value, next) ∧ Sound nodes next ∧
      Extends making next ∧ next.made[id]? ≠ some none := by
  have inside : id < making.made.size := by
    rw [sound.size]
    cases stands with
    | scalar found => exact (Array.getElem?_eq_some_iff.mp found).1
    | mapping found => exact (Array.getElem?_eq_some_iff.mp found).1
  cases known : making.made[id] with
  | some datum =>
    have made : making.made[id]? = some (some datum) := by simp [inside, known]
    obtain ⟨twin, also, rfl⟩ := sound.made id datum made
    refine ⟨making, ?_, sound, .refl making, by simp [made]⟩
    rw [stands.datumOf_eq also]
    exact datum_of_made made
  | none =>
    have unmade : making.made[id]? = some none := by simp [inside, known]
    cases stands with
    | scalar found clear =>
      rw [datum_of_scalar sound found unmade clear]
      exact keep_scalar sound (.scalar found clear) unmade
    | mapping found length texts distinct keys values =>
      rw [datum_of_mapping sound found unmade]
      exact keep_mapping sound (.mapping found length texts distinct keys values) unmade

/-! ## Entries -/

theorem tag_of_isClear {text : String} (clear : IsClear (.text text)) :
    (scalarNode (.text text)).tag = ScalarKind.text.tag := by
  unfold IsClear scalarOfTag at clear
  split at clear
  · cases clear
  · cases found : boolOf (scalarText (.text text)) with
    | error => simp [found] at clear
    | ok value =>
      rw [found] at clear
      cases clear
  · cases found : Number.int (scalarText (.text text)).toList with
    | error => simp [found] at clear
    | ok value =>
      rw [found] at clear
      cases clear
  · cases found : Number.float (scalarText (.text text)).toList with
    | error => simp [found] at clear
    | ok value =>
      rw [found] at clear
      cases clear
  · rename_i tag
    exact tag
  · cases clear

/-- The keys and values of a mapping are where their numbers say. -/
def EntriesStand (nodes : Array Node) (ids : List (NodeId × NodeId))
    (entries : List (Scalar × Value)) : Prop :=
  List.Forall₂ (fun id entry => (∃ text, entry.1 = .text text ∧
    nodes[id.1]? = some (scalarNode (.text text)) ∧ IsClear (.text text)) ∧
    Stands nodes id.2 entry.2) ids entries

variable {ids : List (NodeId × NodeId)} {entries : List (Scalar × Value)}

private theorem refuseRepeated_eq (sound : Sound nodes making) (stand : EntriesStand nodes ids entries)
    {seen : List String} (distinct : (entries.map (·.1)).Nodup)
    (unseen : ∀ text ∈ seen, .text text ∉ entries.map (·.1)) :
    refuseRepeated seen ids making = .ok ((), making) := by
  induction stand generalizing seen with
  | nil => rfl
  | @cons id entry ids entries here rest ih =>
    obtain ⟨⟨text, key, found, clear⟩, -⟩ := here
    have tag : ((scalarNode (.text text)).tag != ScalarKind.text.tag) = false := by
      simp [tag_of_isClear clear]
    rw [List.map_cons, List.nodup_cons] at distinct
    have unrepeated : seen.contains text = false := by
      simpa using fun member => unseen text member (by simp [key])
    have further : ∀ known ∈ text :: seen, .text known ∉ entries.map (·.1) := by
      refine List.forall_mem_cons.mpr ⟨key ▸ distinct.1, fun known member present => ?_⟩
      exact unseen known member (List.mem_cons_of_mem _ present)
    rw [refuseRepeated, run_bind (node_eq sound found)]
    simp only [tag, Bool.false_eq_true, ↓reduceIte]
    change (if seen.contains text then _ else _ : Maker Unit) making = _
    rw [unrepeated]
    exact ih distinct.2 further

private theorem splitAtMerge_eq (sound : Sound nodes making) (stand : EntriesStand nodes ids entries) :
    splitAtMerge ids making = .ok ((ids, none), making) := by
  induction stand with
  | nil => rfl
  | @cons id entry ids entries here rest ih =>
    obtain ⟨⟨text, key, found, clear⟩, -⟩ := here
    have tag := tag_of_isClear clear
    rw [splitAtMerge, run_bind (node_eq sound found)]
    simp only [tag]
    change (splitAtMerge ids >>= fun result => pure (((id.1, id.2) :: result.1), result.2)) making = _
    rw [run_bind ih]
    rfl

private theorem flatten_eq (sound : Sound nodes making) (stand : EntriesStand nodes ids entries)
    (there : nodes[id]? = some ⟨mappingTag, .mapping ids⟩) (merges : Nat) :
    flatten merges id making = .ok (ids, making) := by
  have found : entries? id making = .ok (some ids, making) := by
    rw [entries?, run_bind (node_eq sound there)]
    rfl
  have split := splitAtMerge_eq sound stand
  cases merges with
  | zero =>
    rw [flatten, run_bind found]
    simp only [Option.getD_some]
    rw [run_bind split]
    rfl
  | succ merges =>
    rw [flatten, run_bind found]
    simp only [Option.getD_some]
    rw [run_bind split]
    rfl

private theorem write_append {key : Datum} (value : Datum) {written : List (Datum × Datum)}
    (apart : ∀ entry ∈ written, entry.1.isSameKey key = false) :
    Datum.write key value written = written ++ [(key, value)] := by
  induction written with
  | nil => rfl
  | cons entry rest ih =>
    rw [Datum.write, apart entry (by simp), ih fun other member => apart other (by simp [member])]
    rfl

/-- Finding the data of entries, behind those of others with other keys. -/
private theorem foldlM_entries (sound : Sound nodes making) (stand : EntriesStand nodes ids entries)
    {written : List (Datum × Datum)} (distinct : (entries.map (·.1)).Nodup)
    (apart : ∀ known ∈ written, ∀ entry ∈ entries, known.1.isSameKey (.scalar entry.1) = false) :
    ∃ next, (ids.foldlM (fun written (key, value) => do
        let key ← datum key
        if key.isCollection then throw .compoundKey
        return Datum.write key (← datum value) written) written : Maker (List (Datum × Datum))) making =
        .ok (written ++ entryDataOf ids entries, next) ∧
      Sound nodes next ∧ Extends making next ∧
      ∀ pair ∈ ids.zip entries, ∀ parts, pair.2.2 = .mapping parts →
        pair.1.2 ∈ next.collections.toList := by
  induction stand generalizing making written with
  | nil => exact ⟨making, by simp [entryDataOf]; rfl, sound, .refl making, by simp⟩
  | @cons id entry ids entries here rest ih =>
    obtain ⟨⟨text, key, found, clear⟩, stands⟩ := here
    rw [List.map_cons, List.nodup_cons] at distinct
    obtain ⟨middle, keyMade, soundMiddle, toMiddle, -⟩ := datum_eq sound (.scalar found clear)
    obtain ⟨behind, valueMade, soundBehind, toBehind, known⟩ := datum_eq soundMiddle stands
    have writes := write_append (datumOf id.2 entry.2)
      fun known member => key ▸ apart known member entry (by simp)
    have further : ∀ known ∈ written ++ [(.scalar entry.1, datumOf id.2 entry.2)],
        ∀ other ∈ entries, known.1.isSameKey (.scalar other.1) = false := by
      intro known member other also
      rcases List.mem_append.mp member with before | last
      · exact apart known before other (by simp [also])
      · rw [List.mem_singleton.mp last, key]
        refine Scalar.isSameKey_of_ne fun same => distinct.1 ?_
        exact key ▸ List.mem_map.mpr ⟨other, also, same⟩
    obtain ⟨next, ran, soundNext, toNext, members⟩ := ih soundBehind distinct.2 further
    refine ⟨next, ?_, soundNext, (toMiddle.trans toBehind).trans toNext, ?_⟩
    · rw [List.foldlM_cons, run_bind]
      · rw [ran]
        simp [entryDataOf]
      · simp only
        rw [run_bind keyMade]
        change (datum id.2 >>= fun value => pure (Datum.write (.scalar (.text text)) value written)) middle = _
        rw [run_bind valueMade, writes, key]
        rfl
    · rw [List.zip_cons_cons]
      refine List.forall_mem_cons.mpr ⟨fun parts same => ?_, members⟩
      simp only at same
      exact toNext.collections.subset (soundBehind.collected id.2 parts (same ▸ stands) known)

/-! ## Parts -/

theorem entriesStand_of_zip (length : ids.length = entries.length)
    (texts : entries.all (isText ·.1) = true)
    (keys : ∀ pair ∈ ids.zip entries,
      nodes[pair.1.1]? = some (scalarNode pair.2.1) ∧ IsClear pair.2.1)
    (values : ∀ pair ∈ ids.zip entries, Stands nodes pair.1.2 pair.2.2) :
    EntriesStand nodes ids entries := by
  refine List.forall₂_iff_zip.mpr ⟨length, fun {id entry} member => ⟨?_, values _ member⟩⟩
  have isText := List.all_eq_true.mp texts entry (List.of_mem_zip member).2
  obtain ⟨found, clear⟩ := keys _ member
  cases key : entry.1 with
  | text text => exact ⟨text, rfl, key ▸ found, key ▸ clear⟩
  | _ => simp [key, Yaml.isText] at isText

/-- What is known of the parts of a collection. -/
def Settled (nodes : Array Node) (making : Making) (id : NodeId) : Prop :=
  ∃ ids entries, Stands nodes id (.mapping entries) ∧ nodes[id]? = some ⟨mappingTag, .mapping ids⟩ ∧
    making.parts[id]? = some (.entries (entryDataOf ids entries)) ∧
    ∀ pair ∈ ids.zip entries, ∀ parts, pair.2.2 = .mapping parts →
      pair.1.2 ∈ making.collections.toList

theorem findParts_eq (sound : Sound nodes making) (member : id ∈ making.collections.toList) :
    ∃ next, findParts id making = .ok ((), next) ∧ Sound nodes next ∧
      making.collections.toList <+: next.collections.toList ∧
      (∀ other, other ≠ id → next.parts[other]? = making.parts[other]?) ∧ Settled nodes next id := by
  obtain ⟨-, entries, stands⟩ := sound.mappings id member
  have whole := stands
  cases stands with
  | @mapping _ ids _ found length texts distinct keys values =>
    have stand := entriesStand_of_zip length texts keys values
    have apart : ∀ known ∈ ([] : List (Datum × Datum)), ∀ entry ∈ entries,
        known.1.isSameKey (.scalar entry.1) = false := by simp
    obtain ⟨next, folded, soundNext, toNext, members⟩ := foldlM_entries sound stand distinct apart
    have data : entryData id making = .ok (entryDataOf ids entries, next) := by
      rw [entryData, run_bind (node_eq sound found)]
      simp only
      rw [run_bind (refuseRepeated_eq sound stand distinct (by simp))]
      have got : (get : Maker Making) making = .ok (making, making) := rfl
      rw [run_bind got, run_bind (flatten_eq sound stand found _)]
      exact folded
    have run : findParts id making = .ok ((), { next with
        parts := next.parts.setIfInBounds id (.entries (entryDataOf ids entries)) }) := by
      rw [findParts, run_bind (node_eq sound found)]
      change ((Parts.entries <$> entryData id : Maker Parts) >>= _) making = _
      have mapped : (Parts.entries <$> entryData id : Maker Parts) making =
          .ok (.entries (entryDataOf ids entries), next) := by
        simp [Functor.map, StateT.map, data, bind, Except.bind, pure, Except.pure]
      rw [run_bind mapped]
      rfl
    have inside : id < next.parts.size := by
      rw [soundNext.room]
      exact (Array.getElem?_eq_some_iff.mp found).1
    refine ⟨_, run, ?_, toNext.collections, fun other apart => ?_, ids, entries, whole, found, ?_, members⟩
    · exact { soundNext with room := by simpa using soundNext.room }
    · rw [← toNext.parts]
      exact Array.getElem?_setIfInBounds_ne apart.symm
    · simp [inside]

private theorem Settled.mono {next : Making} (settled : Settled nodes making id)
    (collections : making.collections.toList <+: next.collections.toList)
    (parts : next.parts[id]? = making.parts[id]?) : Settled nodes next id := by
  obtain ⟨ids, entries, stands, there, found, members⟩ := settled
  exact ⟨ids, entries, stands, there, parts.trans found,
    fun pair member entries same => collections.subset (members pair member entries same)⟩

private theorem size_collections_le (sound : Sound nodes making) :
    making.collections.size ≤ nodes.size := by
  have inside : making.collections.toList ⊆ List.range nodes.size := by
    intro id member
    obtain ⟨made, -⟩ := sound.mappings id member
    rw [List.mem_range, ← sound.size]
    exact (Array.getElem?_eq_some_iff.mp made).1
  simpa using (List.subperm_of_subset sound.once inside).length_le

theorem findAllParts_eq (sound : Sound nodes making) (next fuel : Nat)
    (enough : nodes.size ≤ next + fuel)
    (settled : ∀ i < next, ∀ id, making.collections[i]? = some id → Settled nodes making id) :
    ∃ last, findAllParts next fuel making = .ok ((), last) ∧
      making.collections.toList <+: last.collections.toList ∧
      ∀ id ∈ last.collections.toList, Settled nodes last id := by
  induction fuel generalizing making next with
  | zero =>
    refine ⟨making, rfl, List.prefix_rfl, fun id member => ?_⟩
    obtain ⟨i, found⟩ := List.mem_iff_getElem?.mp member
    rw [Array.getElem?_toList] at found
    have inside := (Array.getElem?_eq_some_iff.mp found).1
    have few := size_collections_le sound
    exact settled i (by omega) id found
  | succ fuel ih =>
    have got : (get : Maker Making) making = .ok (making, making) := rfl
    rw [findAllParts, run_bind got]
    cases found : making.collections[next]? with
    | none =>
      refine ⟨making, rfl, List.prefix_rfl, fun id member => ?_⟩
      obtain ⟨i, here⟩ := List.mem_iff_getElem?.mp member
      rw [Array.getElem?_toList] at here
      have inside := (Array.getElem?_eq_some_iff.mp here).1
      have few := Array.getElem?_eq_none_iff.mp found
      exact settled i (by omega) id here
    | some id =>
      have member : id ∈ making.collections.toList := by
        rw [← Array.getElem?_toList] at found
        exact List.mem_of_getElem? found
      obtain ⟨middle, ran, soundMiddle, collections, others, here⟩ := findParts_eq sound member
      have settledMiddle : ∀ i < next + 1, ∀ id, middle.collections[i]? = some id →
          Settled nodes middle id := by
        intro i before other there
        have inside := (Array.getElem?_eq_some_iff.mp found).1
        have known : making.collections[i]? = some other := by
          obtain ⟨added, all⟩ := collections
          rw [← Array.getElem?_toList, ← all, List.getElem?_append_left (by simp; omega)] at there
          simpa using there
        by_cases last : i = next
        · subst last
          obtain rfl := Option.some.inj (found.symm.trans known)
          exact here
        · have apart : other ≠ id := by
            rintro rfl
            have inside := (Array.getElem?_eq_some_iff.mp known).1
            exact last ((List.getElem?_inj (by simpa using inside) sound.once).mp
              (by simpa using known.trans found.symm))
          exact (settled i (by omega) other known).mono collections (others other apart)
      obtain ⟨last, rest, more, all⟩ := ih soundMiddle _ (by omega) settledMiddle
      refine ⟨last, ?_, collections.trans more, all⟩
      simp only
      rw [run_bind ran]
      exact rest

end Maker

/-! ## Data -/

/-- The parts of the collections in a value are known. -/
inductive Known (parts : Array Parts) : NodeId → Value → Prop
  | scalar {id : NodeId} (scalar : Scalar) : Known parts id (.scalar scalar)
  | mapping {id : NodeId} {ids : List (NodeId × NodeId)} {entries : List (Scalar × Value)}
      (found : parts[id]? = some (.entries (entryDataOf ids entries)))
      (length : ids.length = entries.length)
      (values : ∀ pair ∈ ids.zip entries, Known parts pair.1.2 pair.2.2) :
      Known parts id (.mapping entries)

theorem known_of_settled {nodes : Array Node} {making : Making} {id : NodeId} {value : Value}
    (stands : Stands nodes id value)
    (all : ∀ id ∈ making.collections.toList, Maker.Settled nodes making id)
    (member : ∀ entries, value = .mapping entries → id ∈ making.collections.toList) :
    Known making.parts id value := by
  induction stands with
  | scalar => exact .scalar _
  | @mapping id ids entries found length texts distinct keys values ih =>
    obtain ⟨ids', entries', stands, there, parts, members⟩ := all id (member entries rfl)
    obtain rfl : ids = ids' := by simpa using found.symm.trans there
    obtain rfl : entries = entries' := by
      simpa using (Stands.mapping found length texts distinct keys values).unique stands
    exact .mapping parts length fun pair inside => ih pair inside (members pair inside)

theorem Data.ofNodes_eq {nodes : Array Node} {root : NodeId} {value : Value}
    (stands : Stands nodes root value) :
    ∃ parts, Data.ofNodes ⟨nodes, root⟩ = .ok ⟨datumOf root value, parts⟩ ∧ Known parts root value := by
  let start : Making :=
    { nodes, made := Array.replicate nodes.size none, parts := Array.replicate nodes.size (.items [])
      mergeKeys := mergeKeys nodes }
  have sound : Maker.Sound nodes start := {
    same := rfl
    made := fun id datum made => by simp [start, Array.getElem?_replicate] at made
    collected := fun id entries stands known => by
      refine absurd ?_ known
      cases stands with
      | mapping found =>
        have inside := (Array.getElem?_eq_some_iff.mp found).1
        simp [start, inside]
    mappings := fun id member => by simp [start] at member
    once := by simp [start]
    size := by simp [start]
    room := by simp [start] }
  obtain ⟨next, rootMade, soundNext, -, known⟩ := Maker.datum_eq sound stands
  obtain ⟨last, rest, more, all⟩ := Maker.findAllParts_eq soundNext 0 nodes.size
    (by omega) (by simp)
  refine ⟨last.parts, ?_, known_of_settled stands all fun entries same => ?_⟩
  · have work : (do
        let root ← Maker.datum root
        Maker.findAllParts 0 nodes.size
        return root : Maker Datum) start = .ok (datumOf root value, last) := by
      rw [run_bind rootMade, run_bind rest]
      rfl
    unfold Data.ofNodes
    change ((do
      let root ← Maker.datum root
      Maker.findAllParts 0 nodes.size
      return root : Maker Datum) start >>= fun result => Except.ok (Data.mk result.1 result.2.parts)) = _
    rw [work]
    rfl
  · subst same
    exact more.subset (soundNext.collected root entries stands known)

/-- A value of which each scalar is read as it was written, and no key is there twice. -/
inductive IsLegible : Value → Prop
  | scalar {scalar : Scalar} (clear : IsClear scalar) : IsLegible (.scalar scalar)
  | mapping {entries : List (Scalar × Value)} (texts : entries.all (isText ·.1) = true)
      (distinct : (entries.map (·.1)).Nodup) (keys : ∀ entry ∈ entries, IsClear entry.1)
      (values : ∀ entry ∈ entries, IsLegible entry.2) : IsLegible (.mapping entries)

theorem length_entryIds (start : NodeId) (entries : List (Scalar × Value)) :
    (entryIds start entries).length = entries.length := by
  induction entries generalizing start with
  | nil => rfl
  | cons entry rest ih => rw [entryIds, List.length_cons, List.length_cons, ih]

def Holds (nodes : Array Node) (start : NodeId) (list : List Node) : Prop :=
  ∀ i node, list[i]? = some node → nodes[start + i]? = some node

theorem Holds.of_cons {nodes : Array Node} {start : NodeId} {node : Node} {rest : List Node}
    (holds : Holds nodes start (node :: rest)) :
    nodes[start]? = some node ∧ Holds nodes (start + 1) rest := by
  refine ⟨holds 0 node rfl, fun i other found => ?_⟩
  rw [Nat.add_assoc, Nat.add_comm 1]
  exact holds (i + 1) other found

theorem Holds.of_append {nodes : Array Node} {start : NodeId} {first second : List Node}
    (holds : Holds nodes start (first ++ second)) :
    Holds nodes start first ∧ Holds nodes (start + first.length) second := by
  refine ⟨fun i node found => holds i node ?_, fun i node found => ?_⟩
  · rw [List.getElem?_append_left (List.getElem?_eq_some_iff.mp found).1, found]
  · rw [Nat.add_assoc]
    refine holds (first.length + i) node ?_
    rw [List.getElem?_append_right (Nat.le_add_right _ _), Nat.add_sub_cancel_left, found]

/-- The nodes of a legible value are where their numbers say. -/
theorem IsLegible.stands {value : Value} (legible : IsLegible value) {nodes : Array Node} {start : NodeId}
    (holds : Holds nodes start (nodesOf start value)) : Stands nodes start value := by
  induction legible generalizing start with
  | scalar clear => exact .scalar (holds 0 _ rfl) clear
  | @mapping entries texts distinct keys values ih =>
    rw [nodesOf] at holds
    obtain ⟨found, parts⟩ := holds.of_cons
    have each : ∀ pair ∈ (entryIds (start + 1) entries).zip entries,
        nodes[pair.1.1]? = some (scalarNode pair.2.1) ∧ Stands nodes pair.1.2 pair.2.2 := by
      clear found holds texts distinct keys
      generalize start + 1 = next at parts ⊢
      induction entries generalizing next with
      | nil => simp
      | cons entry rest ihRest =>
        obtain ⟨key, value⟩ := entry
        rw [nodesOfEntries, List.cons_append] at parts
        obtain ⟨keyFound, others⟩ := parts.of_cons
        obtain ⟨valueHolds, after⟩ := others.of_append
        rw [length_nodesOf] at after
        rw [entryIds, List.zip_cons_cons]
        refine List.forall_mem_cons.mpr ⟨⟨keyFound, ih (key, value) (by simp) valueHolds⟩, ?_⟩
        exact ihRest (fun entry member => values entry (List.mem_cons_of_mem _ member))
          (fun entry member => ih entry (List.mem_cons_of_mem _ member)) _ after
    exact .mapping found (length_entryIds _ _) texts distinct
      (fun pair member => ⟨(each pair member).1, keys _ (List.of_mem_zip member).2⟩)
      fun pair member => (each pair member).2

end UnitLift.Yaml
