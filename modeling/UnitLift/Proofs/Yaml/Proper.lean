import UnitLift.Proofs.Number.WellFormed
import UnitLift.Yaml.Datum

namespace UnitLift.Yaml

def Datum.IsProper : Datum → Prop
  | .scalar value => value.IsProper
  | _ => True

/-- All data among the parts of a collection are proper. -/
def Parts.IsProper : Parts → Prop
  | .items data => ∀ datum ∈ data, datum.IsProper
  | .pairs data | .entries data => ∀ pair ∈ data, pair.1.IsProper ∧ pair.2.IsProper

/-- All data that have been found are proper. -/
structure Making.IsProper (making : Making) : Prop where
  made : ∀ (id : NodeId) (datum : Datum), making.made[id]? = some (some datum) → datum.IsProper
  parts : ∀ (id : NodeId) (parts : Parts), making.parts[id]? = some parts → parts.IsProper

namespace Maker

variable {α β : Type}

/-- Work that finds proper data only, and of which the result is one that there can be. -/
def Gives (work : Maker α) (result : α → Prop) : Prop :=
  ∀ ⦃making left : Making⦄ ⦃value : α⦄, making.IsProper → work making = .ok (value, left) →
    left.IsProper ∧ result value

/-! ## Combining work -/

theorem Gives.pure {result : α → Prop} {value : α} (holds : result value) :
    Gives (pure value : Maker α) result := by
  intro making left found proper ran
  cases ran
  exact ⟨proper, holds⟩

theorem Gives.throw {result : α → Prop} (flaw : Flaw) : Gives (throw flaw : Maker α) result := nofun

private theorem gives_throw (flaw : Flaw) : Gives (throw flaw : Maker α) fun _ => True := .throw flaw

theorem Gives.lift {result : α → Prop} {found : Except Flaw α}
    (holds : ∀ value, found = .ok value → result value) : Gives (liftM found : Maker α) result := by
  intro making left value proper ran
  cases found with
  | error => cases ran
  | ok value =>
    cases ran
    exact ⟨proper, holds _ rfl⟩

private theorem gives_lift (found : Except Flaw α) : Gives (liftM found : Maker α) fun _ => True :=
  .lift fun _ _ => trivial

theorem Gives.bind {first : α → Prop} {result : β → Prop} {work : Maker α} {next : α → Maker β}
    (gives : Gives work first) (goesOn : ∀ value, first value → Gives (next value) result) :
    Gives (work >>= next) result := by
  intro making left value proper ran
  change (work making >>= fun (found, between) => next found between) = _ at ran
  cases worked : work making with
  | error flaw =>
    rw [worked] at ran
    cases ran
  | ok found =>
    rw [worked] at ran
    obtain ⟨proper', holds⟩ := gives proper worked
    exact goesOn _ holds proper' ran

theorem Gives.map {result : β → Prop} {change : α → β} {work : Maker α}
    (gives : Gives work (result ∘ change)) : Gives (change <$> work) result := by
  rw [map_eq_pure_bind]
  exact gives.bind fun _ holds => .pure holds

theorem Gives.get : Gives (get : Maker Making) Making.IsProper := by
  intro making left value proper ran
  cases ran
  exact ⟨proper, proper⟩

theorem Gives.modify {change : Making → Making}
    (keeps : ∀ making, making.IsProper → (change making).IsProper) :
    Gives (modify change : Maker Unit) fun _ => True := by
  intro making left value proper ran
  cases ran
  exact ⟨keeps making proper, trivial⟩

theorem Gives.mapM {result : β → Prop} {work : α → Maker β} {items : List α}
    (each : ∀ item ∈ items, Gives (work item) result) :
    Gives (items.mapM work) fun values => ∀ value ∈ values, result value := by
  induction items with
  | nil => exact .pure nofun
  | cons item rest ih =>
    obtain ⟨here, later⟩ := List.forall_mem_cons.mp each
    rw [List.mapM_cons]
    exact here.bind fun value holds => (ih later).bind fun values hold =>
      .pure (List.forall_mem_cons.mpr ⟨holds, hold⟩)

theorem Gives.foldlM {holds : β → Prop} {step : β → α → Maker β} {items : List α} {start : β}
    (begins : holds start) (each : ∀ value item, holds value → Gives (step value item) holds) :
    Gives (items.foldlM step start) holds := by
  induction items generalizing start with
  | nil => exact .pure begins
  | cons item rest ih =>
    rw [List.foldlM_cons]
    exact (each start item begins).bind fun value => ih

theorem Gives.findM? {test : α → Maker Bool} {items : List α}
    (each : ∀ item, Gives (test item) fun _ => True) : Gives (items.findM? test) fun _ => True := by
  induction items with
  | nil => exact .pure trivial
  | cons item rest ih =>
    rw [List.findM?]
    refine (each item).bind fun found _ => ?_
    split
    · exact .pure trivial
    · exact ih

/-! ## Merging -/

private theorem gives_node (id : NodeId) : Gives (node id) fun _ => True :=
  Gives.get.bind fun _ _ => .pure trivial

private theorem gives_modifyNode (id : NodeId) (change : Node → Node) :
    Gives (modifyNode id change) fun _ => True :=
  .modify fun _ proper => ⟨proper.made, proper.parts⟩

private theorem gives_entries? (id : NodeId) : Gives (entries? id) fun _ => True := by
  refine (gives_node id).bind fun node _ => ?_
  split
  · exact .pure trivial
  · exact .pure trivial

private theorem gives_textOf (fuel : Nat) (id : NodeId) : Gives (textOf fuel id) fun _ => True := by
  induction fuel generalizing id with
  | zero => exact .throw _
  | succ fuel ih =>
    rw [textOf]
    refine (gives_node id).bind fun node _ => ?_
    split
    · exact .pure trivial
    · exact .throw _
    · refine (Gives.findM? fun entry => (gives_node _).bind fun _ _ => .pure trivial).bind fun found _ => ?_
      split
      · exact ih _
      · exact .throw _

private theorem gives_splitAtMerge (entries : List (NodeId × NodeId)) :
    Gives (splitAtMerge entries) fun _ => True := by
  induction entries with
  | nil => exact .pure trivial
  | cons entry rest ih =>
    rw [splitAtMerge]
    refine (gives_node _).bind fun node _ => ?_
    dsimp only
    split
    · exact .pure trivial
    · split
      · exact (gives_modifyNode _ _).bind fun _ _ => ih.bind fun _ _ => .pure trivial
      · exact ih.bind fun _ _ => .pure trivial

private theorem gives_flatten (merges : Nat) (id : NodeId) : Gives (flatten merges id) fun _ => True := by
  induction merges generalizing id with
  | zero =>
    exact (gives_entries? id).bind fun entries _ => (gives_splitAtMerge _).bind fun _ _ => .pure trivial
  | succ merges ih =>
    rw [flatten]
    refine (gives_entries? id).bind fun entries _ => (gives_splitAtMerge _).bind fun parts _ => ?_
    dsimp only
    split
    · exact .pure trivial
    · rename_i value after
      refine (gives_modifyNode _ _).bind fun _ _ => (gives_node _).bind fun node _ => ?_
      have goesOn (merged : List (NodeId × NodeId)) : Gives (do
          let own ← flatten merges id
          let all := merged ++ own
          modifyNode id fun node => { node with content := .mapping all }
          return all) fun _ => True :=
        (ih id).bind fun own _ => (gives_modifyNode _ _).bind fun _ _ => .pure trivial
      split
      · exact (ih _).bind fun merged _ => goesOn merged
      · refine (Gives.mapM fun item _ => (?_ : Gives _ fun _ => True)).bind fun parts _ =>
          goesOn parts.reverse.flatten
        refine (gives_entries? item).bind fun entries _ => ?_
        split
        · exact (gives_throw _).bind fun _ _ => ih item
        · exact ih item
      · exact (gives_throw _).bind fun merged _ => goesOn merged

/-! ## Data -/

private theorem gives_keep (id : NodeId) {datum : Datum} (proper : datum.IsProper) :
    Gives (keep id datum) Datum.IsProper := by
  unfold keep
  refine (Gives.modify ?_).bind fun _ _ => .pure proper
  refine fun making known => ⟨fun other found there => ?_, known.parts⟩
  dsimp only at there
  rw [Array.getElem?_setIfInBounds] at there
  split at there
  · split at there
    · cases there
      exact proper
    · cases there
  · exact known.made _ _ there

theorem gives_datum (id : NodeId) : Gives (datum id) Datum.IsProper := by
  unfold datum
  refine Gives.get.bind fun making proper => ?_
  split
  · rename_i found made
    exact .pure (proper.made _ _ made)
  · have text : Gives (do textOf ((← get).nodes.size + 1) id : Maker String) fun _ => True :=
      Gives.get.bind fun _ _ => gives_textOf _ _
    dsimp only
    refine (gives_node id).bind fun node _ => ?_
    split
    · exact text.bind fun _ _ => gives_keep id trivial
    · exact text.bind fun _ _ => (gives_lift _).bind fun _ _ => gives_keep id trivial
    · exact text.bind fun _ _ => (gives_lift _).bind fun _ _ => gives_keep id trivial
    · exact text.bind fun _ _ => (Gives.lift fun _ read => Number.isWellFormed_float read).bind
        fun _ wellFormed => gives_keep id wellFormed
    · exact text.bind fun _ _ => gives_keep id trivial
    · refine text.bind fun text _ => ?_
      split
      · exact gives_keep id trivial
      · exact .throw _
    · refine text.bind fun text _ => (gives_node id).bind fun node _ => ?_
      split
      · exact (gives_lift _).bind fun _ _ => gives_keep id trivial
      · exact .throw _
    · exact gives_keep id trivial
    · exact gives_keep id trivial
    · exact gives_keep id trivial
    · exact gives_keep id trivial
    · exact gives_keep id trivial
    · exact .throw _

/-! ## Parts of collections -/

private theorem isProper_write {key value : Datum} {written : List (Datum × Datum)}
    (properKey : key.IsProper) (properValue : value.IsProper) (proper : (Parts.entries written).IsProper) :
    (Parts.entries (Datum.write key value written)).IsProper := by
  induction written with
  | nil => exact List.forall_mem_singleton.mpr ⟨properKey, properValue⟩
  | cons entry rest ih =>
    obtain ⟨here, later⟩ := List.forall_mem_cons.mp proper
    rw [Datum.write]
    split
    · exact List.forall_mem_cons.mpr ⟨⟨here.1, properValue⟩, later⟩
    · exact List.forall_mem_cons.mpr ⟨here, ih later⟩

private theorem gives_refuseRepeated (seen : List String) (entries : List (NodeId × NodeId)) :
    Gives (refuseRepeated seen entries) fun _ => True := by
  induction entries generalizing seen with
  | nil => exact .pure trivial
  | cons entry rest ih =>
    rw [refuseRepeated]
    refine (gives_node _).bind fun node _ => ?_
    dsimp only
    split
    · exact ih seen
    · split
      · split
        · exact (gives_throw _).bind fun _ _ => ih _
        · exact ih _
      · exact .throw _

private theorem gives_entryData (id : NodeId) : Gives (entryData id) (Parts.IsProper ∘ Parts.entries) := by
  unfold entryData
  refine (gives_node id).bind fun node _ => ?_
  split
  · exact .throw _
  · exact .throw _
  · refine (gives_refuseRepeated _ _).bind fun _ _ => Gives.get.bind fun making _ =>
      (gives_flatten _ _).bind fun entries _ => .foldlM nofun fun written entry proper => ?_
    refine (gives_datum _).bind fun key properKey => ?_
    split
    · exact (gives_throw _).bind fun _ _ =>
        (gives_datum _).bind fun value properValue =>
          .pure (isProper_write properKey properValue proper)
    · exact (gives_datum _).bind fun value properValue =>
        .pure (isProper_write properKey properValue proper)

private theorem gives_itemData (id : NodeId) : Gives (itemData id) (Parts.IsProper ∘ Parts.items) := by
  unfold itemData
  refine (gives_node id).bind fun node _ => ?_
  split
  · exact .mapM fun item _ => gives_datum item
  · exact .throw _

private theorem gives_pairData (id : NodeId) : Gives (pairData id) (Parts.IsProper ∘ Parts.pairs) := by
  unfold pairData
  refine (gives_node id).bind fun node _ => ?_
  split
  · refine .mapM fun item _ => (gives_node item).bind fun node _ => ?_
    split
    · exact (gives_datum _).bind fun key properKey => (gives_datum _).bind fun value properValue =>
        .pure ⟨properKey, properValue⟩
    · exact .throw _
  · exact .throw _

private theorem gives_findParts (id : NodeId) : Gives (findParts id) fun _ => True := by
  unfold findParts
  refine (gives_node id).bind fun node _ => ?_
  have goesOn (parts : Parts) (proper : parts.IsProper) : Gives (modify fun making : Making =>
      { making with parts := making.parts.setIfInBounds id parts }) fun _ => True := by
    refine .modify fun making known => ⟨known.made, fun other found there => ?_⟩
    dsimp only at there
    rw [Array.getElem?_setIfInBounds] at there
    split at there
    · split at there
      · cases there
        exact proper
      · cases there
    · exact known.parts _ _ there
  split
  · exact (gives_itemData id).map.bind goesOn
  · exact (gives_pairData id).map.bind goesOn
  · exact (gives_pairData id).map.bind goesOn
  · exact (gives_entryData id).map.bind goesOn

theorem gives_findAllParts (next fuel : Nat) : Gives (findAllParts next fuel) fun _ => True := by
  induction fuel generalizing next with
  | zero => exact .pure trivial
  | succ fuel ih =>
    rw [findAllParts]
    refine Gives.get.bind fun making _ => ?_
    split
    · exact (gives_findParts _).bind fun _ _ => ih _
    · exact .pure trivial

end Maker

structure Data.IsProper (data : Data) : Prop where
  root : data.root.IsProper
  parts : ∀ (id : NodeId) (parts : Parts), data.parts[id]? = some parts → parts.IsProper

private theorem Data.isProper_ofNodes {graph : NodeGraph} {data : Data}
    (found : Data.ofNodes graph = .ok data) : data.IsProper := by
  let start : Making :=
    { nodes := graph.nodes, made := Array.replicate graph.nodes.size none
      parts := Array.replicate graph.nodes.size (.items []), mergeKeys := mergeKeys graph.nodes }
  have begins : start.IsProper := by
    constructor
    · intro id datum there
      simp [start, Array.getElem?_replicate] at there
    · intro id parts there
      simp only [start, Array.getElem?_replicate] at there
      split at there
      · cases there
        exact nofun
      · cases there
  let work : Maker Datum := do
    let root ← Maker.datum graph.root
    Maker.findAllParts 0 graph.nodes.size
    return root
  have gives : Maker.Gives work Datum.IsProper :=
    (Maker.gives_datum _).bind fun root proper =>
      (Maker.gives_findAllParts _ _).bind fun _ _ => .pure proper
  change (work start >>= fun result => Except.ok (Data.mk result.1 result.2.parts)) = _ at found
  cases ran : work start with
  | error flaw =>
    rw [ran] at found
    cases found
  | ok last =>
    rw [ran] at found
    obtain rfl := Except.ok.inj found
    obtain ⟨proper, root⟩ := gives begins ran
    exact ⟨root, proper.parts⟩

theorem Data.isProper_ofText {text : String} {data : Data} (found : Data.ofText text = .ok (some data)) :
    data.IsProper := by
  unfold Data.ofText at found
  cases nodes : NodeGraph.ofText text.toList with
  | error flaw =>
    rw [nodes] at found
    cases found
  | ok graph =>
    cases graph with
    | none =>
      rw [nodes] at found
      cases found
    | some graph =>
      cases made : Data.ofNodes graph with
      | error flaw =>
        simp only [nodes, made, bind, Except.bind] at found
        cases found
      | ok known =>
        simp only [nodes, made, bind, Except.bind, pure, Except.pure, Except.ok.injEq,
          Option.some.injEq] at found
        exact found ▸ Data.isProper_ofNodes made

end UnitLift.Yaml
