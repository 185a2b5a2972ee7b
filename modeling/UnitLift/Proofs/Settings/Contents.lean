import UnitLift.Proofs.SettingsLibrary
import UnitLift.Proofs.Yaml.Proper
import UnitLift.Settings.Document

namespace UnitLift.Settings

open Value (IsTree)
open Yaml (Datum Parts NodeId)

variable {parts : Array Parts} {room level : Nat} {datum : Datum} {value : Value}
  {key : Nat → String → Prop} {leaf : Nat → Scalar → Prop} {text : String}

private theorem exists_of_mapM {α β : Type} {items : List α} {read : α → Except Fault β}
    {values : List β} (ran : items.mapM read = .ok values) :
    ∀ value ∈ values, ∃ item ∈ items, read item = .ok value := by
  induction items generalizing values with
  | nil =>
    obtain rfl := Except.ok.inj ran
    simp
  | cons item rest ih =>
    rw [List.mapM_cons] at ran
    obtain ⟨value, first, ran⟩ := of_bind_eq_ok ran
    obtain ⟨others, later, ran⟩ := of_bind_eq_ok ran
    obtain rfl := Except.ok.inj ran
    refine List.forall_mem_cons.mpr ⟨⟨item, List.mem_cons_self, first⟩, fun other member => ?_⟩
    obtain ⟨item, inside, read⟩ := ih later other member
    exact ⟨item, List.mem_cons_of_mem _ inside, read⟩

/-! ## Values of data -/

inductive Arises (parts : Array Parts) (room : Nat) : Datum → Value → Prop
  | scalar (scalar : Scalar) : Arises parts room (.scalar scalar) (.scalar scalar)
  | list (datum : Datum) (items : List Value) : Arises parts room datum (.list items)
  | mapping {datum : Datum} {id : NodeId} {data : List (Datum × Datum)} {entries : List (Scalar × Value)}
      (there : parts[id]? = some (.entries data)) (fits : mappingSize ≤ room)
      (each : ∀ entry ∈ entries, ∃ pair ∈ data,
        valueOf parts (room - mappingSize) pair.2 = .ok entry.2) :
      Arises parts room datum (.mapping entries)

private theorem arises_of_collection (node : NodeId)
    (found : valueOf parts room (.mapping node) = .ok value) : Arises parts room datum value := by
  have list {items : Except Fault (List Value)}
      (found : items >>= (fun items => .ok (Value.list items)) = .ok value) :
      Arises parts room datum value := by
    obtain ⟨items, -, same⟩ := of_bind_eq_ok found
    exact Except.ok.inj same ▸ .list datum items
  simp only [valueOf] at found
  split at found
  · split at found
    · exact list found
    · cases found
  · split at found
    · exact list found
    · cases found
  · rename_i data known
    have there : parts[node]? = some (.entries data) := by
      cases here : parts[node]? with
      | none => simp [here] at known
      | some found => simpa [here] using known
    split at found
    · rename_i fits
      obtain ⟨entries, read, same⟩ := of_bind_eq_ok found
      obtain rfl := Except.ok.inj same
      refine .mapping there fits fun entry member => ?_
      obtain ⟨pair, inside, unpacked⟩ := exists_of_mapM read entry member
      obtain ⟨key, -, unpacked⟩ := of_bind_eq_ok unpacked
      obtain ⟨value, inner, unpacked⟩ := of_bind_eq_ok unpacked
      obtain rfl := Except.ok.inj unpacked
      exact ⟨pair, inside, inner⟩
    · cases found

theorem arises_of_valueOf (found : valueOf parts room datum = .ok value) :
    Arises parts room datum value := by
  cases datum with
  | scalar scalar =>
    rw [valueOf] at found
    unfold scalarValue at found
    split at found
    · split at found
      · exact Except.ok.inj found ▸ .scalar _
      · cases found
    · exact Except.ok.inj found ▸ .scalar _
  | bytes => simp [valueOf] at found
  | moment => simp [valueOf] at found
  | set => simp [valueOf] at found
  | list node =>
    refine arises_of_collection node ?_
    simp only [valueOf] at found ⊢
    exact found
  | mapping node => exact arises_of_collection node found

theorem depth_le_of_valueOf (found : valueOf parts room datum = .ok value) :
    mappingSize * value.depth ≤ room := by
  induction room using Nat.strongRecOn generalizing datum value with
  | ind room ih =>
    cases arises_of_valueOf found with
    | scalar => exact Nat.zero_le _
    | list => exact Nat.zero_le _
    | @mapping _ id data entries there fits each =>
      have less : room - mappingSize < room := by
        simp only [mappingSize] at fits ⊢
        omega
      have within : Value.depthOfEntries entries ≤ (room - mappingSize) / mappingSize :=
        Value.depthOfEntries_le fun entry member => by
          obtain ⟨pair, -, inner⟩ := each entry member
          have depth := ih (room - mappingSize) less inner
          simp only [mappingSize] at depth ⊢
          omega
      rw [Value.depth]
      simp only [mappingSize] at fits within ⊢
      omega

theorem properTree_of_valueOf
    (known : ∀ (id : NodeId) (found : Parts), parts[id]? = some found → found.IsProper)
    (proper : datum.IsProper) (tree : IsTree key leaf level value)
    (found : valueOf parts room datum = .ok value) :
    IsTree key (fun level scalar => leaf level scalar ∧ scalar.IsProper) level value := by
  induction tree generalizing datum room with
  | scalar fits =>
    cases arises_of_valueOf found with
    | scalar => exact .scalar ⟨fits, proper⟩
  | mapping named keys values ih =>
    cases arises_of_valueOf found with
    | mapping there _ each =>
      refine .mapping named keys fun entry member => ?_
      obtain ⟨pair, inside, inner⟩ := each entry member
      exact ih entry member (known _ _ there pair inside).2 inner

/-! ## Sections of documents -/

/-- How the sections of a document come from its text. -/
inductive SectionsArise : Value → Prop
  | none : SectionsArise (.mapping [])
  | name (name : String) : SectionsArise (.record [(name, .null)])
  | data {data : Yaml.Data} {value : Value} (proper : data.IsProper)
      (found : valueOf data.parts Settings.room data.root = .ok value) : SectionsArise value

private theorem isProper_dataOf {data : Yaml.Data} (found : dataOf text = .ok (some data)) :
    data.IsProper := by
  unfold dataOf at found
  split at found
  · rename_i read
    exact Yaml.Data.isProper_ofText (Except.ok.inj found ▸ read)
  · cases found

theorem arise_of_sectionsIn (found : sectionsIn text = .ok value) : SectionsArise value := by
  have inner {text : String} (found : collectionIn text = .ok value) : SectionsArise value := by
    unfold collectionIn at found
    obtain ⟨data, read, found⟩ := of_bind_eq_ok found
    split at found
    · exact Except.ok.inj found ▸ .none
    · have proper := isProper_dataOf read
      split at found
      · exact Except.ok.inj found ▸ .none
      · exact Except.ok.inj found ▸ .name _
      · exact .data proper found
      · exact .data proper found
      · cases found
  unfold sectionsIn at found
  obtain ⟨data, read, found⟩ := of_bind_eq_ok found
  split at found
  · exact Except.ok.inj found ▸ .none
  · have proper := isProper_dataOf read
    split at found
    · exact Except.ok.inj found ▸ .none
    · exact inner found
    · exact .data proper found
    · exact .data proper found
    · cases found

/-- The sections of a document are no deeper than there is room. -/
theorem depth_le_of_sectionsIn (found : sectionsIn text = .ok value) :
    mappingSize * value.depth ≤ Settings.room := by
  cases arise_of_sectionsIn found with
  | none => exact (by decide : mappingSize * 1 ≤ Settings.room)
  | name => exact (by decide : mappingSize * 1 ≤ Settings.room)
  | data _ found => exact depth_le_of_valueOf found

theorem properTree_of_sectionsIn (tree : IsTree key leaf 0 value) (found : sectionsIn text = .ok value) :
    IsTree key (fun level scalar => leaf level scalar ∧ scalar.IsProper) 0 value := by
  cases arise_of_sectionsIn found with
  | none =>
    cases tree with
    | mapping named keys => exact .mapping named keys nofun
  | name =>
    cases tree with
    | mapping named keys values =>
      refine .mapping named keys (List.forall_mem_singleton.mpr ?_)
      cases List.forall_mem_singleton.mp values with
      | scalar fits => exact .scalar ⟨fits, trivial⟩
  | data proper found => exact properTree_of_valueOf proper.parts proper.root tree found

end UnitLift.Settings
