import Mathlib.Data.List.Induction
import UnitLift.Table

namespace UnitLift

namespace Table

variable {α β : Type} [BEq α]

theorem ofList_concat (entries : List (α × β)) (entry : α × β) :
    ofList (entries ++ [entry]) = (ofList entries).insert entry.1 entry.2 := by
  simp only [ofList, List.foldl_append, List.foldl_cons, List.foldl_nil]

variable [LawfulBEq α]

theorem keys_ofList (entries : List (α × β)) :
    (ofList entries).keys = (entries.map (·.1)).eraseDups := by
  induction entries using List.reverseRecOn with
  | nil => rfl
  | append_singleton entries entry ih =>
    rw [ofList_concat, List.map_append]
    exact keys_insert_of_eraseDups ih _ _

/-- Of the values that are written under one key, the last is found. -/
theorem get?_ofList (entries : List (α × β)) (key : α) :
    (ofList entries).get? key = (entries.filter (·.1 == key)).getLast?.map (·.2) := by
  induction entries using List.reverseRecOn with
  | nil => rfl
  | append_singleton entries entry ih =>
    rw [ofList_concat, get?_insert, List.filter_append]
    cases same : entry.1 == key <;> simp [same, ih]

end Table

end UnitLift
