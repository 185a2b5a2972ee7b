namespace UnitLift

/-- Values under pairwise distinct keys. -/
structure Table (α β : Type) where
  entries : List (α × β)
deriving DecidableEq, Repr

namespace Table

variable {α β : Type} [BEq α]

def empty : Table α β := ⟨[]⟩

instance : Inhabited (Table α β) := ⟨empty⟩

instance : EmptyCollection (Table α β) := ⟨empty⟩

def write (key : α) (value : β) : List (α × β) → List (α × β)
  | [] => [(key, value)]
  | (known, old) :: rest =>
    if known == key then (known, value) :: rest else (known, old) :: write key value rest

/-- The table with a value under a key. -/
def insert (table : Table α β) (key : α) (value : β) : Table α β :=
  ⟨write key value table.entries⟩

def get? (table : Table α β) (key : α) : Option β :=
  (table.entries.find? fun entry => entry.1 == key).map (·.2)

def contains (table : Table α β) (key : α) : Bool := (table.get? key).isSome

/-- The keys, in the order in which they first came in. -/
def keys (table : Table α β) : List α := table.entries.map (·.1)

/-- The values in the order of their keys. -/
def values (table : Table α β) : List β := table.entries.map (·.2)

def size (table : Table α β) : Nat := table.entries.length

/-- The table of entries written one after the other. -/
def ofList (entries : List (α × β)) : Table α β :=
  entries.foldl (fun table entry => table.insert entry.1 entry.2) empty

variable [LawfulBEq α]

private theorem find?_write (key other : α) (value : β) (entries : List (α × β)) :
    ((write key value entries).find? fun entry => entry.1 == other).map (·.2) =
      if key == other then some value
      else (entries.find? fun entry => entry.1 == other).map (·.2) := by
  induction entries with
  | nil => by_cases h : key == other <;> simp [write, h]
  | cons entry rest ih =>
    obtain ⟨known, old⟩ := entry
    by_cases same : known == key
    · have := eq_of_beq same
      subst this
      by_cases h : known == other <;> simp [write, h]
    · by_cases h : known == other
      · have : ¬ (key == other) = true := by
          intro both
          rw [eq_of_beq h, eq_of_beq both] at same
          simp at same
        simp [write, same, h, this]
      · have writes : write key value ((known, old) :: rest) =
            (known, old) :: write key value rest := by simp [write, same]
        rw [writes, List.find?_cons_of_neg (by simpa using h),
          List.find?_cons_of_neg (by simpa using h)]
        exact ih

/-- A value is found under the key it was written under, and other keys keep theirs. -/
theorem get?_insert (table : Table α β) (key other : α) (value : β) :
    (table.insert key value).get? other = if key == other then some value else table.get? other :=
  find?_write key other value table.entries

theorem contains_of_mem_keys {table : Table α β} {key : α} (member : key ∈ table.keys) :
    table.contains key = true := by
  obtain ⟨entry, inside, same⟩ := List.mem_map.mp member
  have found : (table.entries.find? fun entry => entry.1 == key).isSome = true :=
    List.find?_isSome.mpr ⟨entry, inside, beq_iff_eq.mpr same⟩
  rw [contains, get?, Option.isSome_map, found]

theorem mem_keys_of_get? {table : Table α β} {key : α} {value : β}
    (found : table.get? key = some value) : key ∈ table.keys := by
  obtain ⟨entry, met, -⟩ := Option.map_eq_some_iff.mp found
  have same : (entry.1 == key) = true := by simpa using List.find?_some met
  exact List.mem_map.mpr ⟨entry, List.mem_of_find?_eq_some met, eq_of_beq same⟩

theorem contains_iff_mem_keys {table : Table α β} {key : α} :
    table.contains key = true ↔ key ∈ table.keys := by
  refine ⟨fun known => ?_, contains_of_mem_keys⟩
  obtain ⟨value, found⟩ := Option.isSome_iff_exists.mp known
  exact mem_keys_of_get? found

private theorem map_fst_write (key : α) (value : β) (entries : List (α × β)) :
    (write key value entries).map (·.1) =
      if (entries.map (·.1)).contains key then entries.map (·.1)
      else entries.map (·.1) ++ [key] := by
  induction entries with
  | nil => simp [write]
  | cons entry rest ih =>
    obtain ⟨known, old⟩ := entry
    by_cases same : known == key
    · have := eq_of_beq same
      subst this
      simp [write]
    · have back : ¬ (key == known) = true := by
        intro h
        rw [eq_of_beq h] at same
        simp at same
      have rest_iff : (((known, old) :: rest).map (·.1)).contains key =
          (rest.map (·.1)).contains key := by
        simp only [List.map_cons, List.contains_cons]
        simp [back]
      rw [rest_iff]
      simp only [write, same]
      simp only [Bool.false_eq_true, ↓reduceIte, List.map_cons, ih]
      split <;> simp

/-- A new key comes last, and a known one keeps its place. -/
theorem keys_insert (table : Table α β) (key : α) (value : β) :
    (table.insert key value).keys =
      if table.keys.contains key then table.keys else table.keys ++ [key] :=
  map_fst_write key value table.entries

theorem nodup_eraseDups : ∀ keys : List α, keys.eraseDups.Nodup
  | [] => List.nodup_nil
  | key :: rest => by
    rw [List.eraseDups_cons, List.nodup_cons]
    exact ⟨by simp, nodup_eraseDups _⟩
termination_by keys => keys.length
decreasing_by exact Nat.lt_succ_of_le (List.length_filter_le _ _)

theorem eraseDups_concat (keys : List α) (key : α) :
    (keys ++ [key]).eraseDups = keys.eraseDups ++ if keys.contains key then [] else [key] := by
  rw [List.eraseDups_append]
  by_cases old : key ∈ keys <;> simp [old, List.removeAll, List.eraseDups_cons]

/-- Of keys that come in one after the other, each is kept once. -/
theorem keys_insert_of_eraseDups {table : Table α β} {keys : List α}
    (known : table.keys = keys.eraseDups) (key : α) (value : β) :
    (table.insert key value).keys = (keys ++ [key]).eraseDups := by
  rw [keys_insert, known, eraseDups_concat]
  by_cases old : key ∈ keys <;> simp [old]

/-- The values in order are those that are found under the keys in order. -/
theorem map_get?_keys {table : Table α β} (nodup : table.keys.Nodup) :
    table.keys.map table.get? = table.values.map some := by
  obtain ⟨entries⟩ := table
  induction entries with
  | nil => rfl
  | cons entry rest ih =>
    obtain ⟨fresh, others⟩ := List.nodup_cons.mp nodup
    have first : (⟨entry :: rest⟩ : Table α β).get? entry.1 = some entry.2 := by simp [get?]
    have later : ∀ key ∈ rest.map (·.1),
        (⟨entry :: rest⟩ : Table α β).get? key = (⟨rest⟩ : Table α β).get? key := by
      intro key member
      have apart : entry.1 ≠ key := by
        rintro rfl
        exact fresh member
      simp [get?, apart]
    simp only [keys, values, List.map_cons, first] at ih ⊢
    rw [List.map_congr_left later, ih others]

end Table

end UnitLift
