import Mathlib.Data.List.DropRight
import UnitLift.Path

namespace UnitLift.Path

/-- The text of a path up to and including its last slash. -/
def directoryPart (path : List Char) : List Char := path.rdropWhile (· != '/')

/-- The text of a path after its last slash. -/
def basePart (path : List Char) : List Char := path.rtakeWhile (· != '/')

/-- A dot and what has neither a dot nor a slash. -/
def IsExtension (extension : List Char) : Prop :=
  extension.head? = some '.' ∧ extension.tail ≠ [] ∧ '.' ∉ extension.tail ∧ '/' ∉ extension.tail

instance (extension : List Char) : Decidable (IsExtension extension) :=
  inferInstanceAs (Decidable (_ ∧ _))

theorem IsExtension.exists_letters {extension : List Char} (valid : IsExtension extension) :
    ∃ letters, extension = '.' :: letters ∧ letters ≠ [] ∧ '.' ∉ letters ∧ '/' ∉ letters := by
  obtain ⟨dotted, written⟩ := valid
  obtain ⟨letters, rfl⟩ := List.head?_eq_some_iff.mp dotted
  exact ⟨letters, rfl, written⟩

theorem IsExtension.notMem {extension : List Char} (valid : IsExtension extension) :
    '/' ∉ extension := by
  obtain ⟨letters, rfl, -, -, free⟩ := valid.exists_letters
  simp [free]

theorem splitDirectory_eq (path : List Char) :
    splitDirectory path = (directoryPart path, basePart path) := by
  have whole : directoryPart path ++ basePart path = path := List.rdropWhile_append_rtakeWhile
  have length := congrArg List.length whole
  rw [List.length_append] at length
  have first : path.take (path.length - (basePart path).length) = directoryPart path := by
    rw [← length, Nat.add_sub_cancel]
    nth_rewrite 2 [← whole]
    exact List.take_left
  exact congrArg (·, basePart path) first

theorem notMem_basePart (path : List Char) : '/' ∉ basePart path := by
  intro member
  simpa using List.mem_rtakeWhile_imp member

theorem directoryPart_append (path : List Char) {name : List Char} (free : '/' ∉ name) :
    directoryPart (path ++ name) = directoryPart path := by
  induction name using List.reverseRecOn with
  | nil => rw [List.append_nil]
  | append_singleton name c ih =>
    rw [List.mem_append, List.mem_singleton, not_or] at free
    rw [← List.append_assoc, directoryPart,
      List.rdropWhile_concat_pos _ _ _ (by simpa using Ne.symm free.2)]
    exact ih free.1

theorem basePart_append (path : List Char) {name : List Char} (free : '/' ∉ name) :
    basePart (path ++ name) = basePart path ++ name := by
  induction name using List.reverseRecOn with
  | nil => rw [List.append_nil, List.append_nil]
  | append_singleton name c ih =>
    rw [List.mem_append, List.mem_singleton, not_or] at free
    rw [← List.append_assoc, basePart,
      List.rtakeWhile_concat_pos _ _ _ (by simpa using Ne.symm free.2), ← List.append_assoc]
    exact congrArg (· ++ [c]) (ih free.1)

theorem parts_of_directoryPart_append (path : List Char) {name : List Char} (free : '/' ∉ name) :
    directoryPart (directoryPart path ++ name) = directoryPart path ∧
      basePart (directoryPart path ++ name) = name := by
  have bare : basePart (directoryPart path) = [] :=
    List.rtakeWhile_eq_nil_iff.mpr (List.rdropWhile_last_not _ _)
  rw [directoryPart_append _ free, basePart_append _ free, bare, List.nil_append]
  exact ⟨List.rdropWhile_idempotent _ _, rfl⟩

theorem baseStem_isPrefix (base : List Char) : baseStem base <+: base := by
  rw [baseStem]
  split
  · have kept : ((base.dropWhile (· == '.')).reverse.dropWhile (· != '.')).tail.reverse <+:
        base.dropWhile (· == '.') := by
      rw [← List.reverse_suffix, List.reverse_reverse]
      exact (List.tail_suffix _).trans (List.dropWhile_suffix _)
    nth_rewrite 3 [← List.takeWhile_append_dropWhile (p := (· == '.')) (l := base)]
    exact (List.prefix_append_right_inj _).mpr kept
  · exact List.prefix_rfl

/-- A name that is more than dots loses what follows its last dot, but no dot at its start. -/
private theorem baseStem_eq {dots : List Char} (leading : ∀ c ∈ dots, c = '.') {first : Char}
    (undotted : first ≠ '.') (more : List Char) :
    baseStem (dots ++ first :: more) =
      if more.contains '.' then dots ++ first :: (more.rdropWhile (· != '.')).dropLast
      else dots ++ first :: more := by
  have all : ∀ c ∈ dots, (c == '.') = true := by simpa using leading
  have stops : ¬(first == '.') = true := by simpa using undotted
  have before : (dots ++ first :: more).takeWhile (· == '.') = dots := by
    rw [List.takeWhile_append_of_pos all, List.takeWhile_cons_of_neg (p := (· == '.')) stops,
      List.append_nil]
  have after : (dots ++ first :: more).dropWhile (· == '.') = first :: more := by
    rw [List.dropWhile_append_of_pos all, List.dropWhile_cons_of_neg (p := (· == '.')) stops]
  have later : (first :: more).contains '.' = more.contains '.' := by
    simp [Ne.symm undotted]
  rw [baseStem, before, after, later]
  split
  · rename_i dotted
    have found : more.reverse.dropWhile (· != '.') ≠ [] := by
      rw [Ne, List.dropWhile_eq_nil_iff]
      intro none
      simpa using none '.' (by simpa using dotted)
    rw [List.reverse_cons, List.dropWhile_append, if_neg (by simpa using found),
      List.tail_append_of_ne_nil found, List.reverse_append, List.rdropWhile, List.dropLast_reverse]
    rfl
  · rfl

private theorem exists_first {base : List Char} (named : ∃ c ∈ base, c ≠ '.') :
    ∃ dots first more, base = dots ++ first :: more ∧ (∀ c ∈ dots, c = '.') ∧ first ≠ '.' := by
  obtain ⟨first, found⟩ := List.find?_isSome (p := (· != '.')) |>.mpr (by simpa using named)
    |> Option.isSome_iff_exists.mp
  obtain ⟨stops, dots, more, rfl, leading⟩ := List.find?_eq_some_iff_append.mp found
  exact ⟨dots, first, more, rfl, by simpa using leading, by simpa using stops⟩

theorem exists_mem_baseStem {base : List Char} (named : ∃ c ∈ base, c ≠ '.') :
    ∃ c ∈ baseStem base, c ≠ '.' := by
  obtain ⟨dots, first, more, rfl, leading, undotted⟩ := exists_first named
  refine ⟨first, ?_, undotted⟩
  rw [baseStem_eq leading undotted]
  split <;> simp

theorem baseStem_append {base letters : List Char} (named : ∃ c ∈ base, c ≠ '.')
    (free : '.' ∉ letters) : baseStem (base ++ '.' :: letters) = base := by
  obtain ⟨dots, first, more, rfl, leading, undotted⟩ := exists_first named
  have last : (more ++ '.' :: letters).rdropWhile (· != '.') = more ++ ['.'] := by
    have passed : ∀ c ∈ letters.reverse, (c != '.') = true := by grind
    rw [List.rdropWhile, List.reverse_append, List.reverse_cons, List.append_assoc,
      List.dropWhile_append_of_pos passed]
    simp
  rw [List.append_assoc, List.cons_append, baseStem_eq leading undotted, if_pos (by simp), last,
    List.dropLast_concat]

/-- After nothing but dots no extension comes off. -/
theorem baseStem_append_of_dots {base letters : List Char} (dots : ∀ c ∈ base, c = '.')
    (written : letters ≠ []) (free : '.' ∉ letters) :
    baseStem (base ++ '.' :: letters) = base ++ '.' :: letters := by
  obtain ⟨first, more, rfl⟩ := List.exists_cons_of_ne_nil written
  have leading : ∀ c ∈ base ++ ['.'], c = '.' := by simpa [or_imp, forall_and] using dots
  have undotted : first ≠ '.' := fun same => free (same ▸ List.mem_cons_self)
  have none : more.contains '.' = false := by
    simpa using fun member => free (List.mem_cons_of_mem _ member)
  have whole := baseStem_eq leading undotted more
  rw [none] at whole
  simpa using whole

variable {path extension : String}

theorem stem_eq (path : String) :
    stem path = String.ofList (directoryPart path.toList ++ baseStem (basePart path.toList)) := by
  rw [stem, splitDirectory_eq]

private theorem toList_stem_append (path extension : String) :
    (stem path ++ extension).toList =
      directoryPart path.toList ++ (baseStem (basePart path.toList) ++ extension.toList) := by
  rw [String.toList_append, stem_eq, String.toList_ofList, List.append_assoc]

private theorem parts_of_stem_append (path : String) (valid : IsExtension extension.toList) :
    directoryPart (stem path ++ extension).toList = directoryPart path.toList ∧
      basePart (stem path ++ extension).toList =
        baseStem (basePart path.toList) ++ extension.toList := by
  have inside : '/' ∉ baseStem (basePart path.toList) :=
    fun member => notMem_basePart _ ((baseStem_isPrefix _).subset member)
  rw [toList_stem_append]
  exact parts_of_directoryPart_append _ (by simp [inside, valid.notMem])

/-- Another extension does not lead out of the directory. -/
theorem directoryPart_stem_append (path : String) (valid : IsExtension extension.toList) :
    directoryPart (stem path ++ extension).toList = directoryPart path.toList :=
  (parts_of_stem_append path valid).1

theorem stem_stem_append (named : ∃ c ∈ basePart path.toList, c ≠ '.')
    (valid : IsExtension extension.toList) : stem (stem path ++ extension) = stem path := by
  obtain ⟨directory, base⟩ := parts_of_stem_append path valid
  obtain ⟨letters, dotted, -, free, -⟩ := valid.exists_letters
  rw [dotted] at base
  rw [stem_eq (stem path ++ extension), directory, base,
    baseStem_append (exists_mem_baseStem named) free, stem_eq]

theorem stem_stem_append_of_dots (dots : ∀ c ∈ basePart path.toList, c = '.')
    (valid : IsExtension extension.toList) :
    stem (stem path ++ extension) = stem path ++ extension := by
  obtain ⟨directory, base⟩ := parts_of_stem_append path valid
  obtain ⟨letters, dotted, written, free, -⟩ := valid.exists_letters
  have leading : ∀ c ∈ baseStem (basePart path.toList), c = '.' :=
    fun c member => dots c ((baseStem_isPrefix _).subset member)
  rw [dotted] at base
  rw [stem_eq (stem path ++ extension), directory, base,
    baseStem_append_of_dots leading written free, ← dotted, ← toList_stem_append, String.ofList_toList]

end UnitLift.Path
