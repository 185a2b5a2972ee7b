import UnitLift.Preprocess.Placeholder
import UnitLift.Proofs.Preprocess.LineMarker

namespace UnitLift.HiddenDirective

theorem after?_append (lead : String) (rest : List Char) :
    after? lead (lead.toList ++ rest) = some rest := by
  rw [after?, ← String.length_toList]
  simp

private theorem toList_placeholder (number : Nat) :
    (placeholder number).toList = "#".toList ++ ("pragma".toList ++ (' ' ::
      ("cxxparse_include".toList ++ (' ' :: Nat.toDigits 10 number)))) := by
  have words : "#pragma cxxparse_include ".toList = "#".toList ++ ("pragma".toList ++ (' ' ::
      ("cxxparse_include".toList ++ [' ']))) := by
    decide
  have digits : (toString number).toList = Nat.toDigits 10 number := by simp
  unfold placeholder
  rw [String.toList_append, digits, words]
  simp only [List.append_assoc, List.cons_append, List.nil_append]

theorem placeholderNumeral?_placeholder (number : Nat) :
    placeholderNumeral? (placeholder number).toList = some (Nat.toDigits 10 number) := by
  have decimal : ∀ c ∈ Nat.toDigits 10 number, Text.isDecimalDigit c = true :=
    fun c member => Text.isDecimalDigit_of_mem_toDigits member
  obtain ⟨first, rest, digits⟩ : ∃ first rest, Nat.toDigits 10 number = first :: rest :=
    List.exists_cons_of_ne_nil Nat.toDigits_ne_nil
  have firstDigit : first.isDigit = true := by
    apply Nat.isDigit_of_mem_toDigits (b := 10) (n := number) (by decide) (by decide)
    simp [digits]
  have hash (more : List Char) : Text.trimStart ("#".toList ++ more) = "#".toList ++ more :=
    Text.trimStart_cons rfl _
  have pragma (more : List Char) :
      Text.trimStart ("pragma".toList ++ more) = "pragma".toList ++ more :=
    Text.trimStart_cons rfl _
  have word (more : List Char) :
      placeholderNumeral?.blanks? (' ' :: ("cxxparse_include".toList ++ more)) =
        some ("cxxparse_include".toList ++ more) :=
    congrArg some (Text.trimStart_cons rfl _)
  have numeral : placeholderNumeral?.blanks? (' ' :: Nat.toDigits 10 number) =
      some (Nat.toDigits 10 number) := by
    rw [digits]
    exact congrArg some (Text.trimStart_cons (LineMarker.isBlank_of_isDigit firstDigit) _)
  have whole : (Nat.toDigits 10 number).takeWhile Text.isDecimalDigit = Nat.toDigits 10 number := by
    rw [← List.append_nil (Nat.toDigits 10 number), List.takeWhile_append_of_pos decimal]
    rfl
  have nothing : (Nat.toDigits 10 number).dropWhile Text.isDecimalDigit = [] := by
    rw [← List.append_nil (Nat.toDigits 10 number), List.dropWhile_append_of_pos decimal]
    rfl
  rw [toList_placeholder, placeholderNumeral?, hash]
  simp only [Option.bind_eq_bind, after?_append, Option.bind_some, pragma, word, numeral, whole,
    nothing]
  rw [digits]
  rfl

theorem scan?_placeholder (number : Nat) : LineMarker.scan? (placeholder number).toList = none := by
  rw [toList_placeholder]
  rfl

theorem isLine_placeholder (number : Nat) : Text.IsLine (placeholder number) := by
  have words : Text.IsLine "#pragma cxxparse_include " := by decide
  intro c member
  unfold placeholder at member
  rw [String.toList_append, List.mem_append] at member
  rcases member with inWords | inDigits
  · exact words c inWords
  · have digit : c ∈ Nat.toDigits 10 number := by simpa using inDigits
    exact LineMarker.isLineBoundary_of_isDigit
      (Nat.isDigit_of_mem_toDigits (by decide) (by decide) digit)

theorem reveal_placeholder {hidden : List HiddenDirective} {number : Nat}
    {directive : HiddenDirective} (short : number < Text.unreadable)
    (found : hidden[number]? = some directive) :
    reveal hidden (placeholder number) = .ok (some directive) := by
  rw [reveal, placeholderNumeral?_placeholder]
  simp only [Text.readDigits?_toDigits short, found]

theorem placeholderNumeral?_blank : placeholderNumeral? "".toList = none := by decide

theorem reveal_of_plain {line : String} (plain : placeholderNumeral? line.toList = none)
    (hidden : List HiddenDirective) : reveal hidden line = .ok none := by
  rw [reveal, plain]

/-- What lines from `number` on become if those that are not `kept` are blanked. -/
def masked (kept : Nat → Bool) (number : Nat) (lines : List String) : List String :=
  (lines.zipIdx number).map fun (line, number) => if kept number then line else ""

/-- A line as it is put back: a directive loses the blanks around it. -/
def restoredLine (line : String) : String :=
  if (includedName? line.toList).isSome then Text.trimmed line else line

def includeOn? (number : Nat) (line : String) : Option Include :=
  (includedName? line.toList).map fun (name, system) => ⟨name, number, none, system⟩

/-- The includes among the `kept` ones of lines from `number` on. -/
def keptIncludes (kept : Nat → Bool) (number : Nat) (lines : List String) : List Include :=
  (lines.zipIdx number).filterMap fun (line, number) =>
    if kept number then includeOn? number line else none

variable {kept : Nat → Bool}

private theorem restore_cons_of_plain {hidden : List HiddenDirective} {line : String}
    {lines restored : List String} {includes : List Include}
    (plain : placeholderNumeral? line.toList = none)
    (rest : restore hidden lines = .ok (restored, includes)) :
    restore hidden (line :: lines) = .ok (line :: restored, includes) := by
  rw [restore, reveal_of_plain plain, rest]
  rfl

private theorem restore_cons_of_placeholder {hidden : List HiddenDirective} {number : Nat}
    {directive : HiddenDirective} {lines restored : List String} {includes : List Include}
    (short : number < Text.unreadable) (found : hidden[number]? = some directive)
    (rest : restore hidden lines = .ok (restored, includes)) :
    restore hidden (placeholder number :: lines) =
      .ok (directive.text :: restored, directive.directive :: includes) := by
  rw [restore, reveal_placeholder short found, rest]
  rfl

theorem masked_cons (number : Nat) (line : String) (lines : List String) :
    masked kept number (line :: lines) =
      (if kept number then line else "") :: masked kept (number + 1) lines := rfl

theorem keptIncludes_cons (number : Nat) (line : String) (lines : List String) :
    keptIncludes kept number (line :: lines) =
      (if kept number then includeOn? number line else none).toList ++
        keptIncludes kept (number + 1) lines := by
  cases found : (if kept number then includeOn? number line else none) with
  | none => exact List.filterMap_cons_none found
  | some included => exact List.filterMap_cons_some found

/-- Whatever lines are blanked in between, those that are left are put back as they were, on their
lines and with their numbers. -/
theorem restore_hideFrom (kept : Nat → Bool) {lines : List String}
    (plain : ∀ line ∈ lines, placeholderNumeral? line.toList = none)
    (before : List HiddenDirective) (number : Nat)
    (short : before.length + lines.length < Text.unreadable) :
    restore (before ++ (hideFrom before.length number lines).2)
        (masked kept number (hideFrom before.length number lines).1) =
      .ok (masked kept number (lines.map restoredLine), keptIncludes kept number lines) := by
  -- `before` are the directives that were hidden so far: numbers count from the first of these
  induction lines generalizing before number with
  | nil => rfl
  | cons line rest ih =>
    simp only [List.length_cons] at short
    have plainRest : ∀ line ∈ rest, placeholderNumeral? line.toList = none :=
      fun line member => plain line (List.mem_cons_of_mem _ member)
    rw [List.map_cons, masked_cons, keptIncludes_cons, hideFrom]
    cases directive : includedName? line.toList with
    | none =>
      have same : restoredLine line = line := by simp [restoredLine, directive]
      have excluded : includeOn? number line = none := by simp [includeOn?, directive]
      have more := ih plainRest before (number + 1) (by omega)
      simp only [same, excluded, ite_self, Option.toList_none, List.nil_append, masked_cons]
      cases kept number with
      | true => exact restore_cons_of_plain (plain line List.mem_cons_self) more
      | false =>
        simp only [Bool.false_eq_true, ↓reduceIte]
        exact restore_cons_of_plain placeholderNumeral?_blank more
    | some named =>
      obtain ⟨name, system⟩ := named
      let hidden : HiddenDirective := ⟨Text.trimmed line, ⟨name, number, none, system⟩⟩
      have trimmed : restoredLine line = hidden.text := by simp [restoredLine, directive, hidden]
      have included : includeOn? number line = some hidden.directive := by
        simp [includeOn?, directive, hidden]
      have more := ih plainRest (before ++ [hidden]) (number + 1) (by simp; omega)
      rw [List.append_assoc, List.length_append] at more
      simp only [trimmed, included, masked_cons]
      cases kept number with
      | true =>
        refine restore_cons_of_placeholder (by omega) ?_ more
        simp [hidden]
      | false =>
        simp only [Bool.false_eq_true, ↓reduceIte]
        exact restore_cons_of_plain placeholderNumeral?_blank more

theorem length_hideFrom (number line : Nat) (lines : List String) :
    (hideFrom number line lines).1.length = lines.length := by
  induction lines generalizing number line with
  | nil => rfl
  | cons text rest ih =>
    rw [hideFrom]
    split
    · exact congrArg (· + 1) (ih _ _)
    · exact congrArg (· + 1) (ih _ _)

/-- What is true of placeholders and of the lines of a file is true of its lines with the directives
hidden. -/
theorem forall_mem_hideFrom {property : String → Prop}
    (numbered : ∀ number, property (placeholder number)) {lines : List String}
    (each : ∀ line ∈ lines, property line) (number line : Nat) :
    ∀ text ∈ (hideFrom number line lines).1, property text := by
  induction lines generalizing number line with
  | nil => simp [hideFrom]
  | cons text rest ih =>
    have later : ∀ line ∈ rest, property line := fun line member => each line (by simp [member])
    rw [hideFrom]
    split
    · exact List.forall_mem_cons.mpr ⟨numbered number, ih later _ _⟩
    · exact List.forall_mem_cons.mpr ⟨each text (by simp), ih later _ _⟩

theorem isLine_of_mem_hide {lines : List String} (each : ∀ line ∈ lines, Text.IsLine line) :
    ∀ line ∈ (hide lines).1, Text.IsLine line :=
  forall_mem_hideFrom isLine_placeholder each 0 1

theorem masked_all (number : Nat) (lines : List String) :
    masked (fun _ => true) number lines = lines := by
  simp [masked, List.zipIdx_map_fst]

theorem length_masked (kept : Nat → Bool) (number : Nat) (lines : List String) :
    (masked kept number lines).length = lines.length := by
  simp [masked]

theorem forall_mem_masked {property : String → Prop} (blank : property "") {lines : List String}
    (each : ∀ line ∈ lines, property line) (number : Nat) :
    ∀ line ∈ masked kept number lines, property line := by
  induction lines generalizing number with
  | nil => simp [masked]
  | cons line rest ih =>
    have later : ∀ line ∈ rest, property line := fun line member => each line (by simp [member])
    rw [masked_cons]
    refine List.forall_mem_cons.mpr ⟨?_, ih later _⟩
    split
    · exact each line (by simp)
    · exact blank

private theorem isLine_trimmed {line : String} (whole : Text.IsLine line) :
    Text.IsLine (Text.trimmed line) := by
  intro c member
  rw [Text.trimmed, String.toList_ofList, Text.trim, Text.trimEnd, List.mem_reverse] at member
  have inside := List.mem_reverse.mp ((List.dropWhile_suffix Text.isBlank).subset member)
  exact whole c ((List.dropWhile_suffix Text.isBlank).subset inside)

theorem isLine_restoredLine {line : String} (whole : Text.IsLine line) :
    Text.IsLine (restoredLine line) := by
  unfold restoredLine
  split
  · exact isLine_trimmed whole
  · exact whole

end UnitLift.HiddenDirective
