import UnitLift.Proofs.Yaml.Folding
import UnitLift.Yaml.Token
import UnitLift.Yaml.Writer

namespace UnitLift.Yaml

/-! ## Places -/

namespace Place

/-- The place behind a character of a document as it is written. -/
def next (place : Place) (c : Char) : Place :=
  if c = '\n' then ⟨place.index + 1, place.line + 1, 0⟩
  else ⟨place.index + 1, place.line, place.column + 1⟩

/-- The place behind a part of a document as it is written. -/
def past (place : Place) (text : List Char) : Place := text.foldl next place

variable {place : Place} {text : List Char}

theorem past_append (place : Place) (text more : List Char) :
    place.past (text ++ more) = (place.past text).past more := List.foldl_append

theorem skip_append (written : ∀ c ∈ text, IsWritten c) (rest : List Char) :
    place.skip text.length (text ++ rest) = place.past text := by
  induction text generalizing place with
  | nil => rw [List.length_nil, skip]; rfl
  | cons c text ih =>
    have here := written c (by simp)
    have after : place.after c (text ++ rest) = place.next c := by
      rcases here with ordinary | rfl
      · have noMark : c ≠ '\ufeff' := by
          rintro rfl
          exact absurd ordinary (by decide)
        have noFeed : c ≠ '\n' := by
          rintro rfl
          exact absurd ordinary (by decide)
        simp [Place.after, next, ordinary.isBreak_eq, noMark, noFeed]
      · simp [Place.after, next, isBreak]
    rw [List.length_cons, List.cons_append, skip, after,
      ih fun d member => written d (List.mem_cons_of_mem c member)]
    rfl

theorem past_of_inLine (inLine : '\n' ∉ text) :
    place.past text = ⟨place.index + text.length, place.line, place.column + text.length⟩ := by
  induction text generalizing place with
  | nil => rfl
  | cons c text ih =>
    have here : c ≠ '\n' := fun same => inLine (by simp [same])
    have after := @ih (place.next c) fun member => inLine (List.mem_cons_of_mem c member)
    rw [past, List.foldl_cons, ← past, after]
    simp [next, here, Nat.add_assoc, Nat.add_comm 1]

theorem past_newLine (place : Place) (indent : Nat) :
    place.past (newLine indent) = ⟨place.index + (1 + indent), place.line + 1, indent⟩ := by
  have spaces : '\n' ∉ List.replicate indent ' ' := by simp
  rw [newLine, past, List.foldl_cons, ← past, past_of_inLine spaces]
  simp [next, Nat.add_assoc]

theorem line_le_past (place : Place) (text : List Char) : place.line ≤ (place.past text).line := by
  induction text generalizing place with
  | nil => exact Nat.le_refl _
  | cons c text ih =>
    refine Nat.le_trans ?_ (ih (place.next c))
    unfold next
    split
    · exact Nat.le_succ _
    · exact Nat.le_refl _

end Place

/-! ## Gaps -/

namespace Scan

/-- A scan behind the gap that comes next. -/
def settle (scan : Scan) : Scan := scan.skipGap (scan.rest.length + 1)

variable {scan : Scan} {text more : List Char}

theorem moveTo_append (rest : scan.rest = text ++ more)
    (written : ∀ c ∈ text, IsWritten c) :
    scan.moveTo more = { scan with rest := more, place := scan.place.past text } := by
  have length : scan.rest.length - more.length = text.length := by simp [rest]
  rw [moveTo, length, rest, Place.skip_append written]

private theorem isWritten_spaces (count : Nat) :
    ∀ c ∈ List.replicate count ' ', IsWritten c := by
  intro c member
  rw [List.eq_of_mem_replicate member]
  exact .inl (by decide)

private theorem skipGap_spaces (starts : Starts more) {count : Nat}
    (rest : scan.rest = List.replicate count ' ' ++ more) (fuel : Nat) :
    scan.skipGap (fuel + 1) =
      { scan with rest := more, place := scan.place.past (List.replicate count ' ') } := by
  have unmarked : (more.head? == some '#') = false := by simpa using starts.head?_ne
  simp only [skipGap, rest, starts.dropWhile_spaces, unmarked, Bool.false_eq_true, ↓reduceIte,
    starts.takeBreak?_eq]
  exact moveTo_append rest (isWritten_spaces count)

theorem settle_spaces (starts : Starts more) (count : Nat)
    (rest : scan.rest = List.replicate count ' ' ++ more) :
    scan.settle =
      { scan with rest := more, place := scan.place.past (List.replicate count ' ') } :=
  skipGap_spaces starts rest _

theorem settle_eq_self (starts : Starts scan.rest) : scan.settle = scan :=
  settle_spaces starts 0 rfl

/-- The end of a line and the spaces behind it are passed. A key may begin there. -/
theorem settle_newLine (starts : Starts more) {indent : Nat}
    (rest : scan.rest = newLine indent ++ more) (block : scan.flow = 0) :
    scan.settle =
      { scan with rest := more, place := scan.place.past (newLine indent), keyAllowed := true } := by
  have breaks : takeBreak? (newLine indent ++ more) =
      some ('\n', List.replicate indent ' ' ++ more) := by
    simp [newLine, takeBreak?]
  have unspaced : (newLine indent ++ more).dropWhile (· == ' ') = newLine indent ++ more := rfl
  have unmarked : ((newLine indent ++ more).head? == some '#') = false := rfl
  have moved : scan.moveTo (List.replicate indent ' ' ++ more) =
      { scan with
        rest := List.replicate indent ' ' ++ more, place := scan.place.past ['\n'] } :=
    moveTo_append rest (by simp [IsWritten])
  obtain ⟨fuel, length⟩ : ∃ fuel, scan.rest.length = fuel + 1 :=
    ⟨indent + more.length, by simp [rest, newLine]⟩
  have inBlock : (scan.flow == 0) = true := by simpa using block
  rw [settle, length, skipGap]
  simp only [rest, unspaced, unmarked, Bool.false_eq_true, ↓reduceIte, breaks, moved, inBlock]
  rw [skipGap_spaces starts rfl]
  rfl

/-! ## Steps -/

/-- What begins at the place of a scan is found. -/
def advance (scan : Scan) : Except Flaw Scan :=
  match scan.rest with
  | [] => scan.endDocument
  | c :: rest => scan.takeToken c rest

/-- A step behind the gap. -/
def act (scan : Scan) : Except Flaw Scan := do
  let scan ← scan.dropStaleKeys
  (scan.closeBlocks (· ≤ scan.place.column)).advance

theorem step_eq (scan : Scan) : scan.step = scan.settle.act := rfl

/-- A scan comes to another one by steps that each use up some of the text. Both stand behind gaps. -/
inductive Reaches : Scan → Scan → Prop
  | refl {scan : Scan} : Reaches scan scan
  | step {scan next last : Scan} (acts : scan.act = .ok next)
      (shorter : next.rest.length < scan.rest.length) (rest : Reaches next.settle last) :
      Reaches scan last

theorem Reaches.single {next : Scan} (acts : scan.act = .ok next)
    (shorter : next.rest.length < scan.rest.length) : Reaches scan next.settle :=
  .step acts shorter .refl

theorem Reaches.trans {next last : Scan} (first : Reaches scan next) (second : Reaches next last) :
    Reaches scan last := by
  induction first with
  | refl => exact second
  | step acts shorter _ ih => exact .step acts shorter (ih second)

private theorem length_of_takeBreak? {text rest : List Char} {c : Char}
    (taken : takeBreak? text = some (c, rest)) : rest.length ≤ text.length := by
  unfold takeBreak? at taken
  split at taken
  · cases taken
    simp only [List.length_cons]
    omega
  · split at taken
    · cases taken
      simp
    · split at taken
      · cases taken
        simp
      · cases taken
  · cases taken

private theorem length_skipGap_le (fuel : Nat) (scan : Scan) :
    (scan.skipGap fuel).rest.length ≤ scan.rest.length := by
  induction fuel generalizing scan with
  | zero => exact Nat.le_refl _
  | succ fuel ih =>
    have spaces := (List.dropWhile_suffix (· == ' ') (l := scan.rest)).length_le
    have comment : (if (scan.rest.dropWhile (· == ' ')).head? == some '#' then
        (scan.rest.dropWhile (· == ' ')).dropWhile (!isBreak ·)
        else scan.rest.dropWhile (· == ' ')).length ≤ scan.rest.length := by
      split
      · exact Nat.le_trans (List.dropWhile_suffix _).length_le spaces
      · exact spaces
    simp only [skipGap]
    split
    · exact comment
    · rename_i taken
      refine Nat.le_trans (ih _) ?_
      have shorter := length_of_takeBreak? taken
      split
      · exact Nat.le_trans shorter comment
      · exact Nat.le_trans shorter comment

/-- The tokens that are found from a scan on are those that are found from any scan it comes to. -/
theorem Reaches.run {first last : Scan} (reaches : Reaches first last) (scan : Scan)
    (settled : scan.settle = first) {fuel : Nat} (enough : scan.rest.length + 2 ≤ fuel) :
    ∃ next left, next.settle = last ∧ next.rest.length + 2 ≤ left ∧
      run fuel scan = run left next := by
  induction reaches generalizing scan fuel with
  | refl => exact ⟨scan, fuel, settled, enough, rfl⟩
  | @step first next last acts shorter rest ih =>
    have length : first.rest.length ≤ scan.rest.length := settled ▸ length_skipGap_le _ scan
    obtain ⟨more, rfl⟩ : ∃ more, fuel = more + 1 := ⟨fuel - 1, by omega⟩
    have present : scan.rest.isEmpty = false := by
      cases empty : scan.rest with
      | nil =>
        rw [empty, List.length_nil] at length
        omega
      | cons => rfl
    have steps : scan.step = .ok next := by rw [step_eq, settled, acts]
    have enoughNext : next.rest.length + 2 ≤ more := by omega
    obtain ⟨final, left, settledFinal, enoughLeft, same⟩ := ih next rfl enoughNext
    refine ⟨final, left, settledFinal, enoughLeft, ?_⟩
    rw [Scan.run, steps]
    simp only [present, Bool.false_eq_true, ↓reduceIte]
    exact same

/-! ## What is left open -/

/-- No key can be found any more that began before. -/
def Idle (scan : Scan) : Prop :=
  ∀ key ∈ scan.keys, scan.isStale key = true ∧ key.2.required = false

theorem Idle.dropStaleKeys (idle : scan.Idle) :
    scan.dropStaleKeys = .ok { scan with keys := [] } := by
  have none : scan.keys.any (fun key => scan.isStale key && key.2.required) = false := by
    rw [List.any_eq_false]
    intro key member
    simp [(idle key member).2]
  have all : scan.keys.filter (!scan.isStale ·) = [] := by
    rw [List.filter_eq_nil_iff]
    intro key member
    simp [(idle key member).1]
  simp [Scan.dropStaleKeys, none, all]

/-- A scan with the blocks closed that are indented by more than `column`. -/
def closedTo (scan : Scan) (column : Nat) : Scan := scan.closeBlocks (· ≤ column)

theorem closedTo_of_le {column : Nat} (stays : ∀ indent ∈ scan.indents.head?, indent ≤ column) :
    scan.closedTo column = scan := by
  have none : scan.indents.takeWhile (fun indent => !decide (indent ≤ column)) = [] := by
    cases opened : scan.indents with
    | nil => rfl
    | cons indent outer => simp [stays indent (by simp [opened])]
  simp [closedTo, closeBlocks, none]

theorem closedTo_of_lt {column indent : Nat} {outer : List Nat} (block : scan.flow = 0)
    (opened : scan.indents = indent :: outer) (closes : column < indent) :
    scan.closedTo column =
      { scan with indents := outer, found := .blockEnd :: scan.found }.closedTo column := by
  have first : (!decide (indent ≤ column)) = true := by
    simp
    omega
  simp only [closedTo, closeBlocks, opened, List.takeWhile_cons, first, ↓reduceIte, block]
  simp [List.replicate_succ']

@[simp] theorem closedTo_rest (scan : Scan) (column : Nat) :
    (scan.closedTo column).rest = scan.rest := by
  unfold closedTo closeBlocks
  split
  · rfl
  · rfl

@[simp] theorem closedTo_place (scan : Scan) (column : Nat) :
    (scan.closedTo column).place = scan.place := by
  unfold closedTo closeBlocks
  split
  · rfl
  · rfl

@[simp] theorem closedTo_flow (scan : Scan) (column : Nat) :
    (scan.closedTo column).flow = scan.flow := by
  unfold closedTo closeBlocks
  split
  · rfl
  · rfl

@[simp] theorem closedTo_keyAllowed (scan : Scan) (column : Nat) :
    (scan.closedTo column).keyAllowed = scan.keyAllowed := by
  unfold closedTo closeBlocks
  split
  · rfl
  · rfl

/-- Which blocks are open does not depend on which keys may still be found. -/
theorem closedTo_forget (scan : Scan) (column : Nat) (keys : List (Nat × PossibleKey)) :
    { scan with keys }.closedTo column = { scan.closedTo column with keys } := by
  unfold closedTo closeBlocks
  split
  · rfl
  · rfl

/-- A scan without the keys that can no longer be found, and with the blocks closed that are indented
by more than where it stands. -/
def cleared (scan : Scan) : Scan := { scan with keys := [] }.closedTo scan.place.column

theorem Idle.act {c : Char} {rest : List Char} (idle : scan.Idle) (starts : scan.rest = c :: rest) :
    scan.act = scan.cleared.takeToken c rest := by
  have ahead : scan.cleared.rest = c :: rest := by rw [cleared, closedTo_rest, starts]
  rw [Scan.act, idle.dropStaleKeys]
  change (match scan.cleared.rest with
    | [] => scan.cleared.endDocument
    | c :: rest => scan.cleared.takeToken c rest) = _
  rw [ahead]

theorem cleared_eq_self (fresh : scan.keys = [])
    (stays : ∀ indent ∈ scan.indents.head?, indent ≤ scan.place.column) : scan.cleared = scan := by
  rw [cleared, ← fresh]
  exact closedTo_of_le stays

theorem idle_of_fresh (fresh : scan.keys = []) : scan.Idle := by simp [Idle, fresh]

/-- Closing some blocks and then more of them is closing all of them. -/
theorem closedTo_closedTo {column least : Nat} (further : least ≤ column) :
    (scan.closedTo column).closedTo least = scan.closedTo least := by
  by_cases block : scan.flow = 0
  · generalize opened : scan.indents = indents
    induction indents generalizing scan with
    | nil =>
      have closed : scan.closedTo column = scan := closedTo_of_le (by simp [opened])
      rw [closed]
    | cons indent outer ih =>
      by_cases closes : column < indent
      · have inner :=
          @ih { scan with indents := outer, found := .blockEnd :: scan.found } block rfl
        rw [closedTo_of_lt block opened closes, inner, ← closedTo_of_lt block opened (by omega)]
      · have closed : scan.closedTo column = scan :=
          closedTo_of_le (by simp [opened]; omega)
        rw [closed]
  · have same (column : Nat) : scan.closedTo column = scan := by simp [closedTo, closeBlocks, block]
    rw [same, same]

end Scan

end UnitLift.Yaml
