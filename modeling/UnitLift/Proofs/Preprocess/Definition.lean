import Mathlib.Data.List.Basic
import UnitLift.Preprocess.Definition
import UnitLift.Proofs.Table
import UnitLift.Proofs.Text.Blank
import UnitLift.Proofs.Text.Lines

/-! Definitions that are printed and read again. They stand one to a line, among lines that define
nothing; what follows a name directly in parentheses belongs to the declarator, and all else to the
replacement. -/

namespace UnitLift.Definitions

open Text

/-- What is defined: a name, and the text of its parameters if it has any. -/
structure Declarator where
  first : Char
  others : List Char
  parameters : Option (List Char)
  isName : isNameStart first = true ∧ ∀ c ∈ others, isWordCharacter c = true
  opened : ∀ text ∈ parameters, ')' ∉ text

/-- Parameters in their parentheses. -/
def parenthesized : Option (List Char) → List Char
  | none => []
  | some text => '(' :: text ++ [')']

def Declarator.text (declarator : Declarator) : List Char :=
  declarator.first :: declarator.others ++ parenthesized declarator.parameters

/-- A definition in one line, with a replacement that has no blanks around it. -/
structure Definition where
  declarator : Declarator
  replacement : List Char
  unpadded : (∀ c ∈ replacement.head?, isBlank c = false) ∧
    ∀ c ∈ replacement.getLast?, isBlank c = false
  inLine : ∀ c ∈ declarator.text ++ replacement, isLineBoundary c = false

def Definition.printed (definition : Definition) : List Char :=
  ['#', 'd', 'e', 'f', 'i', 'n', 'e', ' '] ++ definition.declarator.text ++
    ' ' :: definition.replacement

/-- A line in the output of a preprocessor: a definition, or a line that does not begin like one. -/
inductive DumpLine where
  | defines (definition : Definition)
  | other (line : String) (isLine : IsLine line)
      (begins : "#define".toList.isPrefixOf (trim line.toList) = false)

namespace DumpLine

def text : DumpLine → String
  | defines definition => .ofList definition.printed
  | other line _ _ => line

/-- The definition in a line, as its declarator and its replacement. -/
def pair? : DumpLine → Option (String × String)
  | defines definition =>
    some (.ofList definition.declarator.text, .ofList definition.replacement)
  | other .. => none

end DumpLine

/-- The blanks beyond ASCII. -/
private def farBlanks : List Nat :=
  [0x85, 0xA0, 0x1680, 0x2000, 0x2001, 0x2002, 0x2003, 0x2004, 0x2005, 0x2006, 0x2007, 0x2008, 0x2009,
    0x200A, 0x2028, 0x2029, 0x202F, 0x205F, 0x3000]

theorem isBlank_of_isWordCharacter {c : Char} (word : isWordCharacter c = true) :
    isBlank c = false := by
  rw [Bool.eq_false_iff]
  intro blank
  have code : c.toNat ≤ 32 ∨ c.toNat ∈ farBlanks := by
    simp [isBlank, farBlanks] at blank ⊢
    omega
  have apart : (c.toNat ≤ 32 ∨ 127 < c.toNat) ∧ insideRanges c.toNat wordChanges = false := by
    rcases code with near | far
    · exact ⟨.inl near, insideRanges_of_lt _ (by omega : c.toNat < 0x30)⟩
    · have outside : ∀ code ∈ farBlanks, 127 < code ∧ insideRanges code wordChanges = false := by
        decide +kernel
      exact (outside _ far).imp_left .inr
  have plain : c.isAlphanum = false ∧ c ≠ '_' := by
    constructor
    · change (decide (c.val ≥ 'A'.val ∧ c.val ≤ 'Z'.val) || (c.val ≥ 'a'.val && c.val ≤ 'z'.val) ||
        (c.val ≥ '0'.val && c.val ≤ '9'.val)) = false
      simp [UInt32.le_iff_toNat_le]
      omega
    · rintro rfl
      cases blank
  simp [isWordCharacter, apart, plain] at word

theorem parametersAndRest_append (parameters : Option (List Char))
    (opened : ∀ text ∈ parameters, ')' ∉ text) {rest : List Char} (apart : rest.head? ≠ some '(') :
    parametersAndRest (parenthesized parameters ++ rest) = (parenthesized parameters, rest) := by
  cases parameters with
  | none =>
    change parametersAndRest rest = ([], rest)
    unfold parametersAndRest
    split
    · simp at apart
    · rfl
  | some text =>
    have apartText : ∀ c ∈ text, (c != ')') = true := by
      intro c member
      have differs : c ≠ ')' := by
        rintro rfl
        exact opened text rfl member
      simpa using differs
    have whole : parenthesized (some text) ++ rest = '(' :: (text ++ ')' :: rest) := by
      simp [parenthesized]
    have closed : (text ++ ')' :: rest).contains ')' = true := by simp
    rw [whole, parametersAndRest, if_pos closed, List.takeWhile_append_of_pos apartText,
      List.dropWhile_append_of_pos apartText]
    simp [parenthesized]

/-- A declarator is read up to a space behind it, or to the end of the text. -/
theorem declaratorAndRest?_text (declarator : Declarator) {rest : List Char}
    (apart : ∀ c ∈ rest.head?, c = ' ') :
    declaratorAndRest? (declarator.text ++ rest) = some (declarator.text, rest) := by
  obtain ⟨first, others, parameters, ⟨starts, word⟩, opened⟩ := declarator
  have stops : ∀ c ∈ (parenthesized parameters ++ rest).head?, isWordCharacter c = false := by
    cases parameters with
    | none =>
      intro c head
      rw [apart c head]
      decide
    | some text =>
      rintro c ⟨⟩
      decide
  have unopened : rest.head? ≠ some '(' := by
    intro opens
    cases apart _ opens
  have taken : (others ++ (parenthesized parameters ++ rest)).takeWhile isWordCharacter = others := by
    rw [List.takeWhile_append_of_pos word]
    cases whole : parenthesized parameters ++ rest with
    | nil => simp
    | cons c more => simp [stops c (by simp [whole])]
  have left : (others ++ (parenthesized parameters ++ rest)).dropWhile isWordCharacter =
      parenthesized parameters ++ rest := by
    rw [List.dropWhile_append_of_pos word]
    cases whole : parenthesized parameters ++ rest with
    | nil => simp
    | cons c more => simp [stops c (by simp [whole])]
  simp only [Declarator.text, List.cons_append, List.append_assoc]
  rw [declaratorAndRest?, if_pos starts, left, taken, parametersAndRest_append _ opened unopened]
  rfl

theorem Declarator.visible (declarator : Declarator) :
    ∀ c ∈ declarator.first :: declarator.others, isBlank c = false := by
  obtain ⟨starts, word⟩ := declarator.isName
  have wordStart : isWordCharacter declarator.first = true := by
    have letter : declarator.first.isAlpha = true ∨ declarator.first = '_' := by
      simpa [isNameStart] using starts
    simp only [isWordCharacter, Char.isAlphanum, Bool.or_eq_true, beq_iff_eq]
    tauto
  intro c member
  rcases List.mem_cons.mp member with rfl | member
  · exact isBlank_of_isWordCharacter wordStart
  · exact isBlank_of_isWordCharacter (word c member)

private theorem isBlank_of_getLast?_text (declarator : Declarator) :
    ∀ c ∈ declarator.text.getLast?, isBlank c = false := by
  intro c last
  cases given : declarator.parameters with
  | none =>
    simp only [Declarator.text, given, parenthesized, List.append_nil] at last
    exact declarator.visible c (List.mem_of_getLast? last)
  | some text =>
    have ends : declarator.text =
        (declarator.first :: declarator.others ++ '(' :: text) ++ [')'] := by
      simp [Declarator.text, given, parenthesized]
    rw [ends, List.getLast?_concat] at last
    cases last
    decide

private theorem trimEnd_of_getLast? {text : List Char}
    (visible : ∀ c ∈ text.getLast?, isBlank c = false) : trimEnd text = text := by
  rw [trimEnd]
  cases back : text.reverse with
  | nil => simpa using back.symm
  | cons c rest =>
    have last : text.getLast? = some c := by rw [← List.head?_reverse, back]; rfl
    rw [List.dropWhile_cons_of_neg (by simpa using visible c last), ← back, List.reverse_reverse]

/-- What is left of a printed definition without the blanks around it. -/
private theorem trim_printed (definition : Definition) :
    trim definition.printed = ['#', 'd', 'e', 'f', 'i', 'n', 'e', ' '] ++
      (definition.declarator.text ++
        if definition.replacement = [] then [] else ' ' :: definition.replacement) := by
  rw [Definition.printed, trim, List.append_assoc, List.cons_append,
    trimStart_cons (by decide)]
  by_cases bare : definition.replacement = []
  · rw [bare, if_pos rfl, ← List.cons_append, ← List.append_assoc]
    have space (text : List Char) : trimEnd (text ++ [' ']) = trimEnd text := by
      simp [trimEnd, (by decide : isBlank ' ' = true)]
    rw [space, List.append_nil]
    apply trimEnd_of_getLast?
    intro c last
    apply isBlank_of_getLast?_text definition.declarator c
    rwa [List.getLast?_append_of_ne_nil _ (by simp [Declarator.text])] at last
  · rw [if_neg bare, ← List.cons_append]
    apply trimEnd_of_getLast?
    intro c last
    apply definition.unpadded.2 c
    rwa [List.getLast?_append_of_ne_nil _ (by simp [Declarator.text]),
      List.getLast?_append_of_ne_nil _ (by simp), List.getLast?_cons_of_ne_nil bare] at last

theorem readLine?_printed (definition : Definition) :
    readLine? (trim definition.printed) =
      some (.ofList definition.declarator.text, .ofList definition.replacement) := by
  obtain ⟨declarator, replacement, ⟨begins, -⟩, -⟩ := definition
  have leads (text : List Char) : trimStart (declarator.text ++ text) = declarator.text ++ text :=
    trimStart_cons (declarator.visible _ (by simp)) _
  have space : isBlank ' ' = true := by decide
  rw [trim_printed]
  simp only [readLine?, List.cons_append, List.nil_append, List.drop_succ_cons, List.drop_zero,
    space, if_true, leads]
  rw [if_pos (by rfl)]
  by_cases bare : replacement = []
  · rw [if_pos bare, declaratorAndRest?_text declarator (by simp)]
    simp [bare]
  · rw [if_neg bare, declaratorAndRest?_text declarator (by simp)]
    cases replacement with
    | nil => exact absurd rfl bare
    | cons c rest => simp [space, trimStart_cons (begins c rfl)]

namespace DumpLine

theorem isLine_text (line : DumpLine) : IsLine line.text := by
  cases line with
  | other line isLine begins => exact isLine
  | defines definition =>
    intro c member
    rw [text, String.toList_ofList, Definition.printed, List.append_assoc] at member
    rcases List.mem_append.mp member with start | member
    · have plain : ∀ c ∈ ['#', 'd', 'e', 'f', 'i', 'n', 'e', ' '], isLineBoundary c = false := by
        simp [isLineBoundary]
      exact plain c start
    · have parts : c = ' ' ∨ c ∈ definition.declarator.text ++ definition.replacement := by
        simp only [List.mem_append, List.mem_cons] at member ⊢
        tauto
      rcases parts with rfl | inside
      · decide
      · exact definition.inLine c inside

theorem readLine?_text (line : DumpLine) : readLine? (trim line.text.toList) = line.pair? := by
  cases line with
  | defines definition =>
    rw [text, String.toList_ofList, readLine?_printed]
    rfl
  | other line isLine begins =>
    rw [text, readLine?, begins, if_neg Bool.false_ne_true]
    rfl

end DumpLine

/-- Definitions that are printed one to a line, among lines that define nothing, are read back: each
declarator where it first comes up, with the replacement that was printed last. -/
theorem ofOutput_joinLines (dump : List DumpLine) :
    let definitions := ofOutput (joinLines (dump.map DumpLine.text))
    let printed := dump.filterMap DumpLine.pair?
    definitions.keys = (printed.map (·.1)).eraseDups ∧
      ∀ declarator, definitions.get? declarator =
        (printed.filter (·.1 == declarator)).getLast?.map (·.2) := by
  have read : (linesOf (joinLines (dump.map DumpLine.text))).filterMap
      (fun line => readLine? (trim line.toList)) = dump.filterMap DumpLine.pair? := by
    cases dump with
    | nil =>
      rw [List.map_nil, linesOf_joinLines_nil]
      rfl
    | cons line rest =>
      have whole : ∀ text ∈ (line :: rest).map DumpLine.text, IsLine text := by
        rintro text member
        obtain ⟨line, -, rfl⟩ := List.mem_map.mp member
        exact line.isLine_text
      rw [linesOf_joinLines (by simp) whole, List.filterMap_map]
      exact congrArg (List.filterMap · _) (funext DumpLine.readLine?_text)
  simp only [ofOutput, read]
  exact ⟨Table.keys_ofList _, Table.get?_ofList _⟩

private theorem forall_of_any {test : Char → Bool} {text : List Char} (absent : text.any test = false) :
    ∀ c ∈ text, test c = false := by
  simpa using absent

/-- A macro with parameters, and a replacement that has parentheses of its own. -/
def maximum : Definition where
  declarator :=
    { first := 'M', others := ['A', 'X'], parameters := some ['a', ',', 'b']
      isName := ⟨by decide, List.all_eq_true.mp (by decide +kernel)⟩, opened := by simp }
  replacement := "((a) > (b) ? (a) : (b))".toList
  unpadded := ⟨by rintro _ ⟨⟩; decide +kernel, by rintro _ ⟨⟩; decide +kernel⟩
  inLine := forall_of_any (by decide +kernel)

/-- A macro without parameters. -/
def limit (digit : Fin 10) : Definition where
  declarator :=
    { first := '_', others := ['L'], parameters := none
      isName := ⟨by decide, List.all_eq_true.mp (by decide +kernel)⟩, opened := nofun }
  replacement := [Nat.digitChar digit]
  unpadded := by
    have present : ∀ digit : Fin 10, isBlank (Nat.digitChar digit) = false := by decide +kernel
    exact ⟨by rintro _ ⟨⟩; exact present digit, by rintro _ ⟨⟩; exact present digit⟩
  inLine := forall_of_any (by revert digit; decide +kernel)

/-- A dump in which one of them is defined twice. -/
def dumpSample : List DumpLine :=
  [.defines (limit 1), .other "# 1 <built-in>" (by decide +kernel) (by decide +kernel),
    .defines maximum, .defines (limit 2)]

theorem ofOutput_joinLines_sample :
    let definitions := ofOutput (joinLines (dumpSample.map DumpLine.text))
    definitions.keys = ["_L", "MAX(a,b)"] ∧ definitions.get? "_L" = some "2" ∧
      definitions.get? "MAX(a,b)" = some "((a) > (b) ? (a) : (b))" := by
  obtain ⟨keys, found⟩ := ofOutput_joinLines dumpSample
  exact ⟨keys.trans (by decide +kernel), (found "_L").trans (by decide +kernel),
    (found "MAX(a,b)").trans (by decide +kernel)⟩

end UnitLift.Definitions
