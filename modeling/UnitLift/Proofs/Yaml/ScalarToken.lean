import UnitLift.Proofs.Yaml.Escaping
import UnitLift.Proofs.Yaml.Gap

namespace UnitLift.Yaml

/-- Whether a scalar is written without quotes. -/
def isPlain (scalar : Scalar) : Bool :=
  let text := (scalarText scalar).toList
  TextStyle.of (ScalarKind.written text == kindOfScalar scalar) false text == .plain

def scalarToken (scalar : Scalar) : Token := .scalar (isPlain scalar) (scalarText scalar)

/-- A text and what is written of it, with or without quotes. -/
inductive Spelled (indent : Nat) (text : List Char) : Bool → List Char → Prop
  | plain {written : List Char} (folded : Folded (fun c => [c]) indent false text written)
      (ordinary : ∀ c ∈ text, IsOrdinary c) (present : text ≠ [])
      (noStart : TextTraits.startsWithSign text = false)
      (noSigns : TextTraits.hasInnerSign (text.headD ' ') (text.drop 1) = false)
      (closedStart : text.head? ≠ some ' ') (closedEnd : text.getLast? ≠ some ' ') :
      Spelled indent text true written
  | single {written : List Char} (folded : Folded QuotedText.doubled indent false text written)
      (ordinary : ∀ c ∈ text, IsOrdinary c) :
      Spelled indent text false (Text.singleQuote :: written ++ [Text.singleQuote])
  | double {written : List Char} (escaped : QuotedText.Escaped indent text written) :
      Spelled indent text false (Text.doubleQuote :: written ++ [Text.doubleQuote])

variable {text : List Char}

private theorem isOrdinary_of_not_hasSpecials (inLine : '\n' ∉ text)
    (none : (TextTraits.of text).hasSpecials = false) : ∀ c ∈ text, IsOrdinary c := by
  intro c member
  simp only [TextTraits.of, Bool.not_eq_false', List.all_eq_true] at none
  exact .of_isOrdinary (none c member) fun same => inLine (same ▸ member)

private theorem readsBack_nil {scalar : Scalar} (empty : (scalarText scalar).toList = []) :
    (ScalarKind.written [] == kindOfScalar scalar) = false := by
  have absent : ScalarKind.written [] = .null := by decide +kernel
  rw [absent]
  cases scalar with
  | null => simp [scalarText] at empty
  | _ => rfl

private theorem styleOf (readsBack asKey : Bool) (present : text ≠ []) :
    TextStyle.of readsBack asKey text =
      let traits := TextTraits.of text
      let needsDouble := traits.hasSpecials || traits.spaceThenBreak || traits.breakThenSpace
      if readsBack && !traits.hasSigns && !traits.hasBreaks && !traits.hasLooseEnds && !needsDouble
      then .plain
      else if needsDouble || (asKey && traits.hasBreaks) then .double
      else .single := by
  rw [TextStyle.of, if_neg (by simpa using present)]

private theorem plain_iff (readsBack asKey : Bool) (present : text ≠ []) :
    TextStyle.of readsBack asKey text = .plain ↔ TextStyle.of readsBack false text = .plain := by
  rw [styleOf _ _ present, styleOf _ _ present]
  grind

theorem spelled_writtenScalar (asKey : Bool) (indent column : Nat) {scalar : Scalar}
    (inLine : '\n' ∉ (scalarText scalar).toList)
    (once : QuotedText.BreaksOnce indent (scalarText scalar).toList) :
    Spelled indent (scalarText scalar).toList (isPlain scalar)
      (writtenScalar asKey indent column scalar) := by
  have empty := @readsBack_nil scalar
  unfold isPlain writtenScalar
  generalize (scalarText scalar).toList = text at *
  simp only
  generalize given : (ScalarKind.written text == kindOfScalar scalar) = readsBack
  by_cases present : text = []
  · subst present
    rw [empty rfl] at given
    subst given
    exact .single .nil (by simp)
  · have same := plain_iff readsBack asKey present
    cases style : TextStyle.of readsBack asKey text with
    | plain =>
      have traits : (TextTraits.of text).hasSigns = false ∧
          (TextTraits.of text).hasSpecials = false ∧ (TextTraits.of text).hasLooseEnds = false := by
        rw [styleOf _ _ present] at style
        grind
      obtain ⟨signs, specials, loose⟩ := traits
      simp only [TextTraits.of, Bool.or_eq_false_iff] at signs loose
      have closed {c : Option Char} (notLoose : (c.any fun c => c == ' ' || TextTraits.isLineEnd c) = false) :
          c ≠ some ' ' := by
        rintro rfl
        cases notLoose
      rw [same.mp style]
      exact .plain (folded_fold ⟨!asKey, indent⟩ _ _ inLine)
        (isOrdinary_of_not_hasSpecials inLine specials) present signs.1 signs.2 (closed loose.1)
        (closed loose.2)
    | single =>
      have quoted : (TextStyle.of readsBack false text == .plain) = false := by
        rw [style] at same
        simpa using same
      have plain : (TextTraits.of text).hasSpecials = false := by
        rw [styleOf _ _ present] at style
        grind
      rw [quoted]
      exact .single (folded_fold ⟨!asKey, indent⟩ QuotedText.doubled _ inLine)
        (isOrdinary_of_not_hasSpecials inLine plain)
    | double =>
      have quoted : (TextStyle.of readsBack false text == .plain) = false := by
        rw [style] at same
        simpa using same
      rw [quoted]
      exact .double (QuotedText.escaped_escaped ⟨!asKey, indent⟩ true false _ once)

variable {indent : Nat} {plain : Bool} {written tail rest gap : List Char} {allowed : Bool}

theorem Spelled.isWritten (spelled : Spelled indent text plain written) :
    ∀ c ∈ written, IsWritten c := by
  cases spelled with
  | plain folded ordinary =>
    exact folded.isWritten fun c member d same => by
      rw [List.mem_singleton.mp same]
      exact ordinary c member
  | single folded ordinary =>
    have quote : IsWritten Text.singleQuote := .inl (by decide)
    simp only [List.forall_mem_cons, List.forall_mem_append]
    refine ⟨⟨quote, folded.isWritten fun c member d same => ?_⟩, quote, by simp⟩
    rw [QuotedText.eq_of_mem_doubled same]
    exact ordinary c member
  | double escaped =>
    have quote : IsWritten Text.doubleQuote := .inl (by decide)
    simp only [List.forall_mem_cons, List.forall_mem_append]
    exact ⟨⟨quote, escaped.isWritten⟩, quote, by simp⟩

theorem Spelled.starts (spelled : Spelled indent text plain written)
    (apart : ∀ c ∈ tail.head?, c ≠ '-' ∧ c ≠ '.') :
    Starts (written ++ tail) ∧ startsMarker (written ++ tail) = false := by
  cases spelled with
  | plain folded ordinary present noStart noSigns closedStart closedEnd =>
    refine ⟨?_, folded.startsMarker_eq noStart apart⟩
    obtain ⟨c, text, rfl⟩ := List.exists_cons_of_ne_nil present
    have visible : c ≠ ' ' := fun same => closedStart (congrArg some same)
    obtain ⟨more, rfl⟩ := folded.exists_append visible
    rintro _ ⟨⟩
    refine ⟨ordinary c (by simp), visible, ?_⟩
    rintro rfl
    cases noStart
  | single => exact ⟨by rintro _ ⟨⟩; decide, startsMarker_of_ne (by decide) (by decide) _⟩
  | double => exact ⟨by rintro _ ⟨⟩; decide, startsMarker_of_ne (by decide) (by decide) _⟩

/-- What may follow a scalar in a block that is indented by less than `least`: a colon, or a new line
further out. It consists of a gap and the rest; `allowed` says whether a key may begin behind the
gap. -/
inductive Follows (least : Nat) : List Char → List Char → List Char → Bool → Prop
  | colon {more : List Char} (blank : startsBlank more = true) :
      Follows least (':' :: more) [] (':' :: more) false
  | line {indent : Nat} {more : List Char} (outer : indent < least) (starts : Starts more)
      (unmarked : indent = 0 → startsMarker more = false) :
      Follows least (newLine indent ++ more) (newLine indent) more true

namespace Follows

variable {least : Nat}

theorem starts (follows : Follows least tail gap rest allowed) : Starts rest := by
  cases follows with
  | colon => rintro _ ⟨⟩; decide
  | line _ starts => exact starts

theorem eq_append (follows : Follows least tail gap rest allowed) : tail = gap ++ rest := by
  cases follows with
  | colon => rfl
  | line => rfl

theorem takeGap_eq (follows : Follows least tail gap rest allowed) :
    (Plain.takeGap tail).column.isSome = allowed ∧ (Plain.takeGap tail).rest = rest := by
  cases follows with
  | colon => exact ⟨rfl, rfl⟩
  | line _ starts unmarked =>
    have gap := Plain.takeGap_break starts unmarked
    rw [newLine, List.cons_append, gap]
    exact ⟨rfl, rfl⟩

theorem stops (follows : Follows least tail gap rest allowed) : Plain.Stops least tail := by
  cases follows with
  | colon blank => exact ⟨by simp [Plain.takeWord, Plain.colonEnds, blank], rfl⟩
  | @line indent more outer starts unmarked =>
    refine ⟨rfl, ?_⟩
    rw [newLine, List.cons_append, Plain.takeGap_break starts unmarked]
    simp [Plain.Gap.ends, outer]

theorem head?_ne_quote (follows : Follows least tail gap rest allowed) :
    tail.head? ≠ some Text.singleQuote := by
  cases follows with
  | colon =>
    rintro ⟨⟩
  | line =>
    rintro ⟨⟩

theorem head?_ne_marker (follows : Follows least tail gap rest allowed) :
    ∀ c ∈ tail.head?, c ≠ '-' ∧ c ≠ '.' := by
  cases follows with
  | colon =>
    rintro _ ⟨⟩
    decide
  | line =>
    rintro _ ⟨⟩
    decide

theorem length_pos (follows : Follows least tail gap rest allowed) : 0 < tail.length := by
  cases follows with
  | colon => exact Nat.succ_pos _
  | line => exact Nat.succ_pos _

theorem isWritten_gap (follows : Follows least tail gap rest allowed) : ∀ c ∈ gap, IsWritten c := by
  cases follows with
  | colon => simp
  | line =>
    refine List.forall_mem_cons.mpr ⟨.inr rfl, fun c member => ?_⟩
    rw [List.eq_of_mem_replicate member]
    exact .inl (by decide)

/-- Behind the gap a scan is the same whether it has passed the gap yet or not. -/
theorem settle (follows : Follows least tail gap rest allowed) {scan : Scan}
    (ahead : scan.rest = tail) (block : scan.flow = 0) (closed : scan.keyAllowed = false) :
    scan.settle = { scan with rest, place := scan.place.past gap, keyAllowed := allowed } := by
  cases follows with
  | colon blank =>
    have starts := (@Follows.colon least _ blank).starts
    rw [Scan.settle_eq_self (ahead ▸ starts), ← ahead, ← closed]
    rfl
  | line _ starts => exact Scan.settle_newLine starts ahead block

end Follows

namespace Scan

variable {scan : Scan}

/-- The place where a key may begin with the next token. -/
def possibleKeys (scan : Scan) : List (Nat × PossibleKey) :=
  if scan.keyAllowed then
    [(scan.flow,
      { number := scan.found.length
        required := scan.flow == 0 && scan.indents.head? == some scan.place.column
        place := scan.place })]
  else []

theorem noteKey_eq (fresh : scan.keys = []) :
    scan.noteKey = .ok { scan with keys := scan.possibleKeys } := by
  obtain ⟨_, _, _, _, _, keyAllowed, keys⟩ := scan
  obtain rfl : keys = [] := fresh
  cases keyAllowed with
  | false => rfl
  | true => rfl

/-- The least column at which a plain scalar goes on. -/
def least (scan : Scan) : Nat := (scan.indents.head?.map (· + 1)).getD 0

def behind (scan : Scan) (token : Token) (written gap rest : List Char) (allowed : Bool) : Scan :=
  { scan with
    rest, place := (scan.place.past written).past gap, found := token :: scan.found
    keyAllowed := allowed, keys := scan.possibleKeys }

variable {indent : Nat} {text written tail rest gap : List Char} {allowed : Bool}

private theorem behind_append (token : Token) (written gap rest : List Char) (allowed : Bool) :
    scan.behind token (written ++ gap) [] rest allowed =
      scan.behind token written gap rest allowed := by
  simp only [behind, Place.past_append]
  rfl

private theorem takePlain_eq (fresh : scan.keys = []) (block : scan.flow = 0)
    (spelled : Spelled indent text true written) (ahead : scan.rest = written ++ tail)
    (indented : 0 < indent) (deep : scan.least ≤ indent)
    (follows : Follows scan.least tail gap rest allowed) :
    scan.takePlain =
      .ok (scan.behind (.scalar true (String.ofList text)) written gap rest allowed) := by
  have isWritten := List.forall_mem_append.mpr ⟨spelled.isWritten, follows.isWritten_gap⟩
  cases spelled with
  | plain folded ordinary present noStart noSigns closedStart closedEnd =>
    have signs : TextTraits.hasInnerSign '-' text = false := by
      cases text with
      | nil => rfl
      | cons c text =>
        simp only [TextTraits.startsWithSign, Bool.or_eq_false_iff] at noStart
        obtain ⟨-, leading, colon⟩ := noStart
        have noHash : c ≠ '#' := by
          rintro rfl
          cases leading
        have unended : (c == ':' && startsBlank text) = false := by
          by_cases same : c = ':'
          · simpa [same] using colon
          · simp [same]
        simpa [TextTraits.hasInnerSign, unended, noHash] using noSigns
    have ends : text.getLast?.getD '-' ≠ ' ' := by
      cases last : text.getLast? with
      | none => decide
      | some c => exact fun same => closedEnd (last.trans (congrArg some same))
    have enough : 0 + written.length < (written ++ tail).length := by
      have := follows.length_pos
      rw [List.length_append]
      omega
    have read : Plain.read false scan.least scan.rest = Plain.closed text tail := by
      have read := Plain.readFrom_folded folded follows.stops indented deep ordinary
        signs ends enough (by simp)
      rw [ahead]
      exact read
    obtain ⟨passed, left⟩ := follows.takeGap_eq
    have split : scan.rest = (written ++ gap) ++ rest := by
      rw [ahead, follows.eq_append, List.append_assoc]
    have unflowed : (scan.flow != 0) = false := by simp [block]
    rw [takePlain, noteKey_eq fresh, ← behind_append]
    let result := Plain.read (scan.flow != 0) scan.least scan.rest
    change Except.ok ((({ scan with keys := scan.possibleKeys }.allowKey result.passedBreak).push
      (.scalar true (String.ofList result.text))).moveTo result.rest) = _
    simp only [result, unflowed, read, Plain.closed, left, passed]
    exact congrArg Except.ok (moveTo_append split isWritten)

private theorem takeQuoted_eq {double : Bool} {quote : Char} {inner : List Char}
    (fresh : scan.keys = []) (block : scan.flow = 0) (ahead : scan.rest = quote :: inner ++ tail)
    (isWritten : ∀ c ∈ quote :: inner, IsWritten c)
    (read : QuotedText.read double (inner ++ tail) = .ok (text, tail))
    (follows : Follows scan.least tail gap rest allowed) :
    ∃ next, scan.takeNode (takeQuoted double) = .ok next ∧ next.rest = tail ∧
      next.settle =
        scan.behind (.scalar false (String.ofList text)) (quote :: inner) gap rest allowed := by
  have token : takeQuoted double scan.rest =
      .ok (.scalar false (String.ofList text), tail) := by
    rw [ahead, takeQuoted, List.cons_append, List.drop_succ_cons, List.drop_zero, read]
    rfl
  let noted := { scan with keys := scan.possibleKeys }
  refine ⟨((noted.allowKey false).push (.scalar false (String.ofList text))).moveTo tail, ?_, rfl, ?_⟩
  · rw [takeNode, noteKey_eq fresh]
    change (takeQuoted double scan.rest >>= fun read =>
      .ok (((noted.allowKey false).push read.1).moveTo read.2)) = _
    rw [token]
    rfl
  · rw [@moveTo_append ((noted.allowKey false).push _) _ _ ahead isWritten]
    exact follows.settle rfl block rfl

private theorem takeToken_single (rest : List Char) :
    scan.takeToken Text.singleQuote rest = scan.takeNode (takeQuoted false) := by
  have unmarked : startsMarker (Text.singleQuote :: rest) = false :=
    startsMarker_of_ne (by decide) (by decide) rest
  unfold takeToken
  rw [unmarked]
  simp [Text.singleQuote]

private theorem takeToken_double (rest : List Char) :
    scan.takeToken Text.doubleQuote rest = scan.takeNode (takeQuoted true) := by
  have unmarked : startsMarker (Text.doubleQuote :: rest) = false :=
    startsMarker_of_ne (by decide) (by decide) rest
  unfold takeToken
  rw [unmarked]
  simp [Text.doubleQuote, Text.singleQuote]

/-- A plain scalar begins with a character that has no meaning of its own, or none here. -/
private theorem takeToken_plain {c : Char} (block : scan.flow = 0) (ordinary : IsOrdinary c)
    (visible : c ≠ ' ') (leading : TextTraits.isLeadingSign c = false)
    (unended : c = '-' ∨ c = '?' ∨ c = ':' → startsBlank rest = false)
    (unmarked : startsMarker (c :: rest) = false) :
    scan.takeToken c rest = scan.takePlain := by
  have inBlock : (scan.flow != 0) = false := by simp [block]
  simp only [TextTraits.isLeadingSign, Bool.or_eq_false_iff] at leading
  obtain ⟨⟨⟨signs, single⟩, double⟩, tick⟩ := leading
  simp at signs
  have indicators : startsBlank rest = false ∨ c ≠ '-' ∧ c ≠ '?' ∧ c ≠ ':' := by
    by_cases special : c = '-' ∨ c = '?' ∨ c = ':'
    · exact .inl (unended special)
    · exact .inr (by simpa using special)
  have starts : scan.startsPlain c rest = true := by
    simp only [startsPlain, isIndicator, ordinary.isBlank_eq, ordinary.isBreak_eq, single, double, tick,
      block]
    by_cases special : c = '-' ∨ c = '?' ∨ c = ':'
    · simp [unended special, special]
    · simp only [not_or] at special
      simp [visible, special, signs]
  unfold takeToken
  rw [unmarked]
  simp only [single, double, inBlock, starts]
  rcases indicators with blank | ⟨noDash, noQuestion, noColon⟩
  · simp [signs, blank]
  · simp [signs, noDash, noQuestion, noColon]

theorem act_spelled (scan : Scan) (fresh : scan.keys = []) (block : scan.flow = 0)
    (stays : ∀ indent ∈ scan.indents.head?, indent ≤ scan.place.column) {plain : Bool}
    (spelled : Spelled indent text plain written) (ahead : scan.rest = written ++ tail)
    (indented : 0 < indent) (deep : scan.least ≤ indent)
    (follows : Follows scan.least tail gap rest allowed) :
    ∃ next, scan.act = .ok next ∧ next.rest.length < scan.rest.length ∧
      next.settle = scan.behind (.scalar plain (String.ofList text)) written gap rest allowed := by
  have acts {c : Char} {more : List Char} (starts : scan.rest = c :: more) :
      scan.act = scan.takeToken c more := by
    rw [(idle_of_fresh fresh).act starts, cleared_eq_self fresh stays]
  have isWritten := spelled.isWritten
  have spells := spelled
  cases spells with
  | plain folded ordinary present noStart noSigns closedStart closedEnd =>
    obtain ⟨c, text, rfl⟩ := List.exists_cons_of_ne_nil present
    have visible : c ≠ ' ' := fun same => closedStart (congrArg some same)
    obtain ⟨more, rfl⟩ := folded.exists_append visible
    have starts := noStart
    simp only [TextTraits.startsWithSign, Bool.or_eq_false_iff] at starts
    obtain ⟨-, leading, blanks⟩ := starts
    have here := ordinary c (by simp)
    obtain ⟨_, ⟨⟩, inner⟩ := folded.of_cons (by
      rintro rfl
      exact absurd here (by decide))
    have unended : c = '-' ∨ c = '?' ∨ c = ':' → startsBlank (more ++ tail) = false := by
      intro special
      refine inner.startsBlank_eq ?_ tail
      rcases special with rfl | rfl | rfl
      · simpa using blanks
      · simpa using blanks
      · simpa using blanks
    have takes := takePlain_eq fresh block spelled ahead indented deep follows
    have token := takeToken_plain block here visible leading unended
      (folded.startsMarker_eq noStart follows.head?_ne_marker)
    refine ⟨_, ?_, ?_, settle_eq_self follows.starts⟩
    · rw [acts ahead]
      exact token.trans takes
    · have length := congrArg List.length follows.eq_append
      rw [List.length_append] at length
      simp only [ahead, behind, List.length_append, List.length_cons, List.cons_append]
      omega
  | @single written folded ordinary =>
    have read : QuotedText.read false (written ++ [Text.singleQuote] ++ tail) = .ok (text, tail) := by
      rw [List.append_assoc]
      exact QuotedText.readFrom_folded folded follows.head?_ne_quote indented 0 ordinary
        (by simp) (by simp)
    obtain ⟨next, takes, left, settles⟩ := takeQuoted_eq fresh block ahead isWritten read follows
    refine ⟨next, ?_, ?_, settles⟩
    · rw [acts ahead, takeToken_single, takes]
    · simp [ahead, left]
      omega
  | @double written escaped =>
    have read : QuotedText.read true (written ++ [Text.doubleQuote] ++ tail) = .ok (text, tail) := by
      rw [List.append_assoc]
      exact QuotedText.readFrom_escaped escaped indented 0 (by simp)
    obtain ⟨next, takes, left, settles⟩ := takeQuoted_eq fresh block ahead isWritten read follows
    refine ⟨next, ?_, ?_, settles⟩
    · rw [acts ahead, takeToken_double, takes]
    · simp [ahead, left]
      omega

end Scan

/-! ## Keys -/

def TextStyle.oneLine (style : TextStyle) (text : List Char) : List Char :=
  match style with
  | .plain => text
  | .single => Text.singleQuote :: text.flatMap QuotedText.doubled ++ [Text.singleQuote]
  | .double =>
    Text.doubleQuote :: text.flatMap (fun c => (LineBreaking.escape? c).getD [c]) ++
      [Text.doubleQuote]

theorem writtenScalar_key {scalar : Scalar} (inLine : '\n' ∉ (scalarText scalar).toList)
    (indent column : Nat) :
    writtenScalar true indent column scalar =
      (TextStyle.of (ScalarKind.written (scalarText scalar).toList == kindOfScalar scalar) true
        (scalarText scalar).toList).oneLine (scalarText scalar).toList := by
  have folds (encode : Char → List Char) (column : Nat) :
      LineBreaking.fold ⟨!true, indent⟩ encode false column (scalarText scalar).toList =
        (scalarText scalar).toList.flatMap encode :=
    fold_of_not_allowed rfl encode column inLine
  have escapes (column : Nat) :
      LineBreaking.escaped ⟨!true, indent⟩ true false column (scalarText scalar).toList =
        (scalarText scalar).toList.flatMap fun c => (LineBreaking.escape? c).getD [c] :=
    QuotedText.escaped_of_not_allowed rfl true false column
  unfold writtenScalar
  simp only
  generalize TextStyle.of _ _ _ = style
  cases style with
  | plain =>
    simp only [LineBreaking.write, folds, TextStyle.oneLine]
    simp
  | single =>
    simp only [LineBreaking.write, folds, TextStyle.oneLine]
    rfl
  | double => simp only [LineBreaking.write, escapes, TextStyle.oneLine]

theorem inLine_oneLine (style : TextStyle) (inLine : '\n' ∉ text) : '\n' ∉ style.oneLine text := by
  cases style with
  | plain => exact inLine
  | single =>
    have inner : '\n' ∉ text.flatMap QuotedText.doubled := by
      intro member
      obtain ⟨c, present, member⟩ := List.mem_flatMap.mp member
      rw [QuotedText.eq_of_mem_doubled member] at inLine
      exact inLine present
    have quote : '\n' ≠ Text.singleQuote := by decide
    simp [TextStyle.oneLine, inner, quote]
  | double =>
    have inner : '\n' ∉ text.flatMap fun c => (LineBreaking.escape? c).getD [c] := by
      intro member
      obtain ⟨c, -, member⟩ := List.mem_flatMap.mp member
      exact absurd (QuotedText.isOrdinary_encoded c _ member) (by decide)
    have quote : '\n' ≠ Text.doubleQuote := by decide
    simp [TextStyle.oneLine, inner, quote]

end UnitLift.Yaml
