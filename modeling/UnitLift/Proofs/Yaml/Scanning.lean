import UnitLift.Proofs.Yaml.ScalarToken

namespace UnitLift.Yaml

/-- A scalar that can be written where lines go on behind `indent` spaces. -/
structure Fits (indent : Nat) (scalar : Scalar) : Prop where
  inLine : '\n' ∉ (scalarText scalar).toList
  once : QuotedText.BreaksOnce indent (scalarText scalar).toList

instance (indent : Nat) (scalar : Scalar) : Decidable (Fits indent scalar) :=
  decidable_of_iff ('\n' ∉ (scalarText scalar).toList ∧
    QuotedText.BreaksOnce indent (scalarText scalar).toList)
    ⟨fun ⟨inLine, once⟩ => ⟨inLine, once⟩, fun ⟨inLine, once⟩ => ⟨inLine, once⟩⟩

/-- A key whose colon comes soon enough, if it is to follow the key. -/
def IsFound (key : Scalar) : Prop :=
  isSimpleKey key = true → (writtenScalar true 0 0 key).length ≤ 1024

instance (key : Scalar) : Decidable (IsFound key) := inferInstanceAs (Decidable (_ → _))

/-- A value that is written at `indent` so that its tokens can be found. -/
inductive Writable : Nat → Value → Prop
  | scalar {indent : Nat} {scalar : Scalar} (fits : Fits indent scalar) :
      Writable indent (.scalar scalar)
  | mapping {indent : Nat} {entries : List (Scalar × Value)}
      (sorted : sortEntries entries = entries)
      (texts : entries.all (isText ·.1) = true)
      (keys : ∀ entry ∈ entries, Fits (indent + 2) entry.1 ∧ IsFound entry.1)
      (values : ∀ entry ∈ entries, Writable (indent + 2) entry.2) :
      Writable indent (.mapping entries)

mutual

def tokensOf : Value → List Token
  | .scalar scalar => [scalarToken scalar]
  | .list _ => []
  | .mapping entries =>
    if entries.isEmpty then [.flowMappingStart, .flowMappingEnd]
    else .mappingStart :: tokensOfEntries entries ++ [.blockEnd]

def tokensOfEntries : List (Scalar × Value) → List Token
  | [] => []
  | (key, value) :: rest =>
    .key :: scalarToken key :: .value :: tokensOf value ++ tokensOfEntries rest

end

/-! ## What is written -/

def entryText (indent : Nat) (entry : Scalar × Value) : List Char :=
  let written := writeKey indent entry.1
  written.text ++ writeValue written.lead indent written.column entry.2

theorem writeEntries_eq (indent : Nat) (entries : List (Scalar × Value)) :
    writeEntries indent entries = entries.map fun entry => (entry.1, entryText indent entry) := by
  induction entries with
  | nil => rfl
  | cons entry rest ih => rw [writeEntries, ih]; rfl

theorem sortEntries_of_texts {α : Type} {entries : List (Scalar × α)}
    (texts : entries.all (isText ·.1) = true) :
    sortEntries entries = entries.mergeSort fun a b => !comesBefore b.1 a.1 := by
  have numbers : entries.any (·.1 == .real .notANumber) = false := by
    rw [List.any_eq_false]
    intro entry member same
    have isText := List.all_eq_true.mp texts entry member
    rw [beq_iff_eq.mp same] at isText
    cases isText
  simp [sortEntries, numbers, texts]

/-- Entries with text keys are sorted in the same way whatever is under the keys. -/
theorem sortEntries_map {α β : Type} {entries : List (Scalar × α)}
    (texts : entries.all (isText ·.1) = true) (change : Scalar × α → β) :
    sortEntries (entries.map fun entry => (entry.1, change entry)) =
      (sortEntries entries).map fun entry => (entry.1, change entry) := by
  have changed : (entries.map fun entry => (entry.1, change entry)).all (isText ·.1) = true := by
    rw [List.all_map]
    exact texts
  rw [sortEntries_of_texts texts, sortEntries_of_texts changed]
  exact (List.map_mergeSort (f := fun entry : Scalar × α => (entry.1, change entry))
    fun _ _ _ _ => rfl).symm

theorem joinEntries_eq (first : List Char) (indent : Nat) {entries : List (Scalar × Value)}
    (sorted : sortEntries entries = entries) (texts : entries.all (isText ·.1) = true) :
    joinEntries first indent (writeEntries indent entries) =
      first ++ List.intercalate (newLine indent) (entries.map (entryText indent)) := by
  rw [joinEntries, writeEntries_eq, sortEntries_map texts, sorted, List.map_map]
  rfl

theorem entryText_starts {indent : Nat} {entry : Scalar × Value} (fits : Fits (indent + 2) entry.1)
    (tail : List Char) :
    Starts (entryText indent entry ++ tail) ∧ startsMarker (entryText indent entry ++ tail) = false := by
  unfold entryText writeKey
  split
  · have spelled := spelled_writtenScalar true (indent + 2) indent fits.inLine fits.once
    simp only [List.append_assoc]
    apply spelled.starts
    rintro _ ⟨⟩
    decide
  · simp only [List.append_assoc, List.cons_append]
    exact ⟨by rintro _ ⟨⟩; decide, startsMarker_of_ne (by decide) (by decide) _⟩

/-! ## Signs -/

namespace Scan

variable {scan : Scan} {rest : List Char}

theorem takeToken_colon (blank : startsBlank rest = true) :
    scan.takeToken ':' rest = scan.takeValue := by
  have unmarked : startsMarker (':' :: rest) = false :=
    startsMarker_of_ne (by decide) (by decide) rest
  unfold takeToken
  rw [unmarked]
  simp [blank]

theorem takeToken_question (blank : startsBlank rest = true) :
    scan.takeToken '?' rest = scan.takeKey := by
  have unmarked : startsMarker ('?' :: rest) = false :=
    startsMarker_of_ne (by decide) (by decide) rest
  unfold takeToken
  rw [unmarked]
  simp [blank]

theorem takeToken_openBrace : scan.takeToken '\x7b' rest = scan.openFlow .flowMappingStart := by
  have unmarked : startsMarker ('\x7b' :: rest) = false :=
    startsMarker_of_ne (by decide) (by decide) rest
  unfold takeToken
  rw [unmarked]
  simp

theorem takeToken_closeBrace : scan.takeToken '\x7d' rest = scan.closeFlow .flowMappingEnd := by
  have unmarked : startsMarker ('\x7d' :: rest) = false :=
    startsMarker_of_ne (by decide) (by decide) rest
  unfold takeToken
  rw [unmarked]
  simp

/-! ## Between entries -/

/-- A scan at the start of a line, before what is at `column` and belongs to a block at `level` or
further out. With the blocks closed that are further in, the columns of the open ones are `indents`,
and the tokens so far are `found`. -/
structure Between (scan : Scan) (rest : List Char) (column level : Nat) (indents : List Nat)
    (found : List Token) : Prop where
  rest : scan.rest = rest
  column : scan.place.column = column
  block : scan.flow = 0
  allowed : scan.keyAllowed = true
  idle : scan.Idle
  indents : (scan.closedTo level).indents = indents
  found : (scan.closedTo level).found = found

/-- A scan before a token, with no key that may still be found. -/
def fresh (place : Place) (rest : List Char) (indents : List Nat) (found : List Token)
    (keyAllowed : Bool) : Scan :=
  { rest, place, found, indents, keyAllowed }

variable {column level indent : Nat} {indents outer : List Nat} {found : List Token}

/-- The block that is furthest in is closed by what comes further out. -/
theorem Between.lower (between : scan.Between rest column level (level :: outer) found)
    (inner : indent < level) (stays : ∀ level ∈ outer.head?, level ≤ indent) :
    scan.Between rest column indent outer (.blockEnd :: found) := by
  have block : (scan.closedTo level).flow = 0 := by simpa using between.block
  have closed : scan.closedTo indent =
      { scan.closedTo level with indents := outer, found := .blockEnd :: found } := by
    rw [← closedTo_closedTo (Nat.le_of_lt inner), closedTo_of_lt block between.indents inner,
      closedTo_of_le stays, between.found]
  exact { between with
    indents := by rw [closed]
    found := by rw [closed] }

/-- Where an entry begins, nothing matters of what has been left open. -/
theorem Between.cleared_eq (between : scan.Between rest column column indents found) :
    scan.cleared = fresh scan.place rest indents found true := by
  rw [cleared, between.column, closedTo_forget]
  simp only [fresh, closedTo_rest, closedTo_place, closedTo_flow, closedTo_keyAllowed, between.rest,
    between.block, between.allowed, between.indents, between.found]

theorem Between.act (between : scan.Between rest column column indents found) {c : Char}
    {more : List Char} (starts : rest = c :: more) (stays : ∀ indent ∈ indents.head?, indent ≤ column) :
    scan.act = (fresh scan.place rest indents found true).act := by
  rw [between.idle.act (between.rest.trans starts),
    (idle_of_fresh rfl).act starts,
    between.cleared_eq, cleared_eq_self rfl (by simpa [fresh, between.column] using stays)]

theorem between_fresh {place : Place} (here : place.column = column)
    (stays : ∀ indent ∈ indents.head?, indent ≤ level) :
    (fresh place rest indents found true).Between rest column level indents found := by
  have closed : (fresh place rest indents found true).closedTo level =
      fresh place rest indents found true := closedTo_of_le stays
  exact {
    rest := rfl, column := here, block := rfl, allowed := rfl, idle := idle_of_fresh rfl
    indents := congrArg Scan.indents closed, found := congrArg Scan.found closed }

/-- A scan comes to another one by a step at least. -/
def Proceeds (scan last : Scan) : Prop :=
  ∃ next, scan.act = .ok next ∧ next.rest.length < scan.rest.length ∧ Reaches next.settle last

/-- Where an entry begins, the scan goes on as if nothing had been left open. -/
theorem Between.proceeds (between : scan.Between rest column column indents found) {c : Char}
    {more : List Char} (starts : rest = c :: more) (stays : ∀ indent ∈ indents.head?, indent ≤ column)
    {last : Scan} (proceeds : Proceeds (fresh scan.place rest indents found true) last) :
    Reaches scan last := by
  obtain ⟨next, acts, shorter, reaches⟩ := proceeds
  refine .step ((between.act starts stays).trans acts) ?_ reaches
  rw [between.rest]
  exact shorter

/-! ## Keys -/

/-- What is put before the key of an entry: nothing unless its mapping begins there. -/
def opening (opens : Bool) : List Token := if opens then [.mappingStart] else []

/-- The open blocks before an entry of a mapping at `indent`, inside of `outer`. -/
def openBefore (opens : Bool) (indent : Nat) (outer : List Nat) : List Nat :=
  if opens then outer else indent :: outer

variable {opens : Bool} {key : Scalar} {value : Value} {tail more : List Char} {place : Place}

theorem opensBlock_eq (stays : ∀ level ∈ outer.head?, level < indent)
    (blocks : scan.indents = openBefore opens indent outer) : scan.opensBlock indent = opens := by
  rw [opensBlock, blocks]
  cases opens with
  | false => simp [openBefore]
  | true =>
    cases outer with
    | nil => rfl
    | cons level outer => simpa [openBefore] using stays level rfl

theorem head?_openBefore_le (stays : ∀ level ∈ outer.head?, level < indent) :
    ∀ level ∈ (openBefore opens indent outer).head?, level ≤ indent := by
  cases opens with
  | false => simp [openBefore]
  | true => exact fun level member => Nat.le_of_lt (stays level member)

theorem least_fresh_le {blocks : List Nat} (stays : ∀ level ∈ blocks.head?, level ≤ indent) :
    (fresh place rest blocks found true).least ≤ indent + 1 := by
  cases blocks with
  | nil => simp [least, fresh]
  | cons level outer => simpa [least, fresh] using stays level rfl

theorem skip_one {c : Char} (ahead : scan.rest = c :: tail) (written : IsWritten c) :
    scan.skip 1 = { scan with rest := tail, place := scan.place.past [c] } := by
  rw [skip, ahead, List.drop_succ_cons, List.drop_zero]
  exact moveTo_append ahead (by simpa using written)

private theorem act_colon (key : PossibleKey) {token : Token} (block : scan.flow = 0)
    (ahead : scan.rest = ':' :: tail) (blank : startsBlank tail = true)
    (noted : scan.keys = [(0, key)]) (line : key.place.line = scan.place.line)
    (near : scan.place.index - key.place.index ≤ 1024)
    (stays : ∀ level ∈ scan.indents.head?, level ≤ scan.place.column)
    (last : scan.found = token :: found) (number : key.number = found.length)
    (opensIt : scan.opensBlock key.place.column = opens) :
    scan.act =
      .ok (fresh (scan.place.past [':']) tail
        (if opens then key.place.column :: scan.indents else scan.indents)
        (.value :: token :: .key :: opening opens ++ found) false) := by
  have reached : scan.isStale (0, key) = false := by
    simp [isStale, line]
    omega
  have kept : scan.dropStaleKeys = .ok scan := by
    simp only [dropStaleKeys, noted, List.any_cons, List.any_nil, reached, List.filter_cons,
      List.filter_nil, Bool.false_and, Bool.or_false, Bool.false_eq_true, ↓reduceIte, Bool.not_false]
    rw [← noted]
  have closed : scan.closeBlocks (· ≤ scan.place.column) = scan := closedTo_of_le stays
  have acts : scan.act = scan.takeToken ':' tail := by
    rw [act, kept]
    change (scan.closeBlocks (· ≤ scan.place.column)).advance = _
    rw [closed, advance, ahead]
  rw [acts, takeToken_colon blank, takeValue]
  obtain ⟨scanRest, scanPlace, scanFound, scanIndents, scanFlow, scanAllowed, scanKeys⟩ := scan
  simp only at ahead last noted block
  subst ahead last noted block
  have first : (token :: found).insertIdx ((token :: found).length - key.number) .key =
      token :: .key :: found := by
    simp [number]
  have second : (token :: .key :: found).insertIdx ((token :: .key :: found).length - key.number)
      .mappingStart = token :: .key :: .mappingStart :: found := by
    have length : (token :: .key :: found).length - key.number = 2 := by
      simp only [List.length_cons, number]
      omega
    rw [length]
    rfl
  rw [opensBlock] at opensIt
  have unnoted : [(0, key)].filter (·.1 != 0) = [] := rfl
  cases opens with
  | true =>
    simp only [insert, List.lookup_cons_self, first, second, opensBlock, opensIt, unnoted, beq_self_eq_true,
      Bool.and_self, ↓reduceIte]
    exact congrArg Except.ok (skip_one rfl (.inl (by decide)))
  | false =>
    simp only [insert, List.lookup_cons_self, first, opensBlock, opensIt, unnoted, Bool.and_false,
      Bool.false_eq_true, ↓reduceIte]
    exact congrArg Except.ok (skip_one rfl (.inl (by decide)))

theorem proceeds_simple_key (opens : Bool) (found : List Token)
    (stays : ∀ level ∈ outer.head?, level < indent) (here : place.column = indent)
    (fits : Fits (indent + 2) key) (short : (writtenScalar true (indent + 2) indent key).length ≤ 1024)
    (inLine : '\n' ∉ writtenScalar true (indent + 2) indent key) (blank : startsBlank tail = true) :
    Proceeds
      (fresh place (writtenScalar true (indent + 2) indent key ++ ':' :: tail)
        (openBefore opens indent outer) found true)
      (fresh (place.past (writtenScalar true (indent + 2) indent key ++ [':'])) tail (indent :: outer)
        (.value :: scalarToken key :: .key :: opening opens ++ found) false).settle := by
  subst here
  have spelled := spelled_writtenScalar true (place.column + 2) place.column fits.inLine fits.once
  generalize writtenScalar true (place.column + 2) place.column key = written at *
  have inner : ∀ level ∈ (openBefore opens place.column outer).head?, level ≤ place.column :=
    head?_openBefore_le stays
  have follows : Follows (fresh place (written ++ ':' :: tail) (openBefore opens place.column outer)
      found true).least (':' :: tail) [] (':' :: tail) false := .colon blank
  obtain ⟨next, acts, shorter, settles⟩ := act_spelled _
    rfl rfl inner spelled rfl (by omega) (Nat.le_trans (least_fresh_le inner) (by omega)) follows
  refine ⟨next, acts, shorter, ?_⟩
  rw [settles, String.ofList_toList, Place.past_append]
  have opened : (if opens then place.column :: openBefore opens place.column outer
      else openBefore opens place.column outer) = place.column :: outer := by
    cases opens with
    | true => rfl
    | false => rfl
  have along : place.past written =
      ⟨place.index + written.length, place.line, place.column + written.length⟩ :=
    Place.past_of_inLine inLine
  refine .step ?_ ?_ .refl
  · rw [← opened]
    refine act_colon ⟨found.length, _, place⟩ rfl rfl blank rfl ?_ ?_ ?_ rfl rfl
      (opensBlock_eq stays rfl)
    · change place.line = (place.past written).line
      rw [along]
    · change (place.past written).index - place.index ≤ 1024
      simpa [along] using short
    · intro level member
      have here : level ≤ place.column := inner level member
      change level ≤ (place.past written).column
      simp only [along]
      omega
  · exact Nat.lt_succ_self _

theorem openBlock_fresh (stays : ∀ level ∈ outer.head?, level < indent) :
    (fresh place rest (openBefore opens indent outer) found true).openBlock indent .mappingStart =
      fresh place rest (indent :: outer) (opening opens ++ found) true := by
  rw [openBlock, opensBlock_eq stays rfl]
  cases opens with
  | true => rfl
  | false => rfl

/-- The sign of an entry, where it begins a line. -/
private theorem takeKey_fresh (stays : ∀ level ∈ outer.head?, level < place.column) :
    (fresh place ('?' :: tail) (openBefore opens place.column outer) found true).takeKey =
      .ok (fresh (place.past ['?']) tail (place.column :: outer) (.key :: opening opens ++ found)
        true) := by
  have opened : (fresh place ('?' :: tail) (openBefore opens place.column outer) found true).openBlock
      place.column .mappingStart =
      fresh place ('?' :: tail) (place.column :: outer) (opening opens ++ found) true :=
    openBlock_fresh stays
  rw [takeKey]
  simp only [fresh] at opened ⊢
  simp only [opened]
  exact congrArg Except.ok (skip_one rfl (.inl (by decide)))

private theorem takeValue_fresh (place : Place) (tail : List Char) (outer : List Nat)
    (found : List Token) :
    (fresh place (':' :: tail) (place.column :: outer) found true).takeValue =
      .ok (fresh (place.past [':']) tail (place.column :: outer) (.value :: found) true) := by
  have opened : ({ rest := ':' :: tail, place, found, indents := place.column :: outer } : Scan).openBlock
      place.column .mappingStart =
      { rest := ':' :: tail, place, found, indents := place.column :: outer } := by
    simp [openBlock, opensBlock]
  rw [takeValue]
  simp only [fresh, List.lookup_nil, opened]
  exact congrArg Except.ok (skip_one rfl (.inl (by decide)))

theorem reaches_scalar (outer : List Nat) (found : List Token) (allowed : Bool)
    {text written : List Char} {plain : Bool} {next : Nat}
    (spelled : Spelled (indent + 2) text plain written) (inside : indent < place.column)
    (further : next ≤ indent) (starts : Starts more)
    (unmarked : next = 0 → startsMarker more = false) :
    ∃ last, Reaches
        (fresh place (written ++ (newLine next ++ more)) (indent :: outer) found allowed) last ∧
      last.Between more next indent (indent :: outer)
        (.scalar plain (String.ofList text) :: found) := by
  have follows : Follows (indent + 1) (newLine next ++ more) (newLine next) more true :=
    .line (Nat.lt_succ_of_le further) starts unmarked
  have stays (level : Nat) (member : level ∈ some indent) : level ≤ place.column := by
    obtain rfl := Option.some.inj member
    exact Nat.le_of_lt inside
  obtain ⟨scan, acts, shorter, settles⟩ := act_spelled
    (fresh place (written ++ (newLine next ++ more)) (indent :: outer) found allowed) rfl rfl
    stays spelled rfl (by omega) (Nat.le_succ _) follows
  refine ⟨scan.settle, .single acts shorter, ?_⟩
  rw [settles]
  let last := (fresh place (written ++ (newLine next ++ more)) (indent :: outer) found allowed).behind
    (.scalar plain (String.ofList text)) written (newLine next) more true
  have closed : last.closedTo indent = last := closedTo_of_le (by simp [last, behind, fresh])
  exact {
    rest := rfl
    column := by simp [behind, Place.past_newLine]
    block := rfl
    allowed := rfl
    idle := by
      have apart : indent ≠ place.column := Nat.ne_of_lt inside
      have later := Place.line_le_past place written
      cases allowed with
      | false => simp [Idle, behind, fresh, possibleKeys]
      | true =>
        simp only [Idle, behind, fresh, possibleKeys, isStale, Place.past_newLine]
        simp [apart]
        omega
    indents := congrArg Scan.indents closed
    found := congrArg Scan.found closed }

theorem proceeds_complex_key (stays : ∀ level ∈ outer.head?, level < indent)
    (here : place.column = indent) (fits : Fits (indent + 2) key) (blank : startsBlank tail = true) :
    ∃ last, last.column = indent + 1 ∧ Proceeds
      (fresh place ('?' :: ' ' :: (writtenScalar false (indent + 2) (indent + 2) key ++
        (newLine indent ++ ':' :: tail))) (openBefore opens indent outer) found true)
      (fresh last tail (indent :: outer)
        (.value :: scalarToken key :: .key :: opening opens ++ found) true).settle := by
  subst here
  have spelled := spelled_writtenScalar false (place.column + 2) (place.column + 2) fits.inLine fits.once
  generalize writtenScalar false (place.column + 2) (place.column + 2) key = written at *
  have colon : Starts (':' :: tail) := by
    rintro _ ⟨⟩
    decide
  let ahead := written ++ (newLine place.column ++ ':' :: tail)
  let opened := fresh (place.past ['?']) (' ' :: ahead) (place.column :: outer)
    (.key :: opening opens ++ found) true
  have begins : (fresh place ('?' :: ' ' :: ahead) (openBefore opens place.column outer) found true).act =
      .ok opened := by
    rw [(idle_of_fresh rfl).act rfl, cleared_eq_self rfl (head?_openBefore_le stays),
      takeToken_question rfl]
    exact takeKey_fresh stays
  have starts : Starts ahead := (spelled.starts (by rintro _ ⟨⟩; decide)).1
  have settled : opened.settle = fresh ((place.past ['?']).past (List.replicate 1 ' ')) ahead
      (place.column :: outer) (.key :: opening opens ++ found) true :=
    settle_spaces starts 1 rfl
  have inside : place.column < ((place.past ['?']).past (List.replicate 1 ' ')).column := by
    have column : ((place.past ['?']).past (List.replicate 1 ' ')).column = place.column + 1 + 1 := rfl
    omega
  obtain ⟨last, reaches, between⟩ := reaches_scalar outer
    (.key :: opening opens ++ found) true spelled inside (Nat.le_refl _) colon
    fun _ => startsMarker_of_ne (by decide) (by decide) tail
  rw [String.ofList_toList] at between
  have ends : last.act = .ok (fresh (last.place.past [':']) tail (place.column :: outer)
      (.value :: scalarToken key :: .key :: opening opens ++ found) true) := by
    rw [between.act rfl (by simp), (idle_of_fresh rfl).act rfl,
      cleared_eq_self rfl (by simp [fresh, between.column]), takeToken_colon blank]
    have taken := takeValue_fresh last.place tail outer
      (scalarToken key :: .key :: opening opens ++ found)
    rw [between.column] at taken
    exact taken
  refine ⟨last.place.past [':'], by simp [Place.past, Place.next, between.column], ?_⟩
  refine ⟨opened, begins, Nat.lt_succ_self _, ?_⟩
  rw [settled]
  exact reaches.trans (.single ends (by simp [between.rest, fresh]))

theorem proceeds_key (stays : ∀ level ∈ outer.head?, level < indent) (here : place.column = indent)
    (fits : Fits (indent + 2) key) (findable : IsFound key) (blank : startsBlank tail = true) :
    ∃ last, last.column = (writeKey indent key).column ∧ Proceeds
      (fresh place ((writeKey indent key).text ++ tail) (openBefore opens indent outer) found true)
      (fresh last tail (indent :: outer) (.value :: scalarToken key :: .key :: opening opens ++ found)
        ((writeKey indent key).lead == .sign)).settle := by
  unfold writeKey
  split
  · rename_i simpleKey
    have same : writtenScalar true (indent + 2) indent key = writtenScalar true 0 0 key := by
      rw [writtenScalar_key fits.inLine, writtenScalar_key fits.inLine]
    have inLine : '\n' ∉ writtenScalar true (indent + 2) indent key := by
      rw [writtenScalar_key fits.inLine]
      exact inLine_oneLine _ fits.inLine
    have short : (writtenScalar true (indent + 2) indent key).length ≤ 1024 :=
      same ▸ findable simpleKey
    have proceeds := proceeds_simple_key opens found stays here fits short inLine blank
    have unsigned : (Lead.key == Lead.sign) = false := rfl
    refine ⟨_, ?_, by simpa [unsigned] using proceeds⟩
    rw [Place.past_append, Place.past_of_inLine inLine]
    simp [Place.past, Place.next, here]
  · obtain ⟨last, column, proceeds⟩ := proceeds_complex_key stays here
      fits blank
    exact ⟨last, column, by simpa using proceeds⟩

/-! ## Values -/

private theorem inside_past_space (inside : indent < place.column) :
    indent < (place.past (List.replicate 1 ' ')).column := by
  have column : (place.past (List.replicate 1 ' ')).column = place.column + 1 := rfl
  omega

private theorem startsAt_entries {entries : List (Scalar × Value)} (present : entries ≠ [])
    (keys : ∀ entry ∈ entries, Fits (indent + 2) entry.1) (tail : List Char) :
    Starts (List.intercalate (newLine indent) (entries.map (entryText indent)) ++ tail) ∧
      startsMarker (List.intercalate (newLine indent) (entries.map (entryText indent)) ++ tail) =
        false := by
  obtain ⟨entry, rest, rfl⟩ := List.exists_cons_of_ne_nil present
  have starts := entryText_starts (keys entry (by simp))
  cases rest with
  | nil => simpa using starts tail
  | cons second others =>
    rw [List.map_cons, List.map_cons, List.intercalate_cons_cons, List.append_assoc, List.append_assoc]
    exact starts _

/-- An empty mapping at the end of its line. -/
private theorem reaches_braces {allowed : Bool} {next : Nat} (inside : indent < place.column)
    (starts : Starts more) :
    ∃ last, Reaches
        (fresh place ('\x7b' :: '\x7d' :: (newLine next ++ more)) (indent :: outer) found allowed)
        last ∧
      last.Between more next indent (indent :: outer) (.flowMappingEnd :: .flowMappingStart :: found) := by
  have apart : indent ≠ place.column := Nat.ne_of_lt inside
  have stays (level : Nat) (member : level ∈ some indent) : level ≤ place.column := by
    obtain rfl := Option.some.inj member
    exact Nat.le_of_lt inside
  let before := fresh place ('\x7b' :: '\x7d' :: (newLine next ++ more)) (indent :: outer) found allowed
  let inFlow : Scan :=
    { rest := '\x7d' :: (newLine next ++ more), place := place.past ['\x7b']
      found := .flowMappingStart :: found, indents := indent :: outer, flow := 1, keyAllowed := true
      keys := before.possibleKeys }
  let behind : Scan :=
    { rest := newLine next ++ more, place := (place.past ['\x7b']).past ['\x7d']
      found := .flowMappingEnd :: .flowMappingStart :: found, indents := indent :: outer
      keyAllowed := false, keys := before.possibleKeys }
  have opens : before.act = .ok inFlow := by
    have cleared : before.cleared = before := cleared_eq_self rfl stays
    rw [(idle_of_fresh rfl).act rfl, cleared,
      takeToken_openBrace, openFlow, noteKey_eq rfl]
    exact congrArg Except.ok (skip_one rfl (.inl (by decide)))
  have kept : inFlow.dropStaleKeys = .ok inFlow := by
    cases allowed with
    | false => rfl
    | true => simp [dropStaleKeys, inFlow, before, possibleKeys, fresh, isStale, Place.past, Place.next]
  have closes : inFlow.act = .ok behind := by
    rw [act, kept]
    change inFlow.takeToken '\x7d' (newLine next ++ more) = _
    rw [takeToken_closeBrace, closeFlow]
    have dropped : inFlow.dropKey = .ok inFlow := by
      cases allowed with
      | false => rfl
      | true => rfl
    rw [dropped]
    exact congrArg Except.ok (skip_one rfl (.inl (by decide)))
  have apartFlow : Starts inFlow.rest := by
    rintro _ ⟨⟩
    decide
  have settled := @settle_newLine behind more starts next rfl rfl
  refine ⟨behind.settle, .step opens (Nat.lt_succ_self _) ?_, ?_⟩
  · rw [settle_eq_self apartFlow]
    exact .single closes (Nat.lt_succ_self _)
  rw [settled]
  have closed : { behind with
      rest := more, place := behind.place.past (newLine next), keyAllowed := true }.closedTo indent =
      { behind with rest := more, place := behind.place.past (newLine next), keyAllowed := true } :=
    closedTo_of_le (by simp [behind])
  exact {
    rest := rfl
    column := by simp [Place.past_newLine]
    block := rfl
    allowed := rfl
    idle := by
      cases allowed with
      | false => simp [Idle, behind, before, fresh, possibleKeys]
      | true =>
        have line : place.line ≠ (behind.place.past (newLine next)).line := by
          rw [Place.past_newLine]
          exact Nat.ne_of_lt (Nat.lt_succ_self _)
        simp only [Idle, isStale]
        simp [behind, before, fresh, possibleKeys, apart] at line ⊢
        exact .inl line
    indents := congrArg Scan.indents closed
    found := congrArg Scan.found closed }

/-- What comes of a value that was written at `indent`. -/
def IsFoundAt (indent : Nat) (value : Value) : Prop :=
  ∀ ⦃lead : Lead⦄ ⦃place : Place⦄ ⦃outer : List Nat⦄ ⦃found : List Token⦄ ⦃next : Nat⦄
    ⦃more : List Char⦄, indent < place.column → (lead = .sign → place.column = indent + 1) →
    next ≤ indent → Starts more → (next = 0 → startsMarker more = false) →
    ∃ last, Reaches
        (fresh place (writeValue lead indent place.column value ++ (newLine next ++ more))
          (indent :: outer) found (lead == .sign)).settle last ∧
      last.Between more next indent (indent :: outer) ((tokensOf value).reverse ++ found)

theorem startsBlank_writeValue {level : Nat} (lead : Lead) (column : Nat) {value : Value}
    (writable : Writable level value) (tail : List Char) :
    startsBlank (writeValue lead indent column value ++ tail) = true := by
  cases writable with
  | scalar => rfl
  | @mapping _ entries =>
    rw [writeValue]
    split
    · rfl
    · cases lead with
      | key => rfl
      | sign => rfl

private theorem column_writeKey (indent : Nat) (key : Scalar) :
    indent < (writeKey indent key).column ∧
      ((writeKey indent key).lead = .sign → (writeKey indent key).column = indent + 1) := by
  unfold writeKey
  split
  · exact ⟨by simp only; omega, by rintro ⟨⟩⟩
  · exact ⟨Nat.lt_succ_self _, fun _ => rfl⟩

private theorem reaches_entry {entry : Scalar × Value} {next level : Nat}
    (stays : ∀ level ∈ outer.head?, level < indent) (fits : Fits (indent + 2) entry.1)
    (findable : IsFound entry.1) (writable : Writable level entry.2) (each : IsFoundAt indent entry.2)
    (further : next ≤ indent) (starts : Starts more) (unmarked : next = 0 → startsMarker more = false)
    (between : scan.Between (entryText indent entry ++ (newLine next ++ more)) indent indent
      (openBefore opens indent outer) found) :
    ∃ last, Reaches scan last ∧ last.Between more next indent (indent :: outer)
      ((tokensOf entry.2).reverse ++
        (.value :: scalarToken entry.1 :: .key :: opening opens ++ found)) := by
  obtain ⟨inside, asSign⟩ := column_writeKey indent entry.1
  rw [entryText, List.append_assoc] at between
  generalize ahead : writeValue (writeKey indent entry.1).lead indent (writeKey indent entry.1).column
    entry.2 ++ (newLine next ++ more) = tail at between
  have blank : startsBlank tail = true := ahead ▸ startsBlank_writeValue _ _ writable _
  obtain ⟨place, column, proceeds⟩ := proceeds_key stays between.column
    fits findable blank
  obtain ⟨c, others, begins⟩ : ∃ c others, (writeKey indent entry.1).text ++ tail = c :: others := by
    refine List.exists_cons_of_ne_nil ?_
    unfold writeKey
    split
    · simp
    · simp
  have toValue := between.proceeds begins (head?_openBefore_le stays) proceeds
  rw [← column] at inside asSign ahead
  obtain ⟨last, reaches, after⟩ := each
    inside asSign further starts
    unmarked
  rw [ahead] at reaches
  exact ⟨last, toValue.trans reaches, after⟩

private theorem reaches_entries (outer : List Nat) {entries : List (Scalar × Value)}
    (present : entries ≠ [])
    (stays : ∀ level ∈ outer.head?, level < indent)
    (keys : ∀ entry ∈ entries, Fits (indent + 2) entry.1 ∧ IsFound entry.1)
    (values : ∀ entry ∈ entries, ∃ level, Writable level entry.2)
    (each : ∀ entry ∈ entries, IsFoundAt indent entry.2) {next : Nat} (further : next ≤ indent)
    (starts : Starts more) (unmarked : next = 0 → startsMarker more = false) (opens : Bool)
    (between : scan.Between
      (List.intercalate (newLine indent) (entries.map (entryText indent)) ++ (newLine next ++ more))
      indent indent (openBefore opens indent outer) found) :
    ∃ last, Reaches scan last ∧ last.Between more next indent (indent :: outer)
      ((tokensOfEntries entries).reverse ++ (opening opens ++ found)) := by
  induction entries generalizing scan found opens with
  | nil => exact absurd rfl present
  | cons entry rest ih =>
    obtain ⟨fits, findable⟩ := keys entry (by simp)
    obtain ⟨level, writable⟩ := values entry (by simp)
    have one := each entry (by simp)
    cases rest with
    | nil =>
      rw [List.map_cons, List.map_nil, List.intercalate_singleton] at between
      obtain ⟨last, reaches, after⟩ := reaches_entry stays fits findable writable one further starts
        unmarked between
      exact ⟨last, reaches, by simpa [tokensOfEntries] using after⟩
    | cons second others =>
      have begins := startsAt_entries (by simp)
        (fun entry member => (keys entry (List.mem_cons_of_mem _ member)).1) (newLine next ++ more)
      rw [List.map_cons, List.map_cons, List.intercalate_cons_cons, List.append_assoc, List.append_assoc]
        at between
      obtain ⟨middle, toMiddle, behind⟩ := reaches_entry stays fits findable writable one (Nat.le_refl _)
        begins.1 (fun _ => begins.2) between
      obtain ⟨last, reaches, after⟩ := ih (by simp)
        (fun entry member => keys entry (List.mem_cons_of_mem _ member))
        (fun entry member => values entry (List.mem_cons_of_mem _ member))
        (fun entry member => each entry (List.mem_cons_of_mem _ member)) false behind
      refine ⟨last, toMiddle.trans reaches, ?_⟩
      rw [tokensOfEntries]
      simpa [opening] using after

private theorem isFoundAt_scalar {scalar : Scalar} (fits : Fits (indent + 2) scalar) :
    IsFoundAt indent (.scalar scalar) := by
  intro lead place outer found next more inside _ further starts unmarked
  have spelled := spelled_writtenScalar false (indent + 2) (place.column + 1) fits.inLine fits.once
  have begins : Starts (writtenScalar false (indent + 2) (place.column + 1) scalar ++
      (newLine next ++ more)) := (spelled.starts (by rintro _ ⟨⟩; decide)).1
  have settled : (fresh place (writeValue lead indent place.column (.scalar scalar) ++
      (newLine next ++ more)) (indent :: outer) found (lead == .sign)).settle =
      fresh (place.past (List.replicate 1 ' ')) (writtenScalar false (indent + 2) (place.column + 1) scalar ++
      (newLine next ++ more)) (indent :: outer) found (lead == .sign) :=
    settle_spaces begins 1 rfl
  rw [settled]
  have reached := reaches_scalar outer found (lead == .sign) spelled
    (inside_past_space inside) further starts unmarked
  rw [String.ofList_toList] at reached
  exact reached

private theorem isFoundAt_braces : IsFoundAt indent (.mapping []) := by
  intro lead place outer found next more inside _ _ starts _
  have braces : Starts ('\x7b' :: '\x7d' :: (newLine next ++ more)) := by
    rintro _ ⟨⟩
    decide
  have settled : (fresh place (writeValue lead indent place.column (.mapping []) ++
      (newLine next ++ more)) (indent :: outer) found (lead == .sign)).settle =
      fresh (place.past (List.replicate 1 ' ')) ('\x7b' :: '\x7d' :: (newLine next ++ more))
        (indent :: outer) found (lead == .sign) :=
    settle_spaces braces 1 rfl
  rw [settled]
  exact reaches_braces (inside_past_space inside) starts

/-- What stands between a sign and the entries behind it leads to where the entries are written. -/
private theorem exists_settle_first {lead : Lead} {text : List Char} (begins : Starts text)
    (column : lead = .sign → place.column = indent + 1) (outer : List Nat) (found : List Token) :
    ∃ start : Place, start.column = indent + 2 ∧
      (fresh place (lead.first (indent + 2) ++ text) (indent :: outer) found
        (lead == .sign)).settle = fresh start text (indent :: outer) found true := by
  cases lead with
  | key => exact ⟨_, by rw [Place.past_newLine], settle_newLine begins rfl rfl⟩
  | sign =>
    refine ⟨_, ?_, settle_spaces begins 1 rfl⟩
    simp [fresh, Place.past, Place.next, column rfl]

private theorem isFoundAt_mapping {entries : List (Scalar × Value)} (present : entries ≠ [])
    (sorted : sortEntries entries = entries) (texts : entries.all (isText ·.1) = true)
    (keys : ∀ entry ∈ entries, Fits (indent + 2 + 2) entry.1 ∧ IsFound entry.1)
    (values : ∀ entry ∈ entries, ∃ level, Writable level entry.2)
    (each : ∀ entry ∈ entries, IsFoundAt (indent + 2) entry.2) :
    IsFoundAt indent (.mapping entries) := by
  intro lead place outer found next more inside column further starts unmarked
  have written : writeValue lead indent place.column (.mapping entries) =
      lead.first (indent + 2) ++
        List.intercalate (newLine (indent + 2)) (entries.map (entryText (indent + 2))) := by
    rw [writeValue, if_neg (by simpa using present), joinEntries_eq _ _ sorted texts]
  have begins := startsAt_entries present (fun entry member => (keys entry member).1)
    (newLine next ++ more)
  rw [written, List.append_assoc]
  generalize ahead : List.intercalate (newLine (indent + 2)) (entries.map (entryText (indent + 2))) ++
    (newLine next ++ more) = text at begins ⊢
  obtain ⟨start, startColumn, settled⟩ := exists_settle_first begins.1 column outer found
  rw [settled]
  subst ahead
  obtain ⟨last, reaches, after⟩ := reaches_entries (indent :: outer) present
    (by simp) keys values each (by omega) starts unmarked true
    (between_fresh startColumn (by simp [openBefore]))
  refine ⟨last, reaches, ?_⟩
  have tokens : (tokensOf (.mapping entries)).reverse ++ found =
      .blockEnd :: ((tokensOfEntries entries).reverse ++ (opening true ++ found)) := by
    simp [tokensOf, present, opening]
  rw [tokens]
  exact after.lower (by omega) (by simp)

theorem isFoundAt_of_writable {level : Nat} {value : Value} (writable : Writable level value)
    {indent : Nat} (deeper : level = indent + 2) : IsFoundAt indent value := by
  induction writable generalizing indent with
  | scalar fits =>
    subst deeper
    exact isFoundAt_scalar fits
  | @mapping level entries sorted texts keys values ih =>
    subst deeper
    by_cases empty : entries = []
    · subst empty
      exact isFoundAt_braces
    · exact isFoundAt_mapping empty sorted texts keys (fun entry member => ⟨_, values entry member⟩)
        fun entry member => ih entry member rfl

/-! ## Documents -/

private theorem isAllowed_of_isWritten {c : Char} (written : IsWritten c) : isAllowed c = true := by
  rcases written with ordinary | rfl
  · refine IsOrdinary.all (fun c => isAllowed c = true) ?_ ordinary
    decide
  · rfl

private theorem isWritten_newLine (indent : Nat) : ∀ c ∈ newLine indent, IsWritten c :=
  (@Follows.line _ indent [] (Nat.lt_succ_self _) (by simp [Starts]) fun _ => rfl).isWritten_gap

private theorem isWritten_writeKey (fits : Fits (indent + 2) key) :
    ∀ c ∈ (writeKey indent key).text, IsWritten c := by
  have written (asKey : Bool) (column : Nat) :=
    (spelled_writtenScalar asKey (indent + 2) column fits.inLine fits.once).isWritten
  have signs : IsWritten ':' ∧ IsWritten '?' ∧ IsWritten ' ' := by
    refine ⟨.inl ?_, .inl ?_, .inl ?_⟩ <;> decide
  obtain ⟨colon, question, space⟩ := signs
  unfold writeKey
  split
  · exact List.forall_mem_append.mpr ⟨written true indent, by simpa using colon⟩
  · simp only [List.forall_mem_append, List.forall_mem_cons]
    exact ⟨⟨⟨question, space, written false (indent + 2)⟩, isWritten_newLine indent⟩, colon, by simp⟩

private theorem isWritten_intercalate {texts : List (List Char)}
    (written : ∀ text ∈ texts, ∀ c ∈ text, IsWritten c) :
    ∀ c ∈ List.intercalate (newLine indent) texts, IsWritten c := by
  induction texts with
  | nil => simp
  | cons text rest ih =>
    have here := written text (by simp)
    cases rest with
    | nil => simpa using here
    | cons second others =>
      rw [List.intercalate_cons_cons]
      have after := ih fun text member => written text (List.mem_cons_of_mem _ member)
      exact List.forall_mem_append.mpr
        ⟨List.forall_mem_append.mpr ⟨here, isWritten_newLine indent⟩, after⟩

private theorem isWritten_entries {entries : List (Scalar × Value)}
    (keys : ∀ entry ∈ entries, Fits (indent + 2) entry.1)
    (values : ∀ entry ∈ entries, ∀ lead column,
      ∀ c ∈ writeValue lead indent column entry.2, IsWritten c) :
    ∀ c ∈ List.intercalate (newLine indent) (entries.map (entryText indent)), IsWritten c := by
  refine isWritten_intercalate fun text member => ?_
  obtain ⟨entry, among, rfl⟩ := List.mem_map.mp member
  exact List.forall_mem_append.mpr ⟨isWritten_writeKey (keys entry among), values entry among _ _⟩

theorem isWritten_writeValue {level : Nat} {value : Value} (writable : Writable level value)
    {indent : Nat} (deeper : level = indent + 2) (lead : Lead) (column : Nat) :
    ∀ c ∈ writeValue lead indent column value, IsWritten c := by
  have space : IsWritten ' ' := .inl (by decide)
  induction writable generalizing indent lead column with
  | scalar fits =>
    subst deeper
    exact List.forall_mem_cons.mpr
      ⟨space, (spelled_writtenScalar _ _ _ fits.inLine fits.once).isWritten⟩
  | @mapping level entries sorted texts keys values ih =>
    subst deeper
    rw [writeValue]
    split
    · have braces : IsWritten '\x7b' ∧ IsWritten '\x7d' := ⟨.inl (by decide), .inl (by decide)⟩
      simpa using ⟨space, braces⟩
    · have first : ∀ c ∈ lead.first (indent + 2), IsWritten c := by
        cases lead with
        | key => exact isWritten_newLine _
        | sign => simpa [Lead.first] using space
      rw [joinEntries_eq _ _ sorted texts]
      exact List.forall_mem_append.mpr ⟨first, isWritten_entries (fun entry member => (keys entry member).1)
        fun entry member => ih entry member rfl⟩

/-- The end of a document closes its outermost block. -/
private theorem run_end {fuel : Nat} (between : scan.settle.Between [] 0 0 [0] found)
    (enough : 2 ≤ fuel) : run fuel scan = ⟨(.blockEnd :: found).reverse, none⟩ := by
  let closed : Scan :=
    { rest := [], place := scan.settle.place, found := .blockEnd :: found, keyAllowed := false }
  have ends : scan.step = .ok closed := by
    have dropped := between.idle.dropStaleKeys
    have cleared := between.cleared_eq
    rw [Scan.cleared] at cleared
    rw [step_eq, Scan.act, dropped]
    change ({ scan.settle with keys := [] }.closedTo scan.settle.place.column).advance = _
    rw [cleared]
    rfl
  have stays : closed.step = .ok closed := by
    rw [step_eq, settle_eq_self (by simp [Starts, closed])]
    rfl
  obtain ⟨fuel, rfl⟩ : ∃ more, fuel = more + 2 := ⟨fuel - 2, by omega⟩
  rw [run, ends]
  simp only
  split
  · rfl
  · rw [run, stays]
    rfl

private theorem toList_writeDocument {entries : List (Scalar × Value)}
    (sorted : sortEntries entries = entries) (texts : entries.all (isText ·.1) = true) :
    (writeDocument entries).toList =
      List.intercalate (newLine 0) (entries.map (entryText 0)) ++ (newLine 0 ++ []) := by
  rw [writeDocument, String.toList_ofList, joinEntries_eq _ _ sorted texts]
  rfl

theorem isWritten_writeDocument {entries : List (Scalar × Value)}
    (writable : Writable 0 (.mapping entries)) :
    ∀ c ∈ (writeDocument entries).toList, IsWritten c := by
  cases writable with
  | mapping sorted texts keys values =>
    rw [toList_writeDocument sorted texts]
    exact List.forall_mem_append.mpr ⟨isWritten_entries (fun entry member => (keys entry member).1)
      fun entry member => isWritten_writeValue (values entry member) rfl, by simp [newLine, IsWritten]⟩

/-- The tokens of a mapping that is written as a document. -/
theorem ofText_writeDocument {entries : List (Scalar × Value)}
    (writable : Writable 0 (.mapping entries)) (present : entries ≠ []) :
    Tokens.ofText (writeDocument entries).toList = ⟨tokensOf (.mapping entries), none⟩ := by
  have written := isWritten_writeDocument writable
  cases writable with
  | mapping sorted texts keys values =>
    have text := toList_writeDocument sorted texts
    have allowed : (writeDocument entries).toList.all isAllowed = true := by
      rw [List.all_eq_true]
      intro c member
      exact isAllowed_of_isWritten (written c member)
    have begins := startsAt_entries present (fun entry member => (keys entry member).1)
      (newLine 0 ++ [])
    rw [← text] at begins
    generalize document : (writeDocument entries).toList = characters at *
    have unmarked : ∀ c rest, characters = c :: rest → (c == '\ufeff') = false := by
      rintro c rest rfl
      have ordinary := (begins.1 c rfl).1
      refine beq_false_of_ne ?_
      rintro rfl
      exact absurd ordinary (by decide)
    have between : ({ rest := characters } : Scan).Between characters 0 0 (openBefore true 0 []) [] :=
      between_fresh rfl (by simp)
    rw [text] at between
    obtain ⟨last, reaches, ends⟩ := reaches_entries [] present (by simp) keys
      (fun entry member => ⟨_, values entry member⟩)
      (fun entry member => isFoundAt_of_writable (values entry member) rfl) (Nat.le_refl _) (by simp [Starts])
      (fun _ => rfl) true between
    rw [← text] at reaches
    have settled : ({ rest := characters } : Scan).settle = { rest := characters } :=
      settle_eq_self begins.1
    obtain ⟨next, left, settles, enough, same⟩ := reaches.run _ settled (Nat.le_refl _)
    have ran : run (characters.length + 2) { rest := characters } = _ :=
      same.trans (run_end (settles ▸ ends) (by omega))
    have tokens : (.blockEnd :: ((tokensOfEntries entries).reverse ++ (opening true ++ []))).reverse =
        tokensOf (.mapping entries) := by
      simp [tokensOf, present, opening]
    unfold Tokens.ofText
    rw [allowed]
    cases characters with
    | nil => exact ran.trans (congrArg (Tokens.mk · none) tokens)
    | cons c rest =>
      simp only [Bool.not_true, Bool.false_eq_true, ↓reduceIte, unmarked c rest rfl]
      exact ran.trans (congrArg (Tokens.mk · none) tokens)

end Scan

end UnitLift.Yaml
