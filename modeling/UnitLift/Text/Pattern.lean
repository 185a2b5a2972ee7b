/-!
Patterns of texts. Whether a text as a whole is of a pattern is decided symbol by symbol: what is left
of the pattern after a symbol is again a pattern. The symbols are characters, unless something longer
counts as one.
-/

namespace UnitLift.Text

/-- A pattern of texts. -/
inductive Pattern (α : Type) where
  /-- No text at all. -/
  | nothing
  /-- The empty text. -/
  | empty
  /-- A single symbol. -/
  | one (test : α → Bool)
  | sequence (first second : Pattern α)
  | either (left right : Pattern α)
  /-- Any number of texts of a pattern, one after the other. -/
  | many (part : Pattern α)

namespace Pattern

variable {α : Type}

instance : Append (Pattern α) := ⟨sequence⟩

instance : OrOp (Pattern α) := ⟨either⟩

def oneOf (characters : String) : Pattern Char := one (characters.toList.contains ·)

/-- One certain symbol. -/
def character [BEq α] (c : α) : Pattern α := one (· == c)

def word (text : String) : Pattern Char :=
  text.toList.foldr (fun c rest => sequence (character c) rest) empty

def anyWord (texts : List String) : Pattern Char :=
  texts.foldr (fun text rest => either (word text) rest) nothing

/-- A text of a pattern or none. -/
def optional (part : Pattern α) : Pattern α := either empty part

/-- One or more texts of a pattern, one after the other. -/
def some (part : Pattern α) : Pattern α := sequence part (many part)

def acceptsEmpty : Pattern α → Bool
  | nothing => false
  | empty => true
  | one _ => false
  | sequence first second => first.acceptsEmpty && second.acceptsEmpty
  | either left right => left.acceptsEmpty || right.acceptsEmpty
  | many _ => true

/-- A pattern followed by another, without parts that no text can have. -/
def followedBy (first second : Pattern α) : Pattern α :=
  match first with
  | nothing => nothing
  | empty => second
  | first => sequence first second

/-- One of two patterns, without one that no text can be of. -/
def orElse (left right : Pattern α) : Pattern α :=
  match left, right with
  | nothing, right => right
  | left, nothing => left
  | left, right => either left right

/-- What has to follow a symbol for the whole to be of a pattern. -/
def after (c : α) : Pattern α → Pattern α
  | nothing => nothing
  | empty => nothing
  | one test => if test c then empty else nothing
  | sequence first second =>
    let rest := (first.after c).followedBy second
    if first.acceptsEmpty then rest.orElse (second.after c) else rest
  | either left right => (left.after c).orElse (right.after c)
  | many part => (part.after c).followedBy (many part)

def accepts (pattern : Pattern α) : List α → Bool
  | [] => pattern.acceptsEmpty
  | c :: rest => (pattern.after c).accepts rest

def isNothing : Pattern α → Bool
  | nothing => true
  | _ => false

/-- The length of the longest start of a text that is of a pattern. -/
def longest? (pattern : Pattern α) : List α → Option Nat
  | [] => if pattern.acceptsEmpty then Option.some 0 else none
  | c :: rest =>
    let next := pattern.after c
    match if next.isNothing then none else next.longest? rest with
    | Option.some length => Option.some (length + 1)
    | none => if pattern.acceptsEmpty then Option.some 0 else none

@[simp] theorem accepts_nothing (text : List α) : nothing.accepts text = false := by
  induction text with
  | nil => rfl
  | cons c rest ih => simpa [accepts, after] using ih

/-- A text is of one of two patterns exactly if it is of the first or of the second. -/
theorem accepts_either (left right : Pattern α) (text : List α) :
    (either left right).accepts text = (left.accepts text || right.accepts text) := by
  induction text generalizing left right with
  | nil => rfl
  | cons c rest ih =>
    simp only [accepts, after]
    unfold orElse
    split <;> simp_all

/-- Exactly the texts of one symbol that passes the test are of `one test`. -/
theorem accepts_one (test : α → Bool) (text : List α) :
    (one test).accepts text = true ↔ ∃ c, text = [c] ∧ test c = true := by
  match text with
  | [] => simp [accepts, acceptsEmpty]
  | [c] => by_cases passes : test c <;> simp [accepts, after, acceptsEmpty, passes]
  | c :: d :: rest => by_cases passes : test c <;> simp [accepts, after, passes]

end Pattern

end UnitLift.Text
