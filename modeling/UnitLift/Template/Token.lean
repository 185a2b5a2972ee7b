import UnitLift.Text.Pattern
import UnitLift.Text.Quoted

/-!
The tokens of a text with references. What counts as a token depends on where it stands: in the text
itself, in a reference, among the arguments of a function, or in quotes. Of all rules that hold at a
place the one that takes the longest start of the text is applied, and the first of several such.
-/

namespace UnitLift.Template

open UnitLift.Text (Pattern)

inductive Token where
  /-- Text that stands for itself. -/
  | plain (text : String)
  /-- Text in which every second character is left out, as it is an escape. -/
  | escaped (text : String)
  /-- The escape of something that begins a reference. -/
  | escapedStart (text : String)
  /-- Backslashes, half of which count if something follows that they could be an escape for. -/
  | backslashes (text : String)
  | referenceStart
  | referenceEnd
  | dot
  | bracketOpen
  | bracketClose
  | braceOpen
  | braceClose
  | comma
  | colon (text : String)
  /-- A name as functions and settings have. -/
  | name (text : String)
  /-- A key that is no name. -/
  | key (text : String)
  | float (text : String)
  | int (text : String)
  | bool (text : String)
  | null (text : String)
  /-- A sign that stands for itself. -/
  | sign (text : String)
  | blank (text : String)
  | quoteStart
  | quoteEnd
deriving DecidableEq, Repr

inductive Mode where
  | text
  | reference
  | value
  | quoted (quote : Char)
deriving DecidableEq, Repr

/-- What a token changes about where the next one stands. -/
inductive Move where
  | stay
  /-- Something begins inside of what is open. -/
  | enter (mode : Mode)
  /-- What is open goes on in another mode. -/
  | turn (mode : Mode)
  | leave

/-- How a token of a kind looks. -/
structure Rule where
  pattern : Pattern Char
  token : String → Token
  move : Move := .stay

namespace Rule

private def blankPattern : Pattern Char := .oneOf " \t"

private def gap : Pattern Char := .many blankPattern

private def backslash : Pattern Char := .character '\\'

/-- Backslashes of an even number. -/
private def pairs : Pattern Char := .many (backslash ++ backslash)

private def letter : Char → Bool := Char.isAlpha

private def namePattern : Pattern Char :=
  .one (fun c => letter c || c == '_') ++
    .many (.one fun c => letter c || c.isDigit || c == '_' || c == '-')

private def start (gap : Pattern Char) : Rule :=
  ⟨.word "$\x7b" ++ gap, fun _ => .referenceStart, .enter .reference⟩

/-- The rules for text that ends only where `ends` says so. -/
private def textRules (ends : Char → Bool) : List Rule :=
  [start gap,
    ⟨pairs ++ .word "\\$\x7b", .escapedStart, .stay⟩,
    ⟨.some (backslash ++ backslash), .backslashes, .stay⟩,
    ⟨.some backslash, .plain, .stay⟩,
    ⟨.character '$', .plain, .stay⟩,
    ⟨.some (.one fun c => c != '\\' && c != '$' && !ends c), .plain, .stay⟩]

private def quotedRules (quote : Char) : List Rule :=
  [⟨.character quote, fun _ => .quoteEnd, .leave⟩,
    ⟨pairs ++ backslash ++ .character quote, .escaped, .stay⟩] ++ textRules (· == quote)

private def isKeyCharacter (c : Char) : Bool :=
  !"\\\x7b\x7d()[]:. \t".toList.contains c && c != Text.singleQuote && c != Text.doubleQuote

private def referenceRules : List Rule :=
  [start gap,
    ⟨gap ++ .character ':' ++ gap, .colon, .turn .value⟩,
    ⟨gap ++ .character '\x7d', fun _ => .referenceEnd, .leave⟩,
    ⟨.character '.', fun _ => .dot, .stay⟩,
    ⟨.character '[', fun _ => .bracketOpen, .stay⟩,
    ⟨.character ']', fun _ => .bracketClose, .stay⟩,
    ⟨namePattern, .name, .stay⟩,
    ⟨.some (.one isKeyCharacter), .key, .stay⟩]

private def digit : Pattern Char := .one Char.isDigit

private def grouped : Pattern Char := .many (.optional (.character '_') ++ digit)

private def unsigned : Pattern Char :=
  .character '0' ||| (.one (fun c => '1' ≤ c && c ≤ '9') ++ grouped)

private def digits : Pattern Char := digit ++ grouped

private def optionalSign : Pattern Char := .optional (.oneOf "+-")

private def pointed : Pattern Char :=
  (unsigned ++ .character '.') ||| (.optional unsigned ++ .character '.' ++ digits)

private def exponential : Pattern Char :=
  (unsigned ||| pointed) ++ .oneOf "eE" ++ optionalSign ++ digits

/-- A word in letters of either case. -/
private def anyCase (word : String) : Pattern Char :=
  word.toList.foldr (fun c rest => .one (fun d => d.toLower == c) ++ rest) .empty

private def escape : Pattern Char := backslash ++ .oneOf "\\()[]\x7b\x7d:=, \t"

private def valueRules : List Rule :=
  [⟨.character Text.singleQuote, fun _ => .quoteStart, .enter (.quoted Text.singleQuote)⟩,
    ⟨.character Text.doubleQuote, fun _ => .quoteStart, .enter (.quoted Text.doubleQuote)⟩,
    start gap,
    ⟨.character '\x7b' ++ gap, fun _ => .braceOpen, .enter .value⟩,
    ⟨gap ++ .character '\x7d', fun _ => .braceClose, .leave⟩,
    ⟨gap ++ .character ':' ++ gap, .colon, .stay⟩,
    ⟨gap ++ .character ',' ++ gap, fun _ => .comma, .stay⟩,
    ⟨.character '[' ++ gap, fun _ => .bracketOpen, .stay⟩,
    ⟨gap ++ .character ']', fun _ => .bracketClose, .stay⟩,
    ⟨optionalSign ++ (pointed ||| exponential ||| anyCase "inf" ||| anyCase "nan"), .float, .stay⟩,
    ⟨optionalSign ++ unsigned, .int, .stay⟩,
    ⟨anyCase "true" ||| anyCase "false", .bool, .stay⟩,
    ⟨anyCase "null", .null, .stay⟩,
    ⟨.oneOf "/-\\+.$%*@?|", .sign, .stay⟩,
    ⟨namePattern, .name, .stay⟩,
    ⟨.some escape, .escaped, .stay⟩,
    ⟨.some blankPattern, .blank, .stay⟩]

def all : Mode → List Rule
  | .text => textRules fun _ => false
  | .reference => referenceRules
  | .value => valueRules
  | .quoted quote => quotedRules quote

/-- The rule that takes the longest start of a text, with the length of that start. -/
def best? (rules : List Rule) (text : List Char) : Option (Rule × Nat) :=
  rules.foldl (fun best rule =>
    match rule.pattern.longest? text with
    | none => best
    | some length =>
      if length ≤ (best.map (·.2)).getD 0 then best else some (rule, length)) none

end Rule

/-- The modes after a move, the innermost first; something has to be open to be left. -/
def Move.apply : Move → List Mode → Option (List Mode)
  | stay, modes => some modes
  | enter mode, modes => some (mode :: modes)
  | turn mode, modes => some (mode :: modes.drop 1)
  | leave, modes => if modes.length ≤ 1 then none else some (modes.drop 1)

/-- The tokens of a text from a place where `modes` are open, the innermost first. -/
def Token.ofTextFrom : Nat → List Mode → List Char → Option (List Token)
  | _, _, [] => some []
  | 0, _, _ => none
  | _, [], _ => none
  | fuel + 1, mode :: modes, text => do
    let (rule, length) ← Rule.best? (Rule.all mode) text
    let open? ← rule.move.apply (mode :: modes)
    let rest ← Token.ofTextFrom fuel open? (text.drop length)
    return rule.token (String.ofList (text.take length)) :: rest

/-- The tokens of a text that starts in a mode, if it can be split into tokens at all. -/
def Token.ofText? (mode : Mode) (text : List Char) : Option (List Token) :=
  Token.ofTextFrom text.length [mode] text

end UnitLift.Template
