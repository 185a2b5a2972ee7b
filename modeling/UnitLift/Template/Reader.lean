import UnitLift.Template.Basic
import UnitLift.Template.Token
import UnitLift.Text.Fraction

namespace UnitLift.Template

/-- Reading off the tokens; what is not well-formed has no result. -/
abbrev Reader (α : Type) := StateT (List Token) Option α

/-- Every second character of a text. -/
def everySecond : List Char → List Char
  | _ :: c :: rest => c :: everySecond rest
  | _ => []

/-- A text without the backslashes that are escapes for others in it. -/
def unescaped (text : String) : String := String.ofList (everySecond text.toList)

/-- The start of a reference without the backslash before it that is its escape; of those before that
one, half count. -/
def unescapedStart (text : String) : String :=
  String.ofList (text.toList.drop (text.length - (text.length / 2 + 1)))

/-- The text of a token that may be a part of an argument, as it counts together with others. -/
def Token.part? : Token → Option String
  | name text | null text | int text | float text | bool text | sign text | blank text =>
    some text
  | escaped text => some (unescaped text)
  | _ => none

/-- What a token that is the whole of an argument stands for. -/
def Token.scalar? : Token → Option Scalar
  | name text | sign text | colon text => some (.text text)
  | escaped text => some (.text (unescaped text))
  | null _ => some .null
  | bool text => some (.bool (text.toLower == "true"))
  | int text => (Text.readInteger? text.toList).map .int
  | float text => (Text.readFraction? (text.toList.filter (· != '_'))).map .real
  | _ => none

/-- A part of a key: the piece, and whether functions too may have such a name. -/
structure KeyPart where
  piece : Piece
  isName : Bool

namespace Reader

def peek : Reader (Option Token) := return (← get).head?

/-- Takes the next token off. -/
def drop : Reader Unit := modify (List.drop 1)

/-- Whether the next token is a certain one, which is then taken off. -/
def takes (token : Token) : Reader Bool := do
  let found := (← peek) == some token
  if found then drop
  return found

/-- Takes a token that has to come next. -/
def expect (token : Token) : Reader Unit := do
  if !(← takes token) then failure

/-- Takes dots off, and counts them. -/
def dots : Nat → Reader Nat
  | 0 => return 0
  | fuel + 1 => do
    if ← takes .dot then return (← dots fuel) + 1
    return 0

/-- Takes a colon off, whatever blanks it comes with. -/
def takesColon : Reader Bool := do
  match ← peek with
  | some (.colon _) =>
    drop
    return true
  | _ => return false

def keyTokens : Nat → Reader (List Token)
  | 0 => return []
  | fuel + 1 => do
    match ← peek with
    | some token =>
      if token.part?.isNone then return []
      drop
      return token :: (← keyTokens fuel)
    | none => return []

/-- What tokens stand for as a key of a mapping. -/
def keyOf (tokens : List Token) : Reader Scalar :=
  match tokens with
  | [] => failure
  | [token] => token.scalar?
  | tokens => return .text (String.join (tokens.filterMap Token.part?))

mutual

/-- Reads pieces of a text, up to the closing quote if there is one. -/
def pieces (quoted : Bool) : Nat → Reader (List Piece)
  | 0 => return []
  | fuel + 1 => do
    match ← peek with
    | none => if quoted then failure else return []
    | some token =>
      if token == .quoteEnd then return []
      drop
      let piece ← (match token with
        | .plain text => return .literal text
        | .escaped text => return .literal (unescaped text)
        | .escapedStart text => return .literal (unescapedStart text)
        | .backslashes text => do
          let next ← peek
          let counts := next == some .referenceStart || (quoted && next == some .quoteEnd)
          return .literal (if counts then unescaped text else text)
        | .referenceStart => return .reference (← reference fuel)
        | _ => failure)
      return piece :: (← pieces quoted fuel)

/-- Reads a reference, of which the start has been taken. -/
def reference : Nat → Reader Reference
  | 0 => failure
  | fuel + 1 => do
    let leading ← dots fuel
    let opened ← takes .bracketOpen
    let first ← keyPart fuel
    if opened then expect .bracketClose
    let later ← keyParts fuel
    if ← takesColon then
      let parts := first :: later.map (·.2)
      if leading != 0 || opened || later.any (·.1) || !parts.all (·.isName) then failure
      let elements ← sequence .braceClose fuel
      let name := first.piece :: later.flatMap fun part => [.literal ".", part.2.piece]
      return .call name elements
    expect .referenceEnd
    let shown (inBrackets : Bool) (piece : Piece) : List Piece :=
      if inBrackets then [.literal "[", piece, .literal "]"] else [piece]
    return .setting (List.replicate leading (.literal ".") ++ shown opened first.piece ++
      later.flatMap fun (inBrackets, part) =>
        if inBrackets then shown true part.piece else [.literal ".", part.piece])

def keyPart : Nat → Reader KeyPart
  | 0 => failure
  | fuel + 1 => do
    match ← peek with
    | some (.name text) =>
      drop
      return ⟨.literal text, true⟩
    | some (.key text) =>
      drop
      return ⟨.literal text, false⟩
    | some .referenceStart =>
      drop
      return ⟨.reference (← reference fuel), true⟩
    | _ => failure

/-- Reads further parts of a key, each after a dot or in brackets. -/
def keyParts : Nat → Reader (List (Bool × KeyPart))
  | 0 => return []
  | fuel + 1 => do
    if ← takes .dot then
      let part ← keyPart fuel
      return (false, part) :: (← keyParts fuel)
    if ← takes .bracketOpen then
      let part ← keyPart fuel
      expect .bracketClose
      return (true, part) :: (← keyParts fuel)
    return []

/-- Reads elements with commas between them, up to `stop`. Between two commas, and at either end next
to a comma, an element may be left out and is then the empty text. -/
def sequence (stop : Token) : Nat → Reader (List Element)
  | 0 => failure
  | fuel + 1 => do
    if ← takes stop then return []
    let first ← elementBefore stop fuel
    return first :: (← moreElements stop fuel)

def elementBefore (stop : Token) : Nat → Reader Element
  | 0 => failure
  | fuel + 1 => do
    let next ← peek
    if next == some .comma || next == some stop then return .text []
    element fuel

/-- Reads elements that have commas before them, up to `stop`. -/
def moreElements (stop : Token) : Nat → Reader (List Element)
  | 0 => failure
  | fuel + 1 => do
    if ← takes stop then return []
    expect .comma
    let next ← elementBefore stop fuel
    return next :: (← moreElements stop fuel)

def element : Nat → Reader Element
  | 0 => failure
  | fuel + 1 => do
    if ← takes .quoteStart then
      let text ← pieces true fuel
      expect .quoteEnd
      return .text text
    if ← takes .bracketOpen then return .list (← sequence .bracketClose fuel)
    if ← takes .braceOpen then
      if ← takes .braceClose then return .mapping []
      return .mapping (← entries fuel)
    match ← parts fuel with
    | [] => failure
    | [.inl token] =>
      return (token.scalar?.map Element.scalar).getD .invalid
    | [.inr reference] => return .reference reference
    | parts =>
      return .text (parts.map fun
        | .inl (.colon text) => .literal text
        | .inl token => .literal (token.part?.getD "")
        | .inr reference => .reference reference)

/-- Reads what an element is put together from: tokens and references. -/
def parts : Nat → Reader (List (Token ⊕ Reference))
  | 0 => return []
  | fuel + 1 => do
    match ← peek with
    | some .referenceStart =>
      drop
      let reference ← reference fuel
      return .inr reference :: (← parts fuel)
    | some token =>
      if token.part?.isNone && !(token matches .colon _) then return []
      drop
      return .inl token :: (← parts fuel)
    | none => return []

/-- Reads the entries of a mapping up to its closing brace. -/
def entries : Nat → Reader (List (Scalar × Element))
  | 0 => failure
  | fuel + 1 => do
    let key ← keyOf (← keyTokens fuel)
    if !(← takesColon) then failure
    let value ← element fuel
    if ← takes .braceClose then return [(key, value)]
    expect .comma
    return (key, value) :: (← entries fuel)

end

/-- The result of reading all tokens, which nothing may be left of. -/
def whole {α : Type} (reader : Nat → Reader α) (tokens : List Token) : Option α := do
  match ← (reader (8 * tokens.length + 8)).run tokens with
  | (result, []) => some result
  | _ => none

end Reader

/-- The pieces of a text, if the references in it are well-formed. -/
def read? (text : String) : Option (List Piece) :=
  (Token.ofText? .text text.toList).bind (Reader.whole (Reader.pieces false))

def readElement? (text : String) : Option Element :=
  (Token.ofText? .value text.toList).bind (Reader.whole Reader.element)

end UnitLift.Template
