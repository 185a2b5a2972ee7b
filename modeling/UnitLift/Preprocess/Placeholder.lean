import UnitLift.Preprocess.MainFile

/-!
Include directives hidden from a preprocessor. Each directive of a file is replaced by a numbered
placeholder before the file is preprocessed, and the placeholders that are left are replaced by
their directives afterwards.
-/

namespace UnitLift

/-- A directive that was taken out of a file: its line without blanks around it, and what it
includes. -/
structure HiddenDirective where
  text : String
  directive : Include
deriving DecidableEq, Repr

namespace HiddenDirective

def after? (lead : String) (text : List Char) : Option (List Char) :=
  if lead.toList.isPrefixOf text then some (text.drop lead.length) else none

/-- The name that a line includes, and whether it stands in angle brackets. -/
def includedName? (line : List Char) : Option (String × Bool) := do
  let rest ← after? "#" (Text.trimStart line)
  let rest ← after? "include" (Text.trimStart rest)
  let rest := (after? "_next" rest).getD rest
  match Text.trimStart rest with
  | [] => none
  | mark :: rest =>
    let isEnd (c : Char) : Bool := c == '>' || c == '"'
    let name := rest.takeWhile (!isEnd ·)
    if (mark == '<' || mark == '"') && !name.isEmpty && rest.any isEnd then
      some (String.ofList name, mark == '<')
    else none

def placeholder (number : Nat) : String := "#pragma cxxparse_include " ++ toString number

def placeholderNumeral? (line : List Char) : Option (List Char) := do
  let rest ← after? "#" (Text.trimStart line)
  let rest ← after? "pragma" (Text.trimStart rest)
  let rest ← blanks? rest
  let rest ← after? "cxxparse_include" rest
  let rest ← blanks? rest
  let numeral := rest.takeWhile Text.isDecimalDigit
  if !numeral.isEmpty && (rest.dropWhile Text.isDecimalDigit).all Text.isBlank then some numeral
  else none
where
  /-- What follows the blanks, of which there is at least one. -/
  blanks? : List Char → Option (List Char)
    | [] => none
    | c :: rest => if Text.isBlank c then some (Text.trimStart rest) else none

/-- Hides the directives among the lines from `line` on, giving them numbers from `number` on. -/
def hideFrom (number line : Nat) : List String → List String × List HiddenDirective
  | [] => ([], [])
  | text :: rest =>
    match includedName? text.toList with
    | some (name, system) =>
      let (lines, hidden) := hideFrom (number + 1) (line + 1) rest
      (placeholder number :: lines, ⟨Text.trimmed text, ⟨name, line, none, system⟩⟩ :: hidden)
    | none =>
      let (lines, hidden) := hideFrom number (line + 1) rest
      (text :: lines, hidden)

def hide (lines : List String) : List String × List HiddenDirective := hideFrom 0 1 lines

def reveal (hidden : List HiddenDirective) (line : String) :
    Except Fault (Option HiddenDirective) :=
  match placeholderNumeral? line.toList with
  | none => .ok none
  | some numeral =>
    match Text.readDigits? numeral with
    | none => .error .numeralTooLong
    | some number =>
      match hidden[number]? with
      | some directive => .ok (some directive)
      | none => .error .unknownPlaceholder

/-- Puts directives back in place of their placeholders; also the includes that were put back. -/
def restore (hidden : List HiddenDirective) : List String → Except Fault (List String × List Include)
  | [] => .ok ([], [])
  | line :: rest => do
    match ← reveal hidden line with
    | some found =>
      let (lines, includes) ← restore hidden rest
      return (found.text :: lines, found.directive :: includes)
    | none =>
      let (lines, includes) ← restore hidden rest
      return (line :: lines, includes)

end HiddenDirective

end UnitLift
