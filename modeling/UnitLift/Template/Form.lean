import UnitLift.Template.Reader

/-!
When a text is taken for one with references, and when these count as well-formed. Texts in which the
references are of a simple form pass at once; any other has to be read.
-/

namespace UnitLift.Template

open UnitLift.Text (Pattern)

/-- A character, or the two characters that start a reference, which count as one and are `none`. -/
abbrev Symbol := Option Char

def symbols : List Char → List Symbol
  | '$' :: '\x7b' :: rest => none :: symbols rest
  | c :: rest => some c :: symbols rest
  | [] => []

namespace Simple

/-- A character that passes a test. -/
private def one (test : Char → Bool) : Pattern Symbol := .one (·.any test)

private def sign (c : Char) : Pattern Symbol := one (· == c)

private def gap : Pattern Symbol := .many (one (" \t\n\r\x0c\x0b".toList.contains ·))

private def isWord (c : Char) : Bool := c.isAlphanum || c == '_'

private def key : Pattern Symbol := .some (one fun c => isWord c || c == '$')

private def bracketed : Pattern Symbol := sign '[' ++ key ++ sign ']'

private def setting : Pattern Symbol :=
  gap ++ .many (sign '.') ++ (key ||| bracketed) ++ .many ((sign '.' ++ key) ||| bracketed) ++ gap

private def name : Pattern Symbol :=
  one (fun c => c.isAlpha || c == '_') ++ .many (one fun c => isWord c || c == '-')

private def argument : Pattern Symbol :=
  .some (one fun c => isWord c || "/-+.$%*@?|".toList.contains c)

private def call : Pattern Symbol :=
  gap ++ .optional (name ++ .many (sign '.' ++ name)) ++ gap ++ sign ':' ++ gap ++ argument ++
    .many (gap ++ sign ',' ++ gap ++ argument) ++ gap

private def reference : Pattern Symbol := .character none ++ (setting ||| call) ++ sign '\x7d'

private def between : Pattern Symbol := .many (one fun _ => true)

/-- Texts with references of a simple form. -/
def pattern : Pattern Symbol := between ++ .some (reference ++ between)

end Simple

def hasReferences (text : String) : Bool := (symbols text.toList).contains none

/-- Whether a text has no references in it, or well-formed ones. -/
def isWellFormed (text : String) : Bool :=
  let symbols := symbols text.toList
  !symbols.contains none || Simple.pattern.accepts symbols || (read? text).isSome

end UnitLift.Template
