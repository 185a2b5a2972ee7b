/-!
Text as lines. A line ends at any of the line boundaries of Unicode, a carriage return and the line
feed after it count as one, and text after the last boundary is a line unless it is empty.
-/

namespace UnitLift.Text

/-- The characters that end a line. -/
def isLineBoundary (c : Char) : Bool :=
  let code := c.toNat
  (10 ≤ code && code ≤ 13) || (28 ≤ code && code ≤ 30) || code == 0x85 || code == 0x2028 ||
    code == 0x2029

/-- The lines of a text, without their boundaries. -/
def lineSpans : List Char → List (List Char)
  | [] => []
  | '\r' :: '\n' :: rest => [] :: lineSpans rest
  | c :: rest =>
    if isLineBoundary c then [] :: lineSpans rest
    else
      match lineSpans rest with
      | [] => [[c]]
      | line :: lines => (c :: line) :: lines

/-- The lines of `text`, without their boundaries. -/
def linesOf (text : String) : List String := (lineSpans text.toList).map String.ofList

/-- The text of lines each of which is closed by a line feed, a single one if there are none. -/
def joinLines (lines : List String) : String := String.intercalate "\n" lines ++ "\n"

/-- A text with every carriage return, alone or before a line feed, written as a line feed. -/
def withLineFeeds : List Char → List Char
  | [] => []
  | '\r' :: '\n' :: rest => '\n' :: withLineFeeds rest
  | c :: rest => (if c == '\r' then '\n' else c) :: withLineFeeds rest

end UnitLift.Text
