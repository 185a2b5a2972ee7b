/-!
Paths as text. A path is absolute if it starts with a slash; exactly two slashes at the start are
kept apart from one, as they may name another root. Functions on `List Char` do the work, and those
on `String` wrap them.
-/

namespace UnitLift.Path

/-- The pieces of a text between separators, empty ones included. -/
def pieces (separator : Char) : List Char → List (List Char)
  | [] => [[]]
  | c :: rest =>
    if c == separator then [] :: pieces separator rest
    else
      match pieces separator rest with
      | [] => [[c]]
      | piece :: more => (c :: piece) :: more

/-- Pieces with a slash between any two of them. -/
def joinPieces (parts : List (List Char)) : List Char := List.intercalate ['/'] parts

/-- A path that does not depend on the current directory. -/
def isAbsolute (path : String) : Bool := path.toList.head? == some '/'

/-- `path` seen from `directory`: itself if it is absolute. -/
def join (directory path : String) : String :=
  if isAbsolute path then path
  else if directory.isEmpty || directory.toList.getLast? == some '/' then directory ++ path
  else directory ++ "/" ++ path

/-- The slashes kept at the start of a normal path: none, one or exactly two. -/
def rootSlashes : List Char → List Char
  | ['/', '/'] => ['/', '/']
  | '/' :: '/' :: c :: _ => if c == '/' then ['/'] else ['/', '/']
  | '/' :: _ => ['/']
  | _ => []

/-- Appends a component to normal components, kept in reverse: a double dot takes the last one away,
and is kept only where a relative path leaves its start. -/
def pushComponent (rooted : Bool) (kept : List (List Char)) (component : List Char) :
    List (List Char) :=
  if component == [] || component == ['.'] then kept
  else if component != ['.', '.'] then component :: kept
  else
    match kept with
    | [] => if rooted then [] else [component]
    | last :: earlier => if last == ['.', '.'] then component :: kept else earlier

/-- The components of a path without empty ones, dots, and double dots that can be resolved. -/
def normalComponents (path : List Char) : List (List Char) :=
  ((pieces '/' path).foldl (pushComponent (rootSlashes path != [])) []).reverse

/-- A path in its shortest form with the same components. -/
def normalize (path : String) : String :=
  let normal := rootSlashes path.toList ++ joinPieces (normalComponents path.toList)
  if normal.isEmpty then "." else String.ofList normal

/-- The normal form of `path` seen from the current directory. -/
def absolute (currentDirectory path : String) : String :=
  normalize (join currentDirectory path)

/-- A path up to and including its last slash, and what follows it. -/
def splitDirectory (path : List Char) : List Char × List Char :=
  let base := (path.reverse.takeWhile (· != '/')).reverse
  (path.take (path.length - base.length), base)

/-- A base name without its extension, the last dot that has another character than a dot before it
and all that follows. -/
def baseStem (base : List Char) : List Char :=
  let dots := base.takeWhile (· == '.')
  let name := base.dropWhile (· == '.')
  if name.contains '.' then
    dots ++ (name.reverse.dropWhile (· != '.')).tail.reverse
  else base

/-- `path` without its extension. -/
def stem (path : String) : String :=
  let (directory, base) := splitDirectory path.toList
  String.ofList (directory ++ baseStem base)

/-- Whether two paths have the same absolute form. -/
def sameFile (currentDirectory a b : String) : Bool :=
  absolute currentDirectory a == absolute currentDirectory b

end UnitLift.Path

/-- What a caller hands over as a path: a text, or something else that only prints as one. -/
inductive UnitLift.PathArgument where
  | path (text : String)
  | other (printed : String)
deriving DecidableEq, Repr

/-- An argument as it stands in messages. -/
def UnitLift.PathArgument.printed : PathArgument → String
  | path text => text
  | other printed => printed
