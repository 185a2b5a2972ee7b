import UnitLift.Path

namespace UnitLift.Path

/-- The symbolic links of a file system: where each of them leads. -/
abbrev Links := List (String × String)

/-- The directory of a path without trailing slashes, and its last component. -/
private def parentAndName (path : String) : String × String :=
  let (directory, base) := splitDirectory path.toList
  let bare := (directory.reverse.dropWhile (· == '/')).reverse
  (String.ofList (if bare.isEmpty then directory else bare), String.ofList base)

def ascend (path : String) : String :=
  if path.isEmpty then ".."
  else
    let (directory, name) := parentAndName path
    if name == ".." then join (join directory "..") ".." else directory

/-- How far the following of links has come. -/
structure Walk where
  path : String
  /-- The links met so far, with where they led once that is known. -/
  met : List (String × Option String)
  /-- Cleared when a loop of links was found: `path` then holds all that was left. -/
  complete : Bool

/-- Follows components from `walk.path`; `follow` follows the target of a link. -/
def descend (currentDirectory : String) (links : Links)
    (follow : Walk → List Char → Walk) : Walk → List (List Char) → Walk
  | walk, [] => walk
  | walk, component :: rest =>
    if !walk.complete then walk
    else if component == [] || component == ['.'] then
      descend currentDirectory links follow walk rest
    else if component == ['.', '.'] then
      descend currentDirectory links follow { walk with path := ascend walk.path } rest
    else
      let next := join walk.path (String.ofList component)
      let remaining := String.ofList (joinPieces rest)
      match links.lookup (absolute currentDirectory next) with
      | none => descend currentDirectory links follow { walk with path := next } rest
      | some target =>
        match walk.met.lookup next with
        | some (some resolved) =>
          descend currentDirectory links follow { walk with path := resolved } rest
        | some none => { walk with path := join next remaining, complete := false }
        | none =>
          let inner := follow { walk with met := (next, none) :: walk.met } target.toList
          if inner.complete then
            descend currentDirectory links follow
              { inner with met := (next, some inner.path) :: inner.met } rest
          else { inner with path := join inner.path remaining }

/-- Follows a path from a walk; every link is entered at most once, so `depth`, the number of links
that may still be entered, does not run out. -/
def followPath (currentDirectory : String) (links : Links) : Nat → Walk → List Char → Walk
  | 0, walk, _ => walk
  | depth + 1, walk, path =>
    let start := if path.head? == some '/' then { walk with path := "/" } else walk
    descend currentDirectory links (followPath currentDirectory links depth) start (pieces '/' path)

def walkAlong (currentDirectory : String) (links : Links) (path : String) : Walk :=
  followPath currentDirectory links (links.length + 2) ⟨"", [], true⟩ path.toList

/-- The absolute path without symbolic links that `path` leads to. -/
def resolve (currentDirectory : String) (links : Links) (path : String) : String :=
  absolute currentDirectory (walkAlong currentDirectory links path).path

/-- The path of the file that opening `path` opens, if it does not run into a loop of links. A path
without links is taken as it is. -/
def follow? (currentDirectory : String) (links : Links) (path : String) : Option String :=
  let walk := walkAlong currentDirectory links path
  if !walk.complete then none
  else if walk.met.isEmpty then some path
  else some (absolute currentDirectory walk.path)

end UnitLift.Path
