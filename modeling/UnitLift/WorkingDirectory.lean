import UnitLift.FileSystem

/-!
The file system of a program that has nothing but its working directory and the directory above. There
are no directories below it.
-/

namespace UnitLift

/-- What a path leads to. -/
inductive Destination where
  /-- A directory: the working one or the one above. -/
  | directory (isWorking : Bool)
  /-- A file, or the place for one; `slashed` says whether the path has a slash behind it. -/
  | file (name : String) (slashed : Bool)
  /-- A way through something that is no directory, or that no path can take. -/
  | nowhere (error : OpenError)
deriving DecidableEq, Repr

namespace WorkingDirectory

/-- The most bytes of a name, and the number of bytes from which on a path is too long. -/
def maxNameSize : Nat := 255

def pathLimit : Nat := 4096

/-- What the steps of a path lead to. The files of the directory above have a slash before their
names. -/
def walk (directory : String) (known : String → Bool) :
    Destination → List (List Char) → Destination
  | here, [] => here
  | .nowhere error, _ => .nowhere error
  | .file name _, step :: rest =>
    if (step :: rest).all (· == []) then .file name true
    else .nowhere (if known name then .notDirectory else .missing)
  | .directory isWorking, step :: rest =>
    if step == [] || step == ['.'] then walk directory known (.directory isWorking) rest
    else if step == ['.', '.'] then walk directory known (.directory false) rest
    else
      let name := String.ofList step
      if maxNameSize < name.utf8ByteSize then .nowhere .nameTooLong
      else if isWorking then walk directory known (.file name false) rest
      else if '/' :: step == directory.toList then walk directory known (.directory true) rest
      else walk directory known (.file ("/" ++ name) false) rest

def find (directory : String) (known : String → Bool) (path : String) : Destination :=
  if path.isEmpty then .nowhere .missing
  else if pathLimit ≤ path.utf8ByteSize then .nowhere .nameTooLong
  else walk directory known (.directory !(Path.isAbsolute path)) (Path.pieces '/' path.toList)

def fileAt (known : String → Bool) (purpose : Purpose) : Destination → Except OpenError String
  | .directory _ => .error .directory
  | .nowhere error => .error error
  | .file name slashed =>
    if purpose != .read then if slashed then .error .directory else .ok name
    else if !known name then .error .missing
    else if slashed then .error .notDirectory
    else .ok name

/-- The paths through a directory right below the root. -/
def paths (directory : String) : Paths where
  lead known path :=
    match find directory known path with
    | .directory _ => true
    | .file name slashed => !slashed && known name
    | .nowhere _ => false
  fileAt purpose known path := fileAt known purpose (find directory known path)

end WorkingDirectory

namespace FileSystem

def working (directory : String) (files : Table String String) : FileSystem :=
  { directory, paths := WorkingDirectory.paths directory, files }

def ownFiles (system : FileSystem) : List (String × String) :=
  system.files.entries.filter fun file => !Path.isAbsolute file.1

end FileSystem

end UnitLift
