import UnitLift.Failure
import UnitLift.Text.Blank

namespace UnitLift

/-- A version of the C++ standard. -/
inductive Standard where
  | cpp98
  | cpp03
  | cpp11
  | cpp14
  | cpp1z
  | cpp17
  | cpp2a
  | cpp20
  | cpp2b
  | cpp23
deriving DecidableEq, Repr

namespace Standard

/-- Every standard, older ones first. -/
def all : List Standard := [cpp98, cpp03, cpp11, cpp14, cpp1z, cpp17, cpp2a, cpp20, cpp2b, cpp23]

def version : Standard → String
  | cpp98 => "98"
  | cpp03 => "03"
  | cpp11 => "11"
  | cpp14 => "14"
  | cpp1z => "1z"
  | cpp17 => "17"
  | cpp2a => "2a"
  | cpp20 => "20"
  | cpp2b => "2b"
  | cpp23 => "23"

/-- A standard as a compiler argument spells it, with the GNU extensions or without. -/
def spelling (standard : Standard) (gnu : Bool) : String :=
  (if gnu then "gnu++" else "c++") ++ standard.version

/-- A token as it is compared: without blanks around it and in lower case. The words it is compared
with are ASCII, and no other letter has one of theirs as its lower case. -/
def normalToken (token : String) : List Char :=
  (Text.trim token.toList).map Char.toLower

def asksForGnu (token : String) : Bool := "gnu++".toList.isPrefixOf (normalToken token)

/-- The standard that a token names, with the GNU extensions or without. -/
def ofToken? (token : String) : Option Standard :=
  let word := normalToken token
  let plain := if asksForGnu token then "c++".toList ++ word.drop 5 else word
  all.find? fun standard => (standard.spelling false).toList == plain

end Standard

/-- How a caller names a standard. -/
inductive StandardChoice where
  | standard (standard : Standard)
  | token (text : String)
  /-- What should name a standard cannot be had. -/
  | unavailable (fault : Fault)
deriving DecidableEq, Repr

namespace StandardChoice

def resolve : StandardChoice → Except Stop Standard
  | standard chosen => .ok chosen
  | token text =>
    match Standard.ofToken? text with
    | some chosen => .ok chosen
    | none => .error (.refused (.unknownStandard text))
  | unavailable fault => .error (.fault fault)

/-- Whether the choice itself asks for the GNU extensions. -/
def gnu : StandardChoice → Bool
  | standard _ => false
  | token text => Standard.asksForGnu text
  | unavailable _ => false

end StandardChoice

/-- The extensions a compiler can be asked for, independent of the standard. -/
inductive Extension where
  | gnu
  | microsoft
  | microsoftCompatibility
deriving DecidableEq, Repr

namespace Extension

/-- Every extension, in the order in which they are listed. -/
def all : List Extension := [gnu, microsoft, microsoftCompatibility]

/-- The argument of an extension that has one; the GNU extensions are part of the standard's. -/
def argument? : Extension → Option String
  | gnu => none
  | microsoft => some "-fms-extensions"
  | microsoftCompatibility => some "-fms-compatibility"

def name : Extension → String
  | gnu => "GNU_EXTENSIONS"
  | microsoft => "MS_EXTENSIONS"
  | microsoftCompatibility => "MS_COMPATIBILITY"

/-- The extension with an argument of its own. -/
def ofArgument? (argument : String) : Option Extension :=
  all.find? fun extension => extension.argument? == some argument

end Extension

structure Extensions where
  gnu : Bool := false
  microsoft : Bool := false
  microsoftCompatibility : Bool := false
deriving DecidableEq, Repr

namespace Extensions

def has (extensions : Extensions) : Extension → Bool
  | .gnu => extensions.gnu
  | .microsoft => extensions.microsoft
  | .microsoftCompatibility => extensions.microsoftCompatibility

def insert (extensions : Extensions) : Extension → Extensions
  | .gnu => { extensions with gnu := true }
  | .microsoft => { extensions with microsoft := true }
  | .microsoftCompatibility => { extensions with microsoftCompatibility := true }

def ofList (list : List Extension) : Extensions := list.foldl insert {}

/-- The extensions of the set, in the order in which they are listed. -/
def toList (extensions : Extensions) : List Extension := Extension.all.filter extensions.has

end Extensions

end UnitLift
