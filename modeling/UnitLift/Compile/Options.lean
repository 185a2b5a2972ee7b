namespace UnitLift

/-- An option and its value, empty if it takes none. -/
structure CompileOption where
  name : String
  value : String
deriving DecidableEq, Repr

namespace CompileOption

/-- The options whose value is the next argument when it is not glued to them. -/
def valued : List String :=
  ["-I", "-isystem", "-D", "-U", "-o", "-x", "-include", "-imacros", "-iquote", "-idirafter",
   "-iprefix", "-isysroot", "--sysroot", "-MF", "-MT", "-MQ", "-MJ", "-target", "--target",
   "-arch", "-Xclang", "-Xlinker", "-Xpreprocessor", "-working-directory", "-L", "-l"]

/-- An argument that is no option: shorter than two characters or without a dash. -/
def isStray (argument : String) : Bool :=
  match argument.toList with
  | '-' :: _ :: _ => false
  | _ => true

/-- What follows `lead` in an argument that starts with it. -/
def valueAfter? (lead argument : String) : Option String :=
  if lead.toList.isPrefixOf argument.toList then
    some (String.ofList (argument.toList.drop lead.length))
  else none

def ofArgument (argument : String) : CompileOption :=
  match valueAfter? "-std=" argument with
  | some value => ⟨"-std", value⟩
  | none =>
    match ["-isystem", "-I", "-D", "-U"].findSome? fun name =>
        (valueAfter? name argument).map (CompileOption.mk name) with
    | some option => option
    | none => ⟨argument, ""⟩

/-- The options of an argument list, in order. -/
def split : List String → List CompileOption
  | [] => []
  | argument :: rest =>
    if isStray argument then split rest
    else if valued.contains argument then
      match rest with
      | [] => [⟨argument, ""⟩]
      | value :: rest => ⟨argument, value⟩ :: split rest
    else ofArgument argument :: split rest

end CompileOption

end UnitLift
