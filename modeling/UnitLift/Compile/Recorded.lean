import UnitLift.Compile.Config

/-!
Configurations from recorded compiler commands. Of the options of a command those are taken over
that a caller could also set: include directories, definitions, the standard and the extensions.
-/

namespace UnitLift

/-- A recorded compiler invocation; the first argument is the program. -/
structure Command where
  directory : String
  arguments : List String
deriving DecidableEq, Repr

/-- A configuration together with the standards that were recorded and are not known. -/
structure Takeover where
  config : CompileConfig
  unknownStandards : List String := []
deriving DecidableEq, Repr

namespace Takeover

/-- An include directory as seen from where the command ran. -/
def includePath (directory path : String) : String :=
  if Path.isAbsolute path then path else Path.normalize (Path.join directory path)

/-- A definition as a name and the value after its first `=`, if it has one. -/
def splitDefinition (definition : String) : String × Option String :=
  let chars := definition.toList
  let name := chars.takeWhile (· != '=')
  (String.ofList name,
    if chars.contains '=' then some (String.ofList (chars.drop (name.length + 1))) else none)

/-- Takes over an option of a command that ran in `directory`. -/
def takeOption (directory : String) (takeover : Takeover) (option : CompileOption) : Takeover :=
  let config := takeover.config
  if option.name == "-I" || option.name == "-isystem" then
    if option.value.isEmpty then takeover
    else { takeover with config := config.addIncludeDir (includePath directory option.value) }
  else if option.name == "-D" then
    if option.value.isEmpty then takeover
    else
      let (name, value) := splitDefinition option.value
      { takeover with config := config.define name value }
  else if option.name == "-U" then
    if option.value.isEmpty then takeover
    else { takeover with config := config.undefine option.value }
  else if option.name == "-std" then
    match config.setStandard (.token option.value) { config.extensions with gnu := false } with
    | .ok config => { takeover with config }
    | .error _ =>
      { takeover with unknownStandards := takeover.unknownStandards ++ [option.value] }
  else
    match Extension.ofArgument? option.name with
    | some extension =>
      { takeover with
        config := config.selectStandard config.standard (config.extensions.insert extension) }
    | none => takeover

def takeCommand (takeover : Takeover) (command : Command) : Takeover :=
  (CompileOption.split (command.arguments.drop 1)).foldl (takeOption command.directory) takeover

/-- Takes over the options of commands, in order. -/
def ofCommands (config : CompileConfig) (commands : List Command) : Takeover :=
  commands.foldl takeCommand { config }

end Takeover

end UnitLift
