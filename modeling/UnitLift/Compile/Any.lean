import UnitLift.Compile.Config

namespace UnitLift

/-- A configuration for some parser. -/
inductive AnyConfig where
  | library (config : CompileConfig)
  | plain (flags : List String)
deriving DecidableEq, Repr

namespace AnyConfig

/-- The flags of a configuration, in order. -/
def flags : AnyConfig → List String
  | library config => config.arguments
  | plain flags => flags

/-- The name of the parser that a configuration is meant for. -/
def name : AnyConfig → String
  | library config => config.name
  | plain _ => "other"

/-- The flag that a plain configuration writes down for a change. -/
def plainFlag : ConfigChange → Except Stop String
  | .setStandard choice extensions => do
    let standard ← choice.resolve
    let extensions := if choice.gnu then extensions.insert .gnu else extensions
    return "std:" ++ standard.spelling extensions.gnu ++ ":" ++
      String.intercalate "," (extensions.toList.map Extension.name)
  | .addIncludeDir (.path path) => .ok ("inc:" ++ path)
  | .addIncludeDir (.other _) => .error (.fault .notAPath)
  | .define name value => .ok ("def:" ++ name ++ ":" ++ value.getD "None")
  | .undefine name => .ok ("undef:" ++ name)
  | _ => .error (.fault .missingPart)

def apply : AnyConfig → ConfigChange → Except Stop AnyConfig
  | library config, change => (config.apply change).map library
  | plain flags, change => (plainFlag change).map fun flag => plain (flags ++ [flag])

/-- The configuration after changes, up to the first that cannot be made. -/
def applyAll (config : AnyConfig) (changes : List ConfigChange) : Except Stop AnyConfig :=
  changes.foldlM apply config

/-- What the parser for libclang is told about a configuration that is meant for it. -/
def access : AnyConfig → Except Stop ConfigView
  | library config =>
    if config.name == CompileConfig.libraryName then .ok config.view
    else .error (.refused (.foreignConfiguration config.name))
  | plain flags => .error (.refused (.foreignConfiguration (plain flags).name))

/-- Whether two configurations are known to be equal. -/
def equals : AnyConfig → AnyConfig → Bool
  | library a, library b => a.equals b
  | _, _ => false

end AnyConfig

end UnitLift
