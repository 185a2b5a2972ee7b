import UnitLift.Compile.Standard
import UnitLift.Data.Printed
import UnitLift.Failure

namespace UnitLift

/-- The part of a library for configurations and documents that settings rely on. -/
structure SettingsLibrary (Config : Type) where
  /-- A configuration with given contents. -/
  create : Value → Config
  /-- The configuration in the text of a document. -/
  load : String → Except Fault Config
  /-- A configuration with another one laid over it. -/
  merge : Config → Config → Except Fault Config
  /-- The part that names lead to, each of which has to be there. -/
  part : Config → List String → Except Fault Value
  /-- The part under a key; it is absent if there is none. -/
  select : Config → String → Except Fault Value
  /-- All that a configuration contains. -/
  contents : Config → Value
  /-- The document that is written of contents. -/
  dump : Value → Except Fault String

namespace Settings

/-- What holds where nothing else is said. -/
def defaults : Value :=
  .record
    [("logging", .record
      [("level", .text "INFO"), ("colored", .bool true), ("file", .null)]),
    ("parser", .record
      [("libclang_path", .null), ("clang_binary", .null), ("cpp_standard", .text "c++17"),
       ("preprocess_timeout", .int 120)])]

structure LoggingSection where
  /-- Whether all records are asked for. -/
  verbose : Bool
  /-- Whether levels are painted. -/
  colored : Bool
  /-- What is given for the log file. -/
  file : Value
deriving DecidableEq

end Settings

namespace SettingsLibrary

variable {Config : Type} (library : SettingsLibrary Config) (config : Config)

def get (key : String) (default : Value) : Except Fault Value := do
  match ← library.select config key with
  | .scalar .null => return default
  | value => return value

/-- The value under a name of the section for the parser; nothing if it is absent. -/
def parserValue (name : String) : Except Fault Value := library.get config ("parser." ++ name) .null

/-- How the standard of a fresh configuration is named. -/
def standard : StandardChoice :=
  match library.get config "parser.cpp_standard" (.text "c++17") with
  | .ok value => .token value.printed
  | .error fault => .unavailable fault

/-- Whether the level asks for all records. It has to be a text. -/
def isVerbose : Except Fault Bool := do
  match ← library.part config ["logging", "level"] with
  | .scalar (.text name) => return name.map Char.toUpper == "DEBUG"
  | _ =>
    let _ ← library.part config ["logging", "level", "upper"]
    throw .notCallable

def logging : Except Fault Settings.LoggingSection := do
  let verbose ← library.isVerbose config
  let colored ← library.part config ["logging", "colored"]
  let file ← library.part config ["logging", "file"]
  return { verbose, colored := colored.isTruthy, file }

end SettingsLibrary

end UnitLift
