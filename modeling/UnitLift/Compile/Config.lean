import UnitLift.Compile.Options
import UnitLift.Compile.Standard
import UnitLift.Compile.Toolchain
import UnitLift.Path
import UnitLift.Text.Quoted

/-!
The configuration of one compilation. Its arguments are kept as flags by meaning, in the order in
which they are rendered: the standard is selected once, an include directory is named once, and a
preprocessor name is defined or undefined once, by the last call that mentions it.
-/

namespace UnitLift

/-- The name that a definition is for: the text before the first `=` or `(`. -/
def definedName (definition : String) : List Char :=
  definition.toList.takeWhile fun c => c != '=' && c != '('

/-- An argument of a compilation. -/
inductive Flag where
  | includeDir (path : String)
  | standard (standard : Standard) (gnu : Bool)
  | extension (extension : Extension)
  /-- A definition `NAME`, `NAME=value` or `NAME(parameters)=value`. -/
  | define (definition : String)
  | undefine (name : String)
deriving DecidableEq, Repr

namespace Flag

/-- A flag as the compiler reads it. -/
def render : Flag → String
  | includeDir path => "-I" ++ path
  | standard chosen gnu => "-std=" ++ chosen.spelling gnu
  | extension chosen => chosen.argument?.getD ""
  | define definition => "-D" ++ definition
  | undefine name => "-U" ++ name

/-- A flag that selects the standard or an extension. -/
def isLanguage : Flag → Bool
  | standard _ _ => true
  | extension _ => true
  | _ => false

/-- A flag that defines or undefines `name`. -/
def isAbout (name : List Char) : Flag → Bool
  | define definition => definedName definition == name
  | undefine undefined => definedName undefined == name
  | _ => false

end Flag

/-- What the parser is told about a configuration. -/
structure ConfigView where
  binary : String
  version : Int
  arguments : List String
  writePreprocessed : Bool
  fastPreprocessing : Bool
  keepComments : Bool
deriving DecidableEq, Repr

/-- The configuration of one compilation. -/
structure CompileConfig where
  /-- The name of the parser that the configuration is meant for. -/
  name : String
  binary : String
  version : Int
  flags : List Flag
  standard : Standard
  extensions : Extensions
  writePreprocessed : Bool
  fastPreprocessing : Bool
  keepComments : Bool
deriving DecidableEq, Repr

/-- What a fresh configuration takes from its surroundings. -/
structure BuildDefaults where
  toolchain : Toolchain
  standard : StandardChoice
  /-- Major and minor version of the library, which are defined for the compiled code. -/
  release : Int × Int
deriving DecidableEq, Repr

namespace CompileConfig

/-- The name of the parser that works with libclang. -/
def libraryName : String := "libclang"

def arguments (config : CompileConfig) : List String :=
  "-x" :: "c++" :: config.flags.map Flag.render

def selectStandard (config : CompileConfig) (standard : Standard) (extensions : Extensions) :
    CompileConfig :=
  { config with
    flags := config.flags.filter (!·.isLanguage) ++ Flag.standard standard extensions.gnu ::
      (extensions.toList.filter (·.argument?.isSome)).map Flag.extension
    standard
    extensions }

/-- Selects the standard that is meant, with the GNU extensions if the choice asks for them. -/
def setStandard (config : CompileConfig) (choice : StandardChoice) (extensions : Extensions) :
    Except Stop CompileConfig := do
  let standard ← choice.resolve
  return config.selectStandard standard
    (if choice.gnu then extensions.insert .gnu else extensions)

/-- Adds an include directory unless it has been added before. -/
def addIncludeDir (config : CompileConfig) (path : String) : CompileConfig :=
  if config.flags.contains (.includeDir path) then config
  else { config with flags := config.flags ++ [.includeDir path] }

/-- The configuration without what it says about the name in `definition`. -/
def forget (config : CompileConfig) (definition : String) : CompileConfig :=
  { config with flags := config.flags.filter (!·.isAbout (definedName definition)) }

/-- Defines a preprocessor name, with its usual value if `value` is absent. -/
def define (config : CompileConfig) (name : String) (value : Option String) : CompileConfig :=
  let definition := match value with
    | none => name
    | some value => name ++ "=" ++ value
  let rest := config.forget name
  { rest with flags := rest.flags ++ [.define definition] }

def undefine (config : CompileConfig) (name : String) : CompileConfig :=
  let rest := config.forget name
  { rest with flags := rest.flags ++ [.undefine (String.ofList (definedName name))] }

def setBinary (config : CompileConfig) (binary : String) (version : Version) : CompileConfig :=
  { config with binary, version := version.packed }

/-- A configuration as it is created: with the system include directory of the toolchain, the given
standard or else the default one, and what the library defines for the compiled code. -/
def fresh (defaults : BuildDefaults) (toolchain : Option Toolchain := none)
    (standard : Option StandardChoice := none) : Except Stop CompileConfig := do
  let toolchain := toolchain.getD defaults.toolchain
  let bare : CompileConfig :=
    { name := libraryName, binary := toolchain.binary, version := toolchain.version.packed
      flags := [], standard := .cpp17, extensions := {}, writePreprocessed := false
      fastPreprocessing := false, keepComments := false }
  let bare := match toolchain.systemIncludeDir with
    | some path => if path.isEmpty then bare else bare.addIncludeDir path
    | none => bare
  let config ← bare.setStandard (standard.getD defaults.standard) {}
  return ((config.define "__cppast__" (some ("\"" ++ libraryName ++ "\""))).define
    "__cppast_major__" (some (toString defaults.release.1))).define
    "__cppast_minor__" (some (toString defaults.release.2))

/-- What the parser is told about the configuration. -/
def view (config : CompileConfig) : ConfigView :=
  { binary := config.binary, version := config.version, arguments := config.arguments
    writePreprocessed := config.writePreprocessed, fastPreprocessing := config.fastPreprocessing
    keepComments := config.keepComments }

/-- Whether a parser is told the same about two configurations. -/
def equals (a b : CompileConfig) : Bool := a.view == b.view

def summary (config : CompileConfig) : String :=
  "LibclangCompileConfig(binary=" ++ Text.quoted config.binary ++ ", flags=" ++
    Text.quotedList config.arguments ++ ")"

end CompileConfig

/-- A change that a caller can make to a configuration. -/
inductive ConfigChange where
  | setStandard (choice : StandardChoice) (extensions : Extensions)
  | addIncludeDir (path : PathArgument)
  | define (name : String) (value : Option String)
  | undefine (name : String)
  | setBinary (binary : PathArgument) (version : Version)
  | setWritePreprocessed (enabled : Bool)
  | setFastPreprocessing (enabled : Bool)
  | setKeepComments (enabled : Bool)
deriving DecidableEq, Repr

def CompileConfig.apply (config : CompileConfig) : ConfigChange → Except Stop CompileConfig
  | .setStandard choice extensions => config.setStandard choice extensions
  | .addIncludeDir (.path path) => .ok (config.addIncludeDir path)
  | .addIncludeDir (.other _) => .error (.fault .notAPath)
  | .define name value => .ok (config.define name value)
  | .undefine name => .ok (config.undefine name)
  | .setBinary (.path binary) version => .ok (config.setBinary binary version)
  | .setBinary (.other _) _ => .error (.fault .notAPath)
  | .setWritePreprocessed enabled => .ok { config with writePreprocessed := enabled }
  | .setFastPreprocessing enabled => .ok { config with fastPreprocessing := enabled }
  | .setKeepComments enabled => .ok { config with keepComments := enabled }

end UnitLift
