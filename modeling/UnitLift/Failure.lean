import UnitLift.Yaml.Flaw

/-!
What can go wrong, by cause. A `Failure` is reported to the caller with a kind and a message; a
`Fault` is a condition that no operation answers for, and ends whatever was going on.
-/

namespace UnitLift

inductive FailureKind where
  | databaseLoad
  | configNotFound
  | invalidArgument
  | preprocessing
  | parsing
  | sourceFile
deriving DecidableEq, Repr

/-- The name of a kind, as it stands before the message. -/
def FailureKind.name : FailureKind → String
  | databaseLoad => "database_load_error"
  | configNotFound => "config_not_found"
  | invalidArgument => "invalid_argument"
  | preprocessing => "preprocess_failed"
  | parsing => "parse_failed"
  | sourceFile => "io_error"

/-- Why a compilation database was not loaded. -/
inductive LoadCause where
  | noCommandFile (directory : String)
  | noLibrary
  | refused (directory reason : String)
  /-- A cause in the words of the caller. -/
  | stated (message : String)
deriving DecidableEq, Repr

/-- Why an argument was refused. -/
inductive Refusal where
  | unknownStandard (token : String)
  | foreignConfiguration (name : String)
  | noBinary (path : String)
  | parserClosed
  | parserBusy
  | databaseReleased
  | unsuitableParser (className : String)
  /-- A refusal in the words of the caller. -/
  | stated (message : String)
deriving DecidableEq, Repr

/-- Why a file was not preprocessed. -/
inductive PreprocessCause where
  | notLaunched (binary reason : String)
  | timedOut (path seconds : String)
  | exited (path : String) (code : Int) (stderr : String)
  /-- A cause in the words of the caller. -/
  | stated (message : String) (code : Option Int) (stderr : String)
deriving DecidableEq, Repr

inductive ParseCause where
  | notLoaded (path reason : String)
  | noUnit (path : String)
  | fatalDiagnostic (path location message : String)
  /-- A cause in the words of the caller. -/
  | stated (message : String) (path : Option String)
deriving DecidableEq, Repr

/-- Why a file could not be read or written. -/
inductive FileCause where
  | unreadable (path reason : String)
  | unwritable (path reason : String)
  /-- A cause in the words of the caller. -/
  | stated (message : String)
deriving DecidableEq, Repr

/-- A failure that is reported to the caller. -/
inductive Failure where
  | databaseLoad (cause : LoadCause)
  /-- No configuration for `file`; `message` replaces the usual wording unless it is empty. -/
  | configNotFound (file : String) (message : Option String)
  | invalidArgument (refusal : Refusal)
  | preprocessing (cause : PreprocessCause)
  | parsing (cause : ParseCause)
  | sourceFile (cause : FileCause)
  /-- A failure of the general sort, in the words of the caller. -/
  | general (message : String)
deriving DecidableEq, Repr

def LoadCause.message : LoadCause → String
  | noCommandFile directory => "no compile_commands.json in '" ++ directory ++ "'"
  | noLibrary => "libclang is not properly configured, cannot load compilation databases"
  | refused directory reason =>
    "unable to load compilation database from '" ++ directory ++ "': " ++ reason
  | stated message => message

def Refusal.message : Refusal → String
  | unknownStandard token => "unrecognized C++ standard '" ++ token ++ "'"
  | foreignConfiguration name =>
    "configuration of kind '" ++ name ++ "' cannot be used with the libclang parser"
  | noBinary path =>
    "no clang binary configured, cannot preprocess '" ++ path ++ "'; use set_compiler_binary()"
  | parserClosed => "parser has been closed"
  | parserBusy => "parser is already parsing a file"
  | databaseReleased => "compilation database has been closed or moved"
  | unsuitableParser className =>
    "parser '" ++ className ++ "' cannot use libclang compilation database configurations"
  | stated message => message

def PreprocessCause.message : PreprocessCause → String
  | notLaunched binary reason => "unable to launch preprocessor '" ++ binary ++ "': " ++ reason
  | timedOut path seconds =>
    "preprocessing '" ++ path ++ "' timed out after " ++ seconds ++ " seconds"
  | exited path code _ =>
    "preprocessing '" ++ path ++ "' failed with exit code " ++ toString code
  | stated message _ _ => message

/-- The exit code of the child process, if it came to an end. -/
def PreprocessCause.code : PreprocessCause → Option Int
  | exited _ code _ => some code
  | stated _ code _ => code
  | _ => none

/-- What the child process wrote to its error stream. -/
def PreprocessCause.stderr : PreprocessCause → String
  | exited _ _ stderr => stderr
  | stated _ _ stderr => stderr
  | _ => ""

def ParseCause.message : ParseCause → String
  | notLoaded path reason => "libclang could not parse '" ++ path ++ "': " ++ reason
  | noUnit path => "libclang produced no translation unit for '" ++ path ++ "'"
  | fatalDiagnostic path location message =>
    "fatal error while parsing '" ++ path ++ "': " ++ location ++ ": " ++ message
  | stated message _ => message

def ParseCause.path : ParseCause → Option String
  | notLoaded path _ => some path
  | noUnit path => some path
  | fatalDiagnostic path _ _ => some path
  | stated _ path => path

def FileCause.message : FileCause → String
  | unreadable path reason => "unable to read '" ++ path ++ "': " ++ reason
  | unwritable path reason =>
    "unable to write preprocessed file '" ++ path ++ "': " ++ reason
  | stated message => message

namespace Failure

/-- The failure of a search for the configuration of `file`. -/
abbrev notConfigured (file : String) : Failure := configNotFound file none

/-- The kind of a failure; the general sort counts as a failure to parse. -/
def kind : Failure → FailureKind
  | databaseLoad _ => .databaseLoad
  | configNotFound _ _ => .configNotFound
  | invalidArgument _ => .invalidArgument
  | preprocessing _ => .preprocessing
  | parsing _ => .parsing
  | sourceFile _ => .sourceFile
  | general _ => .parsing

def message : Failure → String
  | databaseLoad cause => cause.message
  | configNotFound file message =>
    match message with
    | some words =>
      if words.isEmpty then "unable to find configuration for file '" ++ file ++ "'" else words
    | none => "unable to find configuration for file '" ++ file ++ "'"
  | invalidArgument refusal => refusal.message
  | preprocessing cause => cause.message
  | parsing cause => cause.message
  | sourceFile cause => cause.message
  | general message => message

def text (failure : Failure) : String := failure.kind.name ++ ": " ++ failure.message

end Failure

/-- Why a file cannot be opened. -/
inductive OpenError where
  | missing
  | denied
  | notDirectory
  | directory
  | nameTooLong
deriving DecidableEq, Repr

def OpenError.words : OpenError → String
  | missing => "[Errno 2] No such file or directory: "
  | denied => "[Errno 13] Permission denied: "
  | notDirectory => "[Errno 20] Not a directory: "
  | directory => "[Errno 21] Is a directory: "
  | nameTooLong => "[Errno 36] File name too long: "

/-- Why a reference in a setting stands for nothing. -/
inductive Unresolved where
  /-- There is no setting under the key. -/
  | missingTarget
  /-- The setting under the key has still to be given. -/
  | openTarget
  /-- What the reference asks for cannot be had. -/
  | failed
  | unknownFunction
  /-- What a function gives can be no setting. -/
  | invalidResult
deriving DecidableEq, Repr

/-- A condition that no operation answers for. -/
inductive Fault where
  /-- A placeholder stands for an include directive that the file does not have. -/
  | unknownPlaceholder
  /-- A line is to be placed before the first one, and there is none. -/
  | noLineBefore
  /-- A numeral has more digits than can be read. -/
  | numeralTooLong
  /-- The parser was closed while it preprocessed a file. -/
  | indexReleased
  /-- What should be a path is none. -/
  | notAPath
  /-- A compilation database was asked for a copy of itself. -/
  | databaseCopied
  /-- A location has another number of parts than five. -/
  | locationArity
  /-- The parser broke down. -/
  | parserCrashed
  /-- A file cannot be opened. -/
  | notOpened (error : OpenError)
  /-- A value has no such part. -/
  | missingPart
  /-- A lock is given back that nobody holds. -/
  | lockNotHeld
  /-- A list cannot be laid over a mapping, nor a mapping over a list. -/
  | settingsMerge
  /-- A settings file is no well-formed document. -/
  | malformedSettings (flaw : Yaml.Flaw)
  /-- A value in a document can be no setting. -/
  | unsupportedValue
  /-- A text looks as if it had references, but they are not well-formed. -/
  | malformedReference
  /-- A reference stands for nothing. -/
  | unresolved (cause : Unresolved)
  /-- A setting that is needed has still to be given. -/
  | openValue
  /-- A key has no names. -/
  | emptyKey
  /-- Settings are nested too deeply, or without an end. -/
  | nestedTooDeeply
  /-- A value is used as something that can be applied. -/
  | notCallable
  /-- Something goes by a name that nothing has. -/
  | unknownName
  /-- The arguments are others than are asked for. -/
  | wrongArguments
  /-- A path has a character that no path may have. -/
  | badPath
  /-- An argument of a child process has a character that no argument may have. -/
  | badArgument
  /-- A settings file holds a scalar that is no text. -/
  | scalarSettings
  /-- A settings file holds a text that in turn is a scalar other than a text. -/
  | nestedScalarSettings
  /-- Settings have a key that is absent. -/
  | absentKey
  /-- A key of settings leads out of them. -/
  | noParent
  /-- An item of a list is asked for by something else than a number. -/
  | noIndex
  /-- A key leads through a value that has no parts. -/
  | noContainer
  /-- A list or a mapping of settings has no part of a certain name. -/
  | noSuchSetting
  /-- No parser without a working library. -/
  | parserUnavailable
deriving DecidableEq, Repr

/-- What is said about a fault, where anything is. -/
def Fault.message? : Fault → Option String
  | databaseCopied => some "compilation databases cannot be copied, use take() to move them"
  | parserUnavailable =>
    some "libclang is not properly configured. Parser functionality is unavailable."
  | _ => none

/-- Why an operation ended without a result. -/
inductive Stop where
  | failure (failure : Failure)
  | fault (fault : Fault)
deriving DecidableEq, Repr

abbrev Stop.refused (refusal : Refusal) : Stop := .failure (.invalidArgument refusal)

end UnitLift
