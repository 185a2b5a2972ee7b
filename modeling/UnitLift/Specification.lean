import UnitLift.Data.Access
import UnitLift.Database.Loading
import UnitLift.Document
import UnitLift.Text.Base64

/-!
What plain values specify: toolchains, changes of configurations, and how the outside world behaves.
They are the other side of documents, and what they leave out has a default.
-/

namespace UnitLift

open Access

/-- A version whose numbers start at a place of a list. -/
def Version.ofValue (v : Value) (first : Nat := 0) : Version :=
  ⟨int (part v first), int (part v (first + 1)), int (part v (first + 2))⟩

/-- A toolchain, if one is given: its binary, its version, and its directory of system headers. -/
def Toolchain.ofValue? (v : Value) : Except Fault (Option Toolchain) :=
  match v, path (part v 0) with
  | .list _, .path binary => .ok (some ⟨binary, .ofValue v 1, text? (part v 4)⟩)
  | .list _, .other _ => .error .notAPath
  | _, _ => .ok none

/-- A standard by its constant, or else a token. -/
def StandardChoice.ofValue (v : Value) : StandardChoice :=
  match v with
  | .mapping _ => ((Standard.ofConstant? (str v "enum")).map .standard).getD (.token (str v "enum"))
  | _ => .token (print v)

/-- Extensions by their names, in a list or in one text. -/
def Extensions.ofValue (v : Value) : Extensions :=
  let names := match v with
    | .scalar (.text text) => text.splitOn "|"
    | _ => texts v
  Extensions.ofList (names.filterMap Extension.ofName?)

/-- The change of a configuration that a step asks for. -/
def ConfigChange.ofValue? (step : Value) : Option ConfigChange :=
  let enabled := bool step "enabled"
  match str step "do" with
  | "set_standard" =>
    some (.setStandard (.ofValue (field step "token")) (.ofValue (field step "extensions")))
  | "add_include_dir" => some (.addIncludeDir (path (field step "path")))
  | "define_macro" => some (.define (str step "name") (str? step "value"))
  | "undefine_macro" => some (.undefine (str step "name"))
  | "set_compiler_binary" =>
    some (.setBinary (path (field step "binary")) (.ofValue (field step "version")))
  | "set_write_preprocessed" => some (.setWritePreprocessed enabled)
  | "set_fast_preprocessing" => some (.setFastPreprocessing enabled)
  | "set_keep_macro_comments" => some (.setKeepComments enabled)
  | _ => none

/-- The content of a file, as bytes in an encoding or as text. -/
def FileContent.ofValue (v : Value) : FileContent :=
  if has v "b64" then .ofBytes (Text.decodeBase64 (str v "b64")) else .ofText (print v)

/-- What happens when a child process is launched. -/
def ChildScript.ofValue (v : Value) : ChildScript :=
  if has v "launch_error" then .refused (str v "launch_error")
  else .runs
    { stdout := str v "stdout", stderr := str v "stderr", exitCode := int (field v "returncode")
      overruns := bool v "timeout", terminated := bool v "terminate", closed := bool v "close"
      status := int? (field v "poll") }

def ProgramRun.ofValue (v : Value) : ProgramRun :=
  if has v "os_error" then .refused (str v "os_error")
  else if bool v "timeout" then .overran
  else .finished (str v "stdout") (int (field v "returncode"))

def CursorPlace.ofValue (v : Value) : CursorPlace := ⟨text? (part v 0), int (part v 1), int (part v 2)⟩

/-- A cursor without its children. An extent that is left out is the place of the cursor. -/
def CursorData.ofValue (v : Value) : CursorData :=
  let location := CursorPlace.ofValue (field v "at")
  let start := ((v.field? "start").map .ofValue).getD location
  { kind := str? v "kind", spelling := str v "spelling", location, start
    stop := ((v.field? "end").map .ofValue).getD start
    type := str? v "type", usr := (str? v "usr").getD "", comment := (str? v "comment").getD ""
    isDefinition := bool v "definition" }

/-- A cursor with its children, each of which is smaller than the whole. -/
def Cursor.ofValue (v : Value) : Cursor :=
  .node (.ofValue v) ((list v "children").attach.map fun ⟨child, _⟩ => Cursor.ofValue child)
termination_by sizeOf v
decreasing_by exact sizeOf_lt_of_mem_list (by assumption)

def UnitDiagnostic.ofValue (v : Value) : UnitDiagnostic :=
  { severity := int (field v "severity"), message := str v "spelling", place := .ofValue (field v "at") }

/-- What the library answers when it is asked to parse a file. -/
def UnitScript.ofValue (v : Value) : UnitScript :=
  if has v "load_error" then .refused (str v "load_error")
  else if bool v "no_cursor" then .noCursor
  else match v with
    | .mapping _ =>
      .unit ((list v "cursors").map .ofValue) ((list v "diagnostics").map .ofValue)
    | _ => .nothing

def World.ofValue (v : Value) : World :=
  { links := (pairs (field v "links")).map fun (path, target) => (path, print target)
    files := Table.ofList ((pairs (field v "files")).map fun (path, v) => (path, .ofValue v))
    unwritable := texts (field v "unwritable")
    children := (list v "processes").map .ofValue
    units := (list v "units").map .ofValue }

def DatabaseSource.ofValue (v : Value) : DatabaseSource :=
  let directory := str v "build_directory"
  { directory
    files := if has v "existing" then texts (field v "existing")
      else [Path.join directory "compile_commands.json"]
    libraryWorks := bool v "libclang" true
    commands :=
      if has v "load_error" then .error (DatabaseSource.libraryError (str v "load_error"))
      else .ok ((list v "commands").map fun c =>
        ⟨str c "directory", str c "file", texts (field c "arguments")⟩) }

/-- The machine on which a toolchain is looked for. -/
def Host.ofValue (v : Value) : Host :=
  { programs := Table.ofList ((pairs (field v "path")).filterMap fun (name, found) =>
      (text? found).map (name, ·))
    runs := Table.ofList ((pairs (field v "runs")).map fun (command, run) => (command, .ofValue run))
    directories := texts (field v "directories") }

/-- A location, of which parts at the end may be left out. -/
def SourceLocation.ofValue (v : Value) : Except Fault SourceLocation :=
  if 3 < (items v).length then .error .wrongArguments
  else .ok ⟨text? (part v 0), int? (part v 1), int? (part v 2)⟩

def Include.ofValue (v : Value) : Include :=
  { name := print (part v 0), line := int (part v 1), fullPath := text? (part v 2)
    system := (part v 3).isTruthy }

/-- A failure of a class that is raised with arguments, and which of its fields they give; `none` if
the class takes another number of arguments. -/
def Failure.raised? (className : String) (arguments : List Value) :
    Option (Failure × List String) :=
  let message := print (arguments[0]?.getD .null)
  let second := arguments[1]?.getD .null
  let stated (failure : Failure) : Failure × List String := (failure, ["message"])
  let (failure, fields) : Failure × List String := match className with
    | "DatabaseLoadError" => stated (.databaseLoad (.stated message))
    | "ConfigNotFound" =>
      (.configNotFound message (if second.isTruthy then some (print second) else none),
        ["file_name", if second.isTruthy then "message" else ""])
    | "InvalidArgument" => stated (.invalidArgument (.stated message))
    | "PreprocessFailed" =>
      (.preprocessing (.stated message none ""), ["message", "returncode", "stderr"])
    | "ParseFailed" => (.parsing (.stated message none), ["message", "path"])
    | "SourceIOError" => stated (.sourceFile (.stated message))
    | _ => stated (.general message)
  if 1 ≤ arguments.length && arguments.length ≤ fields.length then some (failure, fields) else none

end UnitLift
