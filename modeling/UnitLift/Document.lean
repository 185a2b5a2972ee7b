import UnitLift.Batch
import UnitLift.Compile.Detection
import UnitLift.Data.Value

namespace UnitLift

def Standard.constant (standard : Standard) : String := "CPP_" ++ standard.version.toUpper

def Standard.ofConstant? (name : String) : Option Standard :=
  Standard.all.find? (·.constant == name)

def Extension.ofName? (name : String) : Option Extension := Extension.all.find? (·.name == name)

def Severity.ofName? (name : String) : Option Severity :=
  Severity.all.find? (·.level.name == name)

def Stage.name : Stage → String
  | idle => "idle"
  | preprocessing => "preprocessing"
  | parsing => "parsing"
  | lifting => "lifting"
  | done => "done"
  | failed => "failed"

def Standard.document (standard : Standard) : List (String × Value) :=
  [("name", .text standard.constant), ("value", .text (standard.spelling false)),
   ("spelling", .text (standard.spelling false)), ("gnu", .text (standard.spelling true))]

/-- The flags of a configuration, and the language it selects if that is known. -/
def AnyConfig.document (config : AnyConfig) : List (String × Value) :=
  ("flags", .texts config.flags) :: match config with
    | library config =>
      [("standard", .text (config.standard.spelling false)),
       ("extensions", .texts (config.extensions.toList.map Extension.name))]
    | plain _ => []

/-- The flags of a configuration and the language it selects. -/
def CompileConfig.document (config : CompileConfig) : Value :=
  .record (AnyConfig.library config).document

def ConfigView.document (view : ConfigView) : Value :=
  .record
    [("clang_binary", .text view.binary), ("clang_version", .int view.version),
     ("flags", .texts view.arguments), ("write_preprocessed", .bool view.writePreprocessed),
     ("fast_preprocessing", .bool view.fastPreprocessing),
     ("keep_macro_comments", .bool view.keepComments)]

def Version.parts (version : Version) : List Value :=
  [.int version.major, .int version.minor, .int version.patch]

def Toolchain.document (toolchain : Toolchain) : Value :=
  .list (.text toolchain.binary :: toolchain.version.parts ++
    [.optional .text toolchain.systemIncludeDir])

def HostCall.document : HostCall → Value
  | which name => .list [.text "which", .scalar name]
  | run binary argument => .texts ["run", binary, argument]
  | isDirectory path => .texts ["isdir", path]

def Failure.document (failure : Failure) : List (String × Value) :=
  [("error", .text failure.kind.name), ("message", .text failure.message)] ++ match failure with
    | configNotFound file _ => [("file_name", .text file)]
    | preprocessing cause =>
      [("returncode", .optional .int cause.code), ("stderr", .text cause.stderr)]
    | parsing cause => [("path", .optional .text cause.path)]
    | _ => []

def SourceLocation.document (location : SourceLocation) : Value :=
  .list [.optional .text location.file, .optional .int location.line,
    .optional .int location.column]

def Report.document (report : Report) : Value :=
  let diagnostic := report.diagnostic
  .record
    [("source", .text report.source), ("message", .text diagnostic.message),
     ("location", diagnostic.location.document), ("text", .text diagnostic.location.text),
     ("severity", .text diagnostic.severity.level.name)]

def Journal.document (journal : Journal) : Value :=
  .list (journal.entries.map fun entry =>
    .texts [entry.level.name, entry.channel.name, entry.message])

def Command.document (command : Command) : Value :=
  .list [.text command.directory, .texts command.arguments]

def Include.document (entry : Include) : Value :=
  .record
    [("name", .text entry.name), ("line", .int entry.line),
     ("full_path", .optional .text entry.fullPath), ("system", .bool entry.system)]

def MainFile.document (file : MainFile) : List (String × Value) :=
  [("source", .text file.source), ("includes", .list (file.includes.map Include.document))]

def Definitions.document (definitions : Definitions) : Value :=
  .list (definitions.entries.map fun (declarator, replacement) => .texts [declarator, replacement])

def Preprocessed.document (result : Preprocessed) : Value :=
  .record
    [("source", .text result.source), ("includes", .list (result.includes.map Include.document)),
     ("macros", result.definitions.document),
     ("full_include_paths", .bool result.fullIncludePaths)]

/-- A launch of a child process, with the stage of the parser if that matters. -/
def Launch.document (withStage : Bool) (launch : Launch) : Value :=
  .record
    ([("args", .texts launch.arguments), ("stdin", .optional .text launch.input),
      ("kills", .int launch.kills), ("waits", .int launch.waits),
      ("stdin_pipe", .bool launch.piped)] ++
      if withStage then [("state", .text launch.stage.name)] else [])

def ParseRequest.document (request : ParseRequest) : Value :=
  .record
    [("path", .text request.path), ("args", .texts request.arguments),
     ("unsaved_files", .list (request.unsaved.map fun (path, text) => .texts [path, text])),
     ("options", .int request.options), ("state", .text request.stage.name),
     ("lift_state", .optional (.text ·.name) request.liftStage)]

/-- What was asked of the world, and what was reported; `parses` says whether files were parsed. -/
def Session.transcript (parses : Bool) (session : Session) : List (String × Value) :=
  [("calls", .list (session.world.launches.map (Launch.document parses))),
   ("written", .list (session.world.written.map fun (path, text) => .texts [path, text])),
   ("diagnostics", .list (session.sink.records.map Report.document))] ++
    if parses then [("parses", .list (session.world.requests.map ParseRequest.document))] else []

def Entity.document (entity : Entity) (parentUuid : Option String) (children : List Value) : Value :=
  let extent := entity.extent
  .record
    ([("uuid", .text entity.uuid), ("usr", .text entity.usr), ("name", .text entity.name),
      ("kind", .text entity.kind), ("parent_uuid", .optional .text parentUuid),
      ("location", .record
        [("file", .text extent.file), ("line", .int extent.line), ("column", .int extent.column),
         ("end_line", .int extent.endLine), ("end_column", .int extent.endColumn)]),
      ("type_info", .optional .text entity.typeInfo), ("comment", .text entity.comment),
      ("is_definition", .bool entity.isDefinition), ("children", .list children)] ++
      match entity.facts with
      | some facts =>
        [("had_errors", .bool facts.hadErrors),
         ("full_include_paths", .bool facts.fullIncludePaths),
         ("includes", .list (facts.includes.map Include.document))]
      | none => [])

mutual

def EntityTree.document : EntityTree → Value
  | .node entity parentUuid children =>
    entity.document parentUuid (EntityTree.documents children)

/-- Entities with all that is below them. -/
def EntityTree.documents : List EntityTree → List Value
  | [] => []
  | tree :: rest => tree.document :: EntityTree.documents rest

end

/-- What tells two entities of a file apart for a reader. -/
def Entity.signature (entity : Entity) : Value :=
  let extent := entity.extent
  .list [.text entity.kind, .text entity.name, .text entity.usr, .int extent.line,
    .int extent.column, .int extent.endLine, .int extent.endColumn]

namespace EntityGraph

def document (graph : EntityGraph) (id : EntityId) : Value :=
  .optional EntityTree.document (graph.tree id)

def summary (graph : EntityGraph) (id : EntityId) : Value :=
  .optional (.text ·.summary) (graph.get? id)

def signature (graph : EntityGraph) (id : EntityId) : Value :=
  .optional Entity.signature (graph.get? id)

def name (graph : EntityGraph) (id : EntityId) : Value := .optional (.text ·.name) (graph.get? id)

/-- Whether errors were found in the file with a root. -/
def hadErrors (graph : EntityGraph) (id : EntityId) : Bool :=
  ((graph.get? id).bind (·.facts)).any (·.hadErrors)

end EntityGraph

def Batch.document (batch : Batch) : List (String × Value) :=
  let graph := batch.session.graph
  [("files", .list (batch.files.map graph.name)), ("had_errors", .bool batch.hadErrors),
   ("errors", .list (batch.errors.map fun (path, failure) =>
     .list [.text path, .record failure.document])),
   ("indexed", .list (batch.session.index.files.values.map graph.name))]

end UnitLift
