import UnitLift.Journal

namespace UnitLift

inductive Severity where
  | debug
  | info
  | warning
  | error
  | critical
deriving DecidableEq, Repr

namespace Severity

/-- Severities in increasing order. -/
def all : List Severity := [debug, info, warning, error, critical]

/-- The place of a severity in the order. -/
def rank : Severity → Nat
  | debug => 0
  | info => 1
  | warning => 2
  | error => 3
  | critical => 4

def level : Severity → Level
  | debug => .debug
  | info => .info
  | warning => .warning
  | error => .error
  | critical => .critical

/-- The name of a severity in journal messages. -/
def label : Severity → String
  | debug => "debug"
  | info => "info"
  | warning => "warning"
  | error => "error"
  | critical => "critical"

end Severity

/-- A place in a source file, as far as it is known. -/
structure SourceLocation where
  file : Option String := none
  line : Option Int := none
  column : Option Int := none
deriving DecidableEq, Repr

/-- A location up to its first unknown part. -/
def SourceLocation.text (location : SourceLocation) : String :=
  match location.file with
  | none => "<unknown>"
  | some file =>
    if file.isEmpty then "<unknown>"
    else
      match location.line, location.column with
      | none, _ => file
      | some line, none => file ++ ":" ++ toString line
      | some line, some column => file ++ ":" ++ toString line ++ ":" ++ toString column

/-- What a tool has to say about a source file. -/
structure Diagnostic where
  message : String
  location : SourceLocation := {}
  severity : Severity := .info
deriving DecidableEq, Repr

/-- A diagnostic together with the tool that emitted it. -/
structure Report where
  source : String
  diagnostic : Diagnostic
deriving DecidableEq, Repr

def Report.entry (report : Report) : Entry :=
  let diagnostic := report.diagnostic
  { level := diagnostic.severity.level
    channel := .diagnostic
    message := "[" ++ report.source ++ "] [" ++ diagnostic.severity.label ++ "] " ++
      diagnostic.location.text ++ ": " ++ diagnostic.message }

/-- What a sink does with the diagnostics it does not drop. -/
inductive Delivery where
  | record
  | forward
deriving DecidableEq, Repr

structure Sink where
  delivery : Delivery := .record
  verbose : Bool := true
  /-- What was recorded, in order. -/
  records : List Report := []
deriving DecidableEq, Repr

namespace Sink

/-- A sink that records, verbose from the start. -/
def recording : Sink := {}

/-- A sink that forwards to the journal. -/
def forwarding (verbose : Bool) : Sink := { delivery := .forward, verbose }

def accepts (sink : Sink) (diagnostic : Diagnostic) : Bool :=
  diagnostic.severity != .debug || sink.verbose

/-- Hands a report to a sink: whether it was let pass, the sink, and the journal after it. -/
def log (sink : Sink) (journal : Journal) (report : Report) : Bool × Sink × Journal :=
  if sink.accepts report.diagnostic then
    match sink.delivery with
    | .record => (true, { sink with records := sink.records ++ [report] }, journal)
    | .forward => (true, sink, journal.add report.entry)
  else (false, sink, journal)

def diagnostics (sink : Sink) : List Diagnostic := sink.records.map Report.diagnostic

def ofSeverity (sink : Sink) (severity : Severity) : List Diagnostic :=
  sink.diagnostics.filter (·.severity == severity)

end Sink

end UnitLift
