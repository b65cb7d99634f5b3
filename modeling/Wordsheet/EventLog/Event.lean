import Wordsheet.Json.Basic

/-! # Events

What the event log records: a level, what happened, the things it happened to,
a message and the code of an error. A notice becomes an event when it is given
the time; a record of the log is the event as a JSON object.
-/

namespace Wordsheet

inductive Level where
  | info
  | warning
  | error
  deriving DecidableEq, Repr

inductive Happening where
  | tableCreated
  | tableDeleted
  | tableSwitched
  | tableCopied
  | tableImported
  | tableExported
  | formulaEvaluated
  | formulaFailed
  | constantRegistered
  | commandRejected
  deriving DecidableEq, Repr

/-! ## Names -/

def Level.text : Level → String
  | .info => "info"
  | .warning => "warning"
  | .error => "error"

def Happening.text : Happening → String
  | .tableCreated => "table_created"
  | .tableDeleted => "table_deleted"
  | .tableSwitched => "table_switched"
  | .tableCopied => "table_copied"
  | .tableImported => "table_imported"
  | .tableExported => "table_exported"
  | .formulaEvaluated => "formula_evaluated"
  | .formulaFailed => "formula_failed"
  | .constantRegistered => "constant_registered"
  | .commandRejected => "command_rejected"

/-! ## Notices and events -/

structure Notice where
  level : Level
  happening : Happening
  message : String := ""
  context : List (String × Json) := []
  code : Option String := none
  deriving Repr

/-- A notice with its time and the version of the record format. -/
structure Event extends Notice where
  version : Int := 1
  time : String
  deriving Repr

def Notice.at (n : Notice) (time : String) : Event :=
  { n with time }

def Event.toJson (e : Event) : Json :=
  .object
    [("schema_version", .int e.version), ("ts", .text e.time), ("level", .text e.level.text),
      ("event_type", .text e.happening.text), ("context", .object e.context),
      ("message", .text e.message), ("error_code", (e.code.map Json.text).getD .null)]

end Wordsheet
