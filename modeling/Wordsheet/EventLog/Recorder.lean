import Wordsheet.EventLog.Clip
import Wordsheet.EventLog.Records
import Wordsheet.Files.Store

/-! # Recorders

A recorder puts events into the log of a project, or nowhere. Recording never
fails: when a log takes nothing, a warning is given instead, and after a warning
no other one for a while.
-/

namespace Wordsheet

inductive Sink where
  | nowhere
  | log (file : Path)
  /-- A log that takes nothing, for a reason that is already worded. -/
  | broken (reason : String)
  deriving DecidableEq, Repr

/-- A point in time: as a record shows it, and in seconds from some other point. -/
structure Moment where
  text : String
  seconds : Float
  deriving Repr

/-- A sink, how many seconds pass between two warnings, and when the last one was given. -/
structure Recorder where
  sink : Sink := .nowhere
  pause : Float := 60.0
  warned : Option Float := none
  deriving Repr

def logFile (project : Path) : Path :=
  (project.child "logs").child "events.ndjson"

namespace Recorder

def openProject (r : Recorder) (project : Path) (store : Store) :
    Except FileRefusal (Recorder × Store) :=
  match store.makeFolders (project.child "logs") with
  | (_, some refusal) => .error refusal
  | (store, none) => .ok ({ r with sink := .log (logFile project) }, store)

/-- What a sink does with an event: the store after it, or why it took nothing. -/
def deliver (sink : Sink) (store : Store) (e : Event) : Except String Store :=
  match sink with
  | .nowhere => .ok store
  | .broken reason => .error reason
  | .log file =>
      -- the line of an event is made before its log is looked for
      if e.isWritable then (store.append file e.bytes).mapError (·.describe)
      else .error s!"ValueError('{Decimal.limitMessage none}')"

/-- Gives a warning unless the last one is too recent. -/
def warn (r : Recorder) (now : Float) (warning : String) : Recorder × Option String :=
  if r.warned.any fun last => now - last < r.pause then (r, none)
  else ({ r with warned := some now }, some s!"[nlsheet] {warning}")

def record (r : Recorder) (store : Store) (now : Float) (e : Event) :
    Recorder × Store × Option String :=
  match deliver r.sink store { e with context := Json.clipFields e.context } with
  | .ok store => (r, store, none)
  | .error reason =>
      let (r, warning) := r.warn now s!"could not write event {e.happening.text}: {reason}"
      (r, store, warning)

def note (r : Recorder) (store : Store) (now : Moment) (n : Option Notice) :
    Recorder × Store × Option String :=
  match n with
  | none => (r, store, none)
  | some n => r.record store now.seconds (n.at now.text)

end Recorder

end Wordsheet
