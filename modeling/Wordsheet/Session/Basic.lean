import Wordsheet.Csv.Exchange
import Wordsheet.EventLog.Event
import Wordsheet.Settings
import Wordsheet.Workbook

/-! # Sessions

A session is a workbook with an engine for its formulas, the settings of a
project, and the files that tables come from and go to. A command answers with a
reply, may leave a notice for the event log, and in rare cases is aborted; then
the session is as it was.
-/

namespace Wordsheet

structure Session where
  workbook : Workbook
  engine : Formula.Engine
  settings : Settings
  /-- The folder in which relative paths of commands start. -/
  base : Path
  store : Store

structure Reply where
  ok : Bool
  message : String
  output : Option String := none
  deriving DecidableEq, Repr

inductive Abort where
  | noFiles (cause : SearchError)
  | malformedFile (cause : Csv.ReadError)
  | headerNoText (header : Yaml)
  | fault (cause : Formula.Fault)
  deriving Repr

def Abort.message : Abort → String
  | .noFiles cause => cause.message
  | .malformedFile cause => cause.message
  | .headerNoText header => headerMessage header
  | .fault cause => cause.message

structure Outcome where
  session : Session
  reply : Except Abort Reply
  notice : Option Notice := none

def Outcome.noting (o : Outcome) (n : Notice) : Outcome :=
  { o with notice := some n }

namespace Session

def start (settings : Settings) (engine : Formula.Engine) (base : Path) (store : Store) :
    Session :=
  ⟨Workbook.empty, engine, settings, base, store⟩

/-! ## Outcomes -/

def refuse (s : Session) (message : String) : Outcome :=
  ⟨s, .ok ⟨false, message, none⟩, none⟩

def answer (s : Session) (message : String) (output : Option String) : Outcome :=
  ⟨s, .ok ⟨true, message, output⟩, none⟩

def abort (s : Session) (cause : Abort) : Outcome :=
  ⟨s, .error cause, none⟩

def withWorkbook (s : Session) (workbook : Workbook) : Session :=
  { s with workbook }

/-- The session with a table in the place of the active one. -/
def withTable (s : Session) (t : Table) : Session :=
  s.withWorkbook (s.workbook.changeActive t)

def onTable (s : Session) (run : Table → Outcome) : Outcome :=
  match s.workbook.activeTable? with
  | some t => run t
  | none => s.refuse "No active table. Create a table first."

def resolve (s : Session) (file : String) : Path :=
  s.base.join (Path.ofText file)

end Session

end Wordsheet
