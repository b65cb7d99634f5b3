import Wordsheet.Session.Basic
import Wordsheet.Table.Grid

/-! # Commands on tables

Making, choosing, copying, removing and showing tables, and taking them from
files and putting them into files.
-/

namespace Wordsheet.Session

def tableNotice (happening : Happening) (message table : String) : Notice :=
  { level := .info, happening, message, context := [("table", .text table)] }

/-- Makes a table and makes it active; a table that is there is only made active. -/
def createTable (s : Session) (table : String) : Outcome :=
  if table == "" then s.refuse "Table name cannot be empty."
  else
    match s.workbook.switchTo table with
    | .ok workbook =>
        (s.withWorkbook workbook).answer s!"Table '{table}' already exists. Switched to it." none
    | .error _ =>
        ((s.withWorkbook (s.workbook.create table)).answer
          s!"Created table '{table}' and set as active." none).noting
            (tableNotice .tableCreated "Table created" table)

def deleteTable (s : Session) (table : String) : Outcome :=
  if s.workbook.hasTable table then
    ((s.withWorkbook (s.workbook.delete table)).answer s!"Deleted table '{table}'." none).noting
      (tableNotice .tableDeleted "Table deleted" table)
  else s.refuse s!"Table '{table}' does not exist."

def switchTable (s : Session) (table : String) : Outcome :=
  match s.workbook.switchTo table with
  | .ok workbook =>
      ((s.withWorkbook workbook).answer s!"Switched to table '{table}'." none).noting
        (tableNotice .tableSwitched "Active table changed" table)
  | .error _ => s.refuse s!"Table '{table}' does not exist."

def copyTable (s : Session) (source destination : String) : Outcome :=
  match s.workbook.copy source destination with
  | .ok workbook =>
      ((s.withWorkbook workbook).answer s!"Copied table '{source}' to '{destination}'." none).noting
        { level := .info, happening := .tableCopied, message := "Table copied",
          context := [("source", .text source), ("destination", .text destination)] }
  | .error (.noTable _) => s.refuse s!"Table '{source}' does not exist."
  | .error (.tableExists _) => s.refuse s!"Table '{destination}' already exists."

def showTable (s : Session) : Outcome :=
  match s.workbook.activeTable? with
  | none => s.refuse "No active table to show. Create one first."
  | some t =>
      if t.rows.size = 0 then s.answer s!"Table '{t.name}' is empty (no rows)." none
      else s.answer s!"Table '{t.name}'." (some (t.toGrid "Row"))

/-- Lists the names of the tables, the active one marked. -/
def listTables (s : Session) : Outcome :=
  let names := s.workbook.names
  if names.isEmpty then s.answer "No tables." none
  else
    let line (name : String) : String :=
      (if s.workbook.active = some name then "* " else "  ") ++ name
    s.answer s!"{names.length} table(s)." (some (String.intercalate "\n" (names.map line)))

/-- Puts the active table into a file. Folders that were made for it stay even if that fails. -/
def exportTable (s : Session) (file : String) : Outcome :=
  s.onTable fun t =>
    let path := s.resolve file
    let (store, refusal) := t.exportTo s.store path s.settings.rowHeader
    let s := { s with store }
    match refusal with
    | some (.header header) => s.abort (.headerNoText header)
    | some cause => s.refuse s!"Export failed: {cause.message}"
    | none =>
        (s.answer s!"Exported table '{t.name}' to {path.text}." none).noting
          { level := .info, happening := .tableExported, message := "Table exported",
            context := [("table", .text t.name), ("path", .text path.text)] }

/-- Takes a table from a file and makes it active, in the place of one with its name. -/
def importTable (s : Session) (file : String) : Outcome :=
  let path := s.resolve file
  match Table.importFrom s.store path none s.settings.rowHeader with
  | .error (.search cause) => s.abort (.noFiles cause)
  | .error (.malformed cause) => s.abort (.malformedFile cause)
  | .error cause => s.refuse s!"Import failed: {cause.message}"
  | .ok t =>
      ((s.withWorkbook (s.workbook.putActive t)).answer
        (s!"Imported table '{t.name}' ({t.rows.size} rows, "
          ++ s!"{t.columns.length} columns) and set as active.") none).noting
        { level := .info, happening := .tableImported, message := "Table imported",
          context := [("table", .text t.name), ("path", .text path.text),
            ("replaced", .bool (s.workbook.hasTable t.name))] }

end Wordsheet.Session
