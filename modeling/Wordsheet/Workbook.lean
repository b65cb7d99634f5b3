import Wordsheet.Table.Basic

/-! # Workbooks

A workbook keeps tables under names, in the order in which they were created,
and one of them may be active. A table also has a name of its own; that it is kept
under that name is nothing that the types say.
-/

namespace Wordsheet

/-- A table and the name that it is kept under. -/
structure KeptTable where
  key : String
  table : Table
  deriving DecidableEq

structure Workbook where
  tables : Catalog KeptTable KeptTable.key
  /-- The name that the active table is kept under. -/
  active : Option String
  deriving DecidableEq

inductive WorkbookError where
  | noTable (table : String)
  | tableExists (table : String)
  deriving DecidableEq, Repr

def WorkbookError.message : WorkbookError → String
  | .noTable table => s!"Table {Text.quoted table} does not exist"
  | .tableExists table => s!"Table {Text.quoted table} already exists"

namespace Workbook

def empty : Workbook :=
  ⟨Catalog.empty, none⟩

def names (w : Workbook) : List String :=
  w.tables.keys

def hasTable (w : Workbook) (name : String) : Bool :=
  w.tables.contains name

def table? (w : Workbook) (name : String) : Option Table :=
  (w.tables.get? name).map KeptTable.table

def activeTable? (w : Workbook) : Option Table :=
  w.active.bind w.table?

def putTable (w : Workbook) (name : String) (t : Table) : Workbook :=
  { w with tables := w.tables.put ⟨name, t⟩ }

/-- Adds an empty table and makes it active. Nothing happens if the table exists. -/
def create (w : Workbook) (name : String) : Workbook :=
  if w.hasTable name then w
  else { w.putTable name (Table.empty name) with active := some name }

def putActive (w : Workbook) (t : Table) : Workbook :=
  { w.putTable t.name t with active := some t.name }

/-- Puts another table in the place of the active one, whatever the other is called. -/
def changeActive (w : Workbook) (t : Table) : Workbook :=
  match w.active with
  | some name => w.putTable name t
  | none => w

def switchTo (w : Workbook) (name : String) : Except WorkbookError Workbook :=
  if w.hasTable name then .ok { w with active := some name } else .error (.noTable name)

/-- Removes a table; if it was active, no table is. Nothing happens if there is no such table. -/
def delete (w : Workbook) (name : String) : Workbook :=
  if w.hasTable name then
    ⟨w.tables.erase name, if w.active = some name then none else w.active⟩
  else w

def copy (w : Workbook) (source destination : String) : Except WorkbookError Workbook :=
  match w.table? source with
  | none => .error (.noTable source)
  | some t =>
      if w.hasTable destination then .error (.tableExists destination)
      else .ok (w.putTable destination (t.copy destination))

end Workbook

end Wordsheet
