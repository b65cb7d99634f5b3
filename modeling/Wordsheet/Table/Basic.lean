import Wordsheet.Catalog
import Wordsheet.Table.Error

/-! # Tables

A table has a name, columns in order and rows in the order in which they were
added; a row holds text cells aligned to the columns by position. A row may be
shorter than the columns: what is missing reads as empty, and writing past the
end fills up with empty cells.
-/

namespace Wordsheet

structure Row where
  name : String
  cells : List String
  deriving DecidableEq, Repr

structure Table where
  name : String
  columns : List String
  rows : Catalog Row Row.name
  deriving DecidableEq

def padTo (width : Nat) (cells : List String) : List String :=
  cells ++ List.replicate (width - cells.length) ""

def Row.withCells (row : Row) (change : List String → List String) : Row :=
  { row with cells := change row.cells }

@[simp] theorem Row.name_withCells (row : Row) (change : List String → List String) :
    (row.withCells change).name = row.name := rfl

theorem length_padTo (width : Nat) (cells : List String) :
    (padTo width cells).length = max cells.length width := by
  simp [padTo]
  omega

namespace Table

def empty (name : String) : Table :=
  ⟨name, [], Catalog.empty⟩

/-! ## Questions -/

def hasColumn (t : Table) (column : String) : Bool :=
  t.columns.contains column

def hasRow (t : Table) (row : String) : Bool :=
  t.rows.contains row

/-- The position of the first column of that name. -/
def columnIndex (t : Table) (column : String) : Except TableError Nat :=
  match t.columns.idxOf? column with
  | some index => .ok index
  | none => .error (.noColumn column t.name)

def row (t : Table) (row : String) : Except TableError Row :=
  match t.rows.get? row with
  | some r => .ok r
  | none => .error (.noRow row t.name)

/-- The text of a cell; past the end of a row it is empty. -/
def getCell (t : Table) (row column : String) : Except TableError String := do
  let r ← t.row row
  let index ← t.columnIndex column
  return r.cells.getD index ""

/-! ## Columns -/

/-- Adds a column at the end, with an empty cell at the end of every row. Nothing happens if the
column exists. -/
def addColumn (t : Table) (column : String) : Table :=
  if t.hasColumn column then t
  else
    { t with
      columns := t.columns ++ [column]
      rows := t.rows.map (·.withCells (· ++ [""])) fun _ => rfl }

/-- Removes a column and its cell in every row that reaches so far. Nothing happens if there is no
such column. -/
def deleteColumn (t : Table) (column : String) : Table :=
  match t.columns.idxOf? column with
  | none => t
  | some index =>
      { t with
        columns := t.columns.eraseIdx index
        rows := t.rows.map (·.withCells (·.eraseIdx index)) fun _ => rfl }

def renameColumn (t : Table) (old new : String) : Except TableError Table := do
  let index ← t.columnIndex old
  if new ≠ old ∧ t.hasColumn new then throw (.columnExists new t.name)
  else return { t with columns := t.columns.set index new }

def setAt (width index : Nat) (value : String) (cells : List String) : List String :=
  (padTo width cells).set index value

/-- Gives the rows in order the values in order as their cells of a column. Rows without a value
keep their cell and further values are dropped. -/
def fillColumn (t : Table) (column : String) (values : List String) : Except TableError Table := do
  let index ← t.columnIndex column
  return { t with
    rows := t.rows.overlay (fun r value => r.withCells (setAt (index + 1) index value)) values
      fun _ _ => rfl }

/-! ## Rows -/

/-- Adds a row of empty cells, one for each column. Nothing happens if the row exists. -/
def addRow (t : Table) (row : String) : Table :=
  if t.hasRow row then t
  else { t with rows := t.rows.put ⟨row, List.replicate t.columns.length ""⟩ }

def deleteRow (t : Table) (row : String) : Table :=
  { t with rows := t.rows.erase row }

def renameRow (t : Table) (old new : String) : Except TableError Table := do
  let r ← t.row old
  if new = old then return t
  else if h : t.hasRow new then throw (.rowExists new t.name)
  else
    let fresh := fun hm => h ((t.rows.contains_iff new).2 hm)
    return { t with rows := t.rows.exchange old { r with name := new } fresh }

def fitTo (width : Nat) (cells : List String) : List String :=
  padTo width (cells.take width)

/-- Replaces the cells of a row by values in order; missing ones are empty and further ones are
dropped. -/
def fillRow (t : Table) (row : String) (values : List String) : Except TableError Table := do
  let _ ← t.row row
  return { t with
    rows := t.rows.modify row (·.withCells fun _ => fitTo t.columns.length values) fun _ => rfl }

/-! ## Cells -/

/-- Changes one cell; its row is first filled up to the width of the table. -/
def setCell (t : Table) (row column value : String) : Except TableError Table := do
  let _ ← t.row row
  let index ← t.columnIndex column
  return { t with
    rows := t.rows.modify row (·.withCells (setAt t.columns.length index value)) fun _ => rfl }

/-! ## Copies -/

def copy (t : Table) (name : String) : Table :=
  { t with name := name }

/-- The rows with exactly one cell for each column. -/
def fittedRows (t : Table) : Catalog Row Row.name :=
  t.rows.map (·.withCells (fitTo t.columns.length)) fun _ => rfl

def ofColumns (name : String) (columns : List String) (rows : Catalog Row Row.name) :
    Except TableError Table :=
  if columns.Nodup then
    .ok ⟨name, columns, rows.map (·.withCells (·.take columns.length)) fun _ => rfl⟩
  else .error (.repeatedColumns columns)

def describe (t : Table) : String :=
  s!"Table({Text.quoted t.name}, columns={t.columns.length}, rows={t.rows.size})"

end Table

end Wordsheet
