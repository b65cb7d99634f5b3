import Wordsheet.Table.Basic

/-! # Frames

A frame is a heading of distinct names over records as wide as the heading; an
entry of a record may be missing. A table is a frame whose first column holds
the names of the rows. Going from a table to a frame fills every row up to the
columns; going back reads missing entries as empty.
-/

namespace Wordsheet

/-- Named columns of entries, record by record. -/
structure Frame where
  names : List String
  records : List (List (Option String))
  distinct : names.Nodup
  even : ∀ record ∈ records, record.length = names.length

inductive FrameError where
  | headerTaken (header : String)
  | firstColumn (header : String) (found : List String)
  | repeatedRows (header : String)
  deriving DecidableEq, Repr

def FrameError.message : FrameError → String
  | .headerTaken header =>
      s!"Column {Text.quoted header} collides with the row-name header; "
        ++ "rename it before exporting"
  | .firstColumn header found =>
      s!"Expected first column {Text.quoted header}, found {Text.quotedList found}"
  | .repeatedRows header => s!"Duplicate row names in column {Text.quoted header}"

namespace Table

/-- The columns of a table by name, each with the position of its last occurrence. -/
def columnPositions (t : Table) : Catalog (String × Nat) Prod.fst :=
  Catalog.ofList Prod.fst t.columns.zipIdx

def toFrame (t : Table) (header : String) : Except FrameError Frame :=
  let columns := t.columnPositions
  if free : header ∈ columns.keys then .error (.headerTaken header)
  else .ok {
    names := header :: columns.keys
    records := t.fittedRows.entries.map fun row =>
      some row.name :: columns.entries.map fun column => some (row.cells.getD column.2 "")
    distinct := List.nodup_cons.2 ⟨free, columns.distinct⟩
    even := by simp [Catalog.keys] }

end Table

namespace Frame

def rowOf : List (Option String) → Row
  | [] => ⟨"", []⟩
  | name :: cells => ⟨name.getD "", cells.map (·.getD "")⟩

/-- The table of a frame whose first column, under a header, holds the row names. -/
def toTable (f : Frame) (name header : String) : Except FrameError Table :=
  match f.names with
  | [] => .error (.firstColumn header [])
  | first :: columns =>
      if first ≠ header then .error (.firstColumn header [first])
      else
        let rows := f.records.map rowOf
        if distinct : (rows.map Row.name).Nodup then .ok ⟨name, columns, ⟨rows, distinct⟩⟩
        else .error (.repeatedRows header)

end Frame

end Wordsheet
