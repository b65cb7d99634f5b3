import Wordsheet.Text.Quoted

/-! # What can go wrong with a table

Each refusal of a table operation names the row, column or table it is about.
-/

namespace Wordsheet

open Text

inductive TableError where
  | noRow (row table : String)
  | noColumn (column table : String)
  | rowExists (row table : String)
  | columnExists (column table : String)
  | repeatedColumns (columns : List String)
  deriving DecidableEq, Repr

def TableError.message : TableError → String
  | .noRow row table => s!"Row {quoted row} does not exist in table {quoted table}"
  | .noColumn column table => s!"Column {quoted column} does not exist in table {quoted table}"
  | .rowExists row table => s!"Row {quoted row} already exists in table {quoted table}"
  | .columnExists column table => s!"Column {quoted column} already exists in table {quoted table}"
  | .repeatedColumns columns => s!"Duplicate column names in {quotedList columns}"

end Wordsheet
