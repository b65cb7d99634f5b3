/-! # Commands

What a line can ask for: to make, choose, show and remove tables, to change rows,
columns and cells, to calculate, and to move tables to and from files.
-/

namespace Wordsheet

inductive Command where
  | createTable (table : String)
  | deleteTable (table : String)
  | switchTable (table : String)
  | copyTable (source destination : String)
  | showTable
  | listTables
  | addRows (rows : List String)
  | deleteRows (rows : List String)
  | addColumns (columns : List String)
  | deleteColumns (columns : List String)
  | fillRow (row : String) (values : List String)
  | fillColumn (column : String) (values : List String)
  | setCell (row column value : String)
  | renameRow (old new : String)
  | renameColumn (old new : String)
  | exportTable (file : String)
  | importTable (file : String)
  | calculate (expression : String)
  | defineConstant (name value : String)
  | help (topic : Option String)
  deriving DecidableEq, Repr

end Wordsheet
