import Wordsheet.Session.Basic

/-! # Commands on rows, columns and cells

Every one of them changes the active table and no other. Names are taken one by
one where several are given, each with a line of its own in the reply.
-/

namespace Wordsheet.Session

/-! ## Rows and columns by name -/

/-- A change of a table by a name: when it can be made, the change, and what is said of the name
when it is made and when it is not. -/
structure NamedChange where
  applies : Table → String → Bool
  change : Table → String → Table
  done : (name table : String) → String
  skipped : (name table : String) → String

/-- A table after a change by each of some names in order, and what is said of each. -/
def NamedChange.each (c : NamedChange) (t : Table) : List String → Table × List String
  | [] => (t, [])
  | name :: rest =>
      if c.applies t name then
        let (after, lines) := c.each (c.change t name) rest
        (after, c.done name t.name :: lines)
      else
        let (after, lines) := c.each t rest
        (after, c.skipped name t.name :: lines)

def changeEach (s : Session) (c : NamedChange) (names : List String) : Outcome :=
  s.onTable fun t =>
    let (after, lines) := c.each t names
    (s.withTable after).answer (String.intercalate "\n" lines) none

def addRows : NamedChange where
  applies t name := !t.hasRow name
  change := Table.addRow
  done name table := s!"Added row '{name}' to table '{table}'."
  skipped name table := s!"Row '{name}' already exists in table '{table}'."

def deleteRows : NamedChange where
  applies := Table.hasRow
  change := Table.deleteRow
  done name table := s!"Deleted row '{name}' from table '{table}'."
  skipped name table := s!"Row '{name}' does not exist in table '{table}'."

def addColumns : NamedChange where
  applies t name := !t.hasColumn name
  change := Table.addColumn
  done name table := s!"Added column '{name}' to table '{table}'."
  skipped name table := s!"Column '{name}' already exists in table '{table}'."

def deleteColumns : NamedChange where
  applies := Table.hasColumn
  change := Table.deleteColumn
  done name table := s!"Deleted column '{name}' from table '{table}'."
  skipped name table := s!"Column '{name}' does not exist in table '{table}'."

/-! ## Values and names -/

def tableRefusal (s : Session) : TableError → Outcome
  | .noRow row table => s.refuse s!"Row '{row}' does not exist in table '{table}'."
  | .noColumn column table => s.refuse s!"Column '{column}' does not exist in table '{table}'."
  | .rowExists row table => s.refuse s!"Row '{row}' already exists in table '{table}'."
  | .columnExists column table => s.refuse s!"Column '{column}' already exists in table '{table}'."
  | .repeatedColumns columns => s.refuse (TableError.repeatedColumns columns).message

def changed (s : Session) (after : Except TableError Table) (message : String) : Outcome :=
  match after with
  | .ok t => (s.withTable t).answer message none
  | .error cause => s.tableRefusal cause

def listed (values : List String) : String :=
  String.intercalate ", " values

def fillRow (s : Session) (row : String) (values : List String) : Outcome :=
  s.onTable fun t =>
    s.changed (t.fillRow row values) s!"Filled row '{row}' with values: {listed values}"

def fillColumn (s : Session) (column : String) (values : List String) : Outcome :=
  s.onTable fun t =>
    s.changed (t.fillColumn column values) s!"Filled column '{column}' with values: {listed values}"

def renameRow (s : Session) (old new : String) : Outcome :=
  s.onTable fun t => s.changed (t.renameRow old new) s!"Renamed row '{old}' to '{new}'."

def renameColumn (s : Session) (old new : String) : Outcome :=
  s.onTable fun t => s.changed (t.renameColumn old new) s!"Renamed column '{old}' to '{new}'."

end Wordsheet.Session
