import Wordsheet.Command.Basic
import Wordsheet.Command.Words

/-! # Reading commands

The first keyword of a line decides which words follow it. A line that does not
fit exactly is no command.
-/

namespace Wordsheet.Command

/-! ## The words after a name -/

def atEnd {α : Type} (result : α) (cs : List Char) : Option α :=
  if cs.all isGap then some result else none

def lastName? (cs : List Char) : Option String := do
  let (name, cs) ← name? cs
  atEnd name cs

def lastNames? (keyword : String) (cs : List Char) : Option (String × String) := do
  let (first, cs) ← name? cs
  let cs ← after? keyword cs
  return (first, ← lastName? cs)

/-- Whether a keyword that links two parts of a command comes next. -/
def linkComes (cs : List Char) : Bool :=
  ["to", "with", "as"].any fun keyword => (after? keyword cs).isSome

/-- The name that follows another one directly; a linking keyword is no such name. -/
def nextName? (cs : List Char) : Option (String × List Char) :=
  if linkComes cs then none else name? cs

/-! ## Commands by their first keyword -/

def readCreate (cs : List Char) : Option Command := do
  let cs ← after? "table" cs
  let cs ← after? "named" cs
  return .createTable (← lastName? cs)

def readDelete (cs : List Char) : Option Command :=
  match after? "table" cs, afterPlural? "row" cs, afterPlural? "column" cs with
  | some cs, _, _ => (lastName? cs).map .deleteTable
  | none, some cs, _ => (lastItems? cs).map .deleteRows
  | none, none, some cs => (lastItems? cs).map .deleteColumns
  | none, none, none => none

def readSwitch (cs : List Char) : Option Command := do
  let cs ← after? "table" cs
  return .switchTable (← lastName? cs)

def readCopy (cs : List Char) : Option Command := do
  let cs ← after? "table" cs
  let (source, destination) ← lastNames? "to" cs
  return .copyTable source destination

def readShow (cs : List Char) : Option Command := do
  let cs ← after? "table" cs
  atEnd .showTable cs

def readList (cs : List Char) : Option Command := do
  let cs ← after? "tables" cs
  atEnd .listTables cs

def readAdd (cs : List Char) : Option Command :=
  match afterPlural? "row" cs, afterPlural? "column" cs with
  | some cs, _ => (lastItems? cs).map .addRows
  | none, some cs => (lastItems? cs).map .addColumns
  | none, none => none

def readFill (cs : List Char) : Option Command :=
  -- the keyword comes first, so a row of that name is filled only under its name in quotes
  match afterPlural? "column" cs with
  | some cs => do
      let (column, cs) ← name? cs
      let cs ← after? "with" cs
      return .fillColumn column (← lastItems? cs)
  | none => do
      let (row, cs) ← name? cs
      let cs ← after? "with" cs
      return .fillRow row (← lastItems? cs)

def readSet (cs : List Char) : Option Command := do
  let (row, cs) ← name? cs
  let (column, cs) ← nextName? cs
  let cs ← after? "to" cs
  return .setCell row column (← lastText? cs)

def readRename (cs : List Char) : Option Command :=
  match afterPlural? "row" cs, afterPlural? "column" cs with
  | some cs, _ => (lastNames? "to" cs).map fun (old, new) => .renameRow old new
  | none, some cs => (lastNames? "to" cs).map fun (old, new) => .renameColumn old new
  | none, none => none

def readExport (cs : List Char) : Option Command := do
  let cs ← after? "table" cs
  let cs ← after? "to" cs
  return .exportTable (← lastName? cs)

def readImport (cs : List Char) : Option Command := do
  let cs ← after? "table" cs
  let cs ← after? "from" cs
  return .importTable (← lastName? cs)

def readCalculate (cs : List Char) : Option Command :=
  (lastText? cs).map .calculate

def readDefine (cs : List Char) : Option Command :=
  (lastNames? "as" cs).map fun (name, value) => .defineConstant name value

def readHelp (cs : List Char) : Option Command :=
  if cs.all isGap then some (.help none) else (lastName? cs).map fun topic => .help (some topic)

/-- The first keywords and what reads the words after them. -/
def readers : List (String × (List Char → Option Command)) :=
  [("create", readCreate), ("delete", readDelete), ("switch", readSwitch), ("copy", readCopy),
    ("show", readShow), ("list", readList), ("add", readAdd), ("fill", readFill),
    ("set", readSet), ("rename", readRename), ("export", readExport), ("import", readImport),
    ("calc", readCalculate), ("define", readDefine), ("help", readHelp)]

def parse? (line : String) : Option Command :=
  readers.findSome? fun (keyword, read) => (after? keyword line.toList).bind read

end Wordsheet.Command
