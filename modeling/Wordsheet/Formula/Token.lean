/-! # Tokens

A formula is a row of tokens: numbers, cell references, names, operators,
parentheses and commas. Converting a formula marks each known name as a function
or a constant.
-/

namespace Wordsheet.Formula

inductive Kind where
  | number
  | cell
  | name
  | operator
  | opening
  | closing
  | comma
  | function
  | constant
  deriving DecidableEq, Repr

/-- A token: its kind, its text, and the row and column that a cell reference names. -/
structure Token where
  kind : Kind
  text : String
  row : Option String := none
  column : Option String := none
  deriving DecidableEq, Repr

def Token.marked (t : Token) (kind : Kind) : Token :=
  { t with kind }

def Token.cellRef (row column : String) : Token :=
  ⟨.cell, row ++ "." ++ column, some row, some column⟩

inductive Operator where
  | add
  | subtract
  | multiply
  | divide
  deriving DecidableEq, Repr

namespace Operator

def text : Operator → String
  | .add => "+"
  | .subtract => "-"
  | .multiply => "*"
  | .divide => "/"

def ofText? : String → Option Operator
  | "+" => some .add
  | "-" => some .subtract
  | "*" => some .multiply
  | "/" => some .divide
  | _ => none

@[simp] theorem ofText?_text (op : Operator) : ofText? op.text = some op := by
  cases op <;> rfl

/-- How tightly an operator binds: multiplication and division tighter than the others. -/
def rank : Operator → Nat
  | .add | .subtract => 1
  | .multiply | .divide => 2

end Operator

end Wordsheet.Formula
