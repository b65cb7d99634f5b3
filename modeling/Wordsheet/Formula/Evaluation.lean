import Wordsheet.Formula.CellNumber
import Wordsheet.Formula.Postfix
import Wordsheet.Table.Basic

/-! # Evaluating postfix tokens

A stack machine takes tokens in postfix order and leaves one value. Arithmetic
is that of IEEE doubles, division by zero included; cells are read when their
reference is taken.
-/

namespace Wordsheet.Formula

/-- What a formula is evaluated in: a vocabulary and the active table, if there is one. -/
structure Scope extends Vocabulary where
  table : Option Table

def Operator.apply : Operator → Float → Float → Float
  | .add, a, b => a + b
  | .subtract, a, b => a - b
  | .multiply, a, b => a * b
  | .divide, a, b => a / b

/-- The text of a cell, found by the position of its column; past the end of a row it is empty. -/
def cellText? (table : Table) (row column : String) : Option String :=
  match table.rows.get? row, table.columns.idxOf? column with
  | some found, some index =>
      some (if h : index < found.cells.length then found.cells[index] else "")
  | _, _ => none

def cellValue (table : Option Table) (t : Token) : Except Error Float :=
  match table with
  | none => .error (.noActiveTable t.text)
  | some table =>
      match t.row, t.column with
      | some row, some column =>
          match cellText? table row column with
          | none => .error (.invalidReference t.text table.name)
          | some content =>
              match cellNumber? content with
              | some value => .ok value
              | none => .error (.nonNumericCell t.text content)
      | _, _ => .error (.invalidReference t.text table.name)

def applyOperator (stack : List Float) (t : Token) : Except Error (List Float) :=
  match stack with
  | b :: a :: below =>
      match Operator.ofText? t.text with
      | some op => .ok (op.apply a b :: below)
      | none => .error (.unrecognizedToken t.text)
  | _ => .error (.missingOperand t.text)

def applyFunction (known : Functions) (stack : List Float) (t : Token) :
    Except Error (List Float) :=
  match known.named? t.text with
  | none => .error (.unrecognizedToken t.text)
  | some f =>
      match stack with
      | [] => .error (.missingArgument t.text)
      | x :: below => .ok (f x :: below)

def take (scope : Scope) (stack : List Float) (t : Token) : Except Failure (List Float) :=
  match t.kind with
  | .operator => (applyOperator stack t).mapError .error
  | .number =>
      match Numeral.parse? t.text with
      | some numeral => .ok (numeral.toFloat :: stack)
      | none => .error (.fault (.unreadableNumber t.text))
  | .cell => ((cellValue scope.table t).map (· :: stack)).mapError .error
  | .function => (applyFunction scope.functions stack t).mapError .error
  | .constant =>
      match scope.constants.value? t.text with
      | some value => .ok (value :: stack)
      | none => .error (.error (.unrecognizedToken t.text))
  | _ => .error (.error (.unrecognizedToken t.text))

def takeAll (scope : Scope) (stack : List Float) : List Token → Except Failure (List Float)
  | [] => .ok stack
  | t :: rest => do
      let stack ← take scope stack t
      takeAll scope stack rest

def evaluatePostfix (scope : Scope) (tokens : List Token) : Except Failure Float := do
  match ← takeAll scope [] tokens with
  | [value] => return value
  | stack => throw (.error (.valuesLeft stack.length))

end Wordsheet.Formula
