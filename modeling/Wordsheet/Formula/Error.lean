import Wordsheet.Text.Quoted

/-! # What can go wrong with a formula

The causes for which a formula has no value. Each has a text for the user and a
code that the event log keeps. A token list that comes from no text can also be
at fault itself; those faults are kept apart.
-/

namespace Wordsheet.Formula

open Text

inductive Error where
  /-- A closing parenthesis without an opening one. -/
  | unexpectedClosing
  /-- An opening parenthesis without a closing one. -/
  | unclosedOpening
  | missingOperand (operator : String)
  | valuesLeft (count : Nat)
  | unrecognizedToken (token : String)
  | missingArgument (function : String)
  | noActiveTable (reference : String)
  | invalidReference (reference table : String)
  | nonNumericCell (reference content : String)
  | invalidConstantName (name : String)
  | unexpectedCharacter (text : String) (position : Nat)
  deriving DecidableEq, Repr

def Error.code : Error → String
  | .unexpectedClosing | .unclosedOpening => "mismatched_parentheses"
  | .missingOperand _ | .valuesLeft _ => "invalid_expression"
  | .unrecognizedToken _ => "unrecognized_token"
  | .missingArgument _ => "invalid_function_call"
  | .noActiveTable _ => "no_active_table"
  | .invalidReference .. => "invalid_cell_reference"
  | .nonNumericCell .. => "non_numeric_cell"
  | .invalidConstantName _ => "invalid_argument"
  | .unexpectedCharacter .. => "unexpected_character"

def Error.message : Error → String
  | .unexpectedClosing => "Mismatched parentheses: unexpected ')'"
  | .unclosedOpening => "Mismatched parentheses: unclosed '('"
  | .missingOperand operator =>
      s!"Invalid expression: operator {quoted operator} needs two operands"
  | .valuesLeft count =>
      s!"Invalid expression: {count} values left on the stack, expected 1"
  | .unrecognizedToken token => s!"Unrecognized token {quoted token}"
  | .missingArgument function =>
      s!"Invalid function invocation: {quoted function} has no argument"
  | .noActiveTable reference => s!"No active table for cell reference {quoted reference}"
  | .invalidReference reference table =>
      s!"Invalid cell reference {quoted reference} in table {quoted table}"
  | .nonNumericCell reference content =>
      s!"Cell {reference} does not contain a numeric value: {quoted content}"
  | .invalidConstantName name => s!"Invalid constant name: {quoted name}"
  | .unexpectedCharacter text position =>
      s!"Unexpected character {quoted text} (at position {position})"

/-- A fault of a token list that no text gives rise to. -/
inductive Fault where
  /-- A token stands for an operator but its text is none. -/
  | unknownOperator (text : String)
  /-- A token stands for a number but its text is no numeral. -/
  | unreadableNumber (text : String)
  deriving DecidableEq, Repr

def Fault.message : Fault → String
  | .unknownOperator text => text
  | .unreadableNumber text => s!"could not convert string to float: {quoted text}"

inductive Failure where
  | error (cause : Error)
  | fault (cause : Fault)
  deriving DecidableEq, Repr

def Failure.message : Failure → String
  | .error cause => cause.message
  | .fault cause => cause.message

end Wordsheet.Formula
