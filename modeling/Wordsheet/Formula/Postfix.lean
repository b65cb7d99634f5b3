import Wordsheet.Formula.Constants
import Wordsheet.Formula.Functions

/-! # Postfix order

The tokens of a formula are put into the order in which a stack machine takes
them: operands as they come, an operator after its operands, a function after
the closing parenthesis of its argument. Names are marked as constants or
functions on the way, constants first; a name that is neither stays as it is.
Operators of equal rank are taken from the left, and a comma ends what stands
before it.
-/

namespace Wordsheet.Formula

structure Vocabulary where
  constants : Constants
  functions : Functions

def Token.isOpening (t : Token) : Bool :=
  t.kind = .opening

/-- The waiting tokens above the innermost open parenthesis. -/
def aboveOpening (waiting : List Token) : List Token :=
  waiting.takeWhile fun t => !t.isOpening

/-- The waiting tokens from the innermost open parenthesis on. -/
def fromOpening (waiting : List Token) : List Token :=
  waiting.dropWhile fun t => !t.isOpening

/-- Whether a waiting token is an operator that binds at least as tightly as a rank. -/
def Token.bindsAs (rank : Nat) (t : Token) : Bool :=
  t.kind = .operator && (Operator.ofText? t.text).any fun op => rank ≤ op.rank

def splitFunction : List Token → List Token × List Token
  | [] => ([], [])
  | t :: rest => if t.kind = .function then ([t], rest) else ([], t :: rest)

/-- The postfix order of tokens when some others wait for their operands, innermost first. -/
def postfixFrom (known : Vocabulary) (waiting : List Token) :
    List Token → Except Failure (List Token)
  | [] =>
      if waiting.any fun t => t.kind = .opening || t.kind = .closing then
        .error (.error .unclosedOpening)
      else .ok waiting
  | t :: rest =>
      match t.kind with
      | .number | .cell => do
          return t :: (← postfixFrom known waiting rest)
      | .name =>
          if known.constants.has t.text then do
            return t.marked .constant :: (← postfixFrom known waiting rest)
          else if known.functions.has t.text then
            postfixFrom known (t.marked .function :: waiting) rest
          else do
            return t :: (← postfixFrom known waiting rest)
      | .comma => do
          return aboveOpening waiting ++ (← postfixFrom known (fromOpening waiting) rest)
      | .opening => postfixFrom known (t :: waiting) rest
      | .closing =>
          match fromOpening waiting with
          | [] => .error (.error .unexpectedClosing)
          | _ :: outer => do
              -- a function in front of the parenthesis has its argument now
              let (applied, outer) := splitFunction outer
              return aboveOpening waiting ++ applied ++ (← postfixFrom known outer rest)
      | .operator | .function | .constant =>
          match Operator.ofText? t.text with
          | none => .error (.fault (.unknownOperator t.text))
          | some op => do
              let done := waiting.takeWhile (Token.bindsAs op.rank)
              let still := waiting.dropWhile (Token.bindsAs op.rank)
              return done ++ (← postfixFrom known (t :: still) rest)

def toPostfix (known : Vocabulary) (tokens : List Token) : Except Failure (List Token) :=
  postfixFrom known [] tokens

end Wordsheet.Formula
