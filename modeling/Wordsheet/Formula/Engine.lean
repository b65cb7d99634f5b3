import Wordsheet.Formula.Evaluation

/-! # Formula engines

An engine owns a vocabulary and says whether lexing is strict. It turns the text
of a formula into tokens, into postfix order and into a value.
-/

namespace Wordsheet.Formula

structure Engine extends Vocabulary where
  strict : Bool

namespace Engine

def standard : Engine :=
  ⟨⟨Constants.standard, Functions.standard⟩, false⟩

def register (e : Engine) (name : String) (value : Float) : Except Error Engine :=
  (e.constants.register name value).map fun constants => { e with constants }

def tokenize (e : Engine) (text : String) : Except Error (List Token) :=
  Formula.tokenize e.strict text

def toPostfix (e : Engine) (text : String) : Except Failure (List Token) := do
  let tokens ← (e.tokenize text).mapError .error
  Formula.toPostfix e.toVocabulary tokens

def evaluatePostfix (e : Engine) (tokens : List Token) (table : Option Table) :
    Except Failure Float :=
  Formula.evaluatePostfix ⟨e.toVocabulary, table⟩ tokens

/-- The value of a formula, its leading mark taken off. -/
def evaluate (e : Engine) (text : String) (table : Option Table) : Except Failure Float := do
  e.evaluatePostfix (← e.toPostfix text) table

end Engine

end Wordsheet.Formula
