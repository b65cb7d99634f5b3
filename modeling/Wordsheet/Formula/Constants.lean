import Wordsheet.Catalog
import Wordsheet.Formula.Lexer
import Wordsheet.Text.Letters

/-! # Constants

Constants are found by name in any letter case. A later registration of a name
replaces the value and the spelling of an earlier one.
-/

namespace Wordsheet.Formula

open Text

structure Constant where
  name : String
  value : Float
  deriving DecidableEq, Repr

/-- What a constant is found by: its name in capital letters. -/
def Constant.key (c : Constant) : String :=
  capitalLetters c.name

abbrev Constants := Catalog Constant Constant.key

namespace Constants

def has (cs : Constants) (name : String) : Bool :=
  cs.contains (capitalLetters name)

def value? (cs : Constants) (name : String) : Option Float :=
  (cs.get? (capitalLetters name)).map (·.value)

/-- Registers a constant; its name has to be a name of the formula language. -/
def register (cs : Constants) (name : String) (value : Float) : Except Error Constants :=
  if isName name then .ok (cs.put ⟨name, value⟩) else .error (.invalidConstantName name)

def registerAll (cs : Constants) (given : List Constant) : Except Error Constants :=
  given.foldlM (fun cs c => cs.register c.name c.value) cs

def sorted (cs : Constants) : List Constant :=
  cs.entries.mergeSort fun a b => a.key ≤ b.key

/-- The names as they were last spelled, in order. -/
def names (cs : Constants) : List String :=
  (cs.entries.map (·.name)).mergeSort fun a b => a ≤ b

def standard : Constants :=
  Catalog.ofList Constant.key
    [⟨"PI", Float.ofBits 0x400921fb54442d18⟩, ⟨"E", Float.ofBits 0x4005bf0a8b145769⟩]

end Constants

end Wordsheet.Formula
