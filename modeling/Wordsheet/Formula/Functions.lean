import Wordsheet.Catalog
import Wordsheet.Decimal.Basic
import Wordsheet.Text.Letters

/-! # Functions

Functions take one double and are found by name in any letter case. The thirteen
built-in ones never fail: outside its domain a function is undefined, and where
a result grows too large it is infinite.
-/

namespace Wordsheet.Formula

open Text

structure Function where
  name : String
  apply : Float → Float

/-- The functions that a formula may use, each under its name in small letters. -/
abbrev Functions := Catalog Function Function.name

namespace Functions

def has (fs : Functions) (name : String) : Bool :=
  fs.contains (smallLetters name)

def named? (fs : Functions) (name : String) : Option (Float → Float) :=
  (fs.get? (smallLetters name)).map (·.apply)

/-- The functions given under names in any letter case; the last of equal names counts. -/
def ofList (given : List Function) : Functions :=
  Catalog.ofList Function.name (given.map fun f => { f with name := smallLetters f.name })

def names (fs : Functions) : List String :=
  fs.keys.mergeSort fun a b => a ≤ b

def undefinedWhere (test : Float → Bool) (f : Float → Float) (x : Float) : Float :=
  if test x then Decimal.undefined else f x

def inUnitRange (x : Float) : Bool :=
  -1.0 ≤ x && x ≤ 1.0

/-- A logarithm: minus infinity at zero and undefined below. -/
def logarithm (f : Float → Float) (x : Float) : Float :=
  if x == 0.0 then -Decimal.infinity
  else if x < 0.0 || x.isNaN then Decimal.undefined
  else f x

/-- A rounding to whole numbers; a result of zero has no sign. -/
def rounding (f : Float → Float) (x : Float) : Float :=
  if x.isFinite then f x + 0.0 else x

def builtin : List Function :=
  [⟨"sin", undefinedWhere Float.isInf Float.sin⟩,
    ⟨"cos", undefinedWhere Float.isInf Float.cos⟩,
    ⟨"tan", undefinedWhere Float.isInf Float.tan⟩,
    ⟨"asin", undefinedWhere (!inUnitRange ·) Float.asin⟩,
    ⟨"acos", undefinedWhere (!inUnitRange ·) Float.acos⟩,
    ⟨"atan", Float.atan⟩,
    ⟨"sqrt", undefinedWhere (· < 0.0) Float.sqrt⟩,
    ⟨"log", logarithm Float.log⟩,
    ⟨"log10", logarithm Float.log10⟩,
    ⟨"exp", Float.exp⟩,
    ⟨"abs", Float.abs⟩,
    ⟨"floor", rounding Float.floor⟩,
    ⟨"ceil", rounding Float.ceil⟩]

def standard : Functions :=
  ofList builtin

end Functions

end Wordsheet.Formula
