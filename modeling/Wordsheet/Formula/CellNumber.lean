import Wordsheet.Decimal.Numeral

/-! # Numbers in cells

A cell holds a number when its text, blanks around it aside, is an optional
sign, digits among which commas may stand after the first one, and optionally a
point and digits; or a point and digits alone. Powers of ten and the words for
infinite and undefined doubles are text here, and so is a number too large for a
double.
-/

namespace Wordsheet.Formula

open Text

/-- Whether a character may stand in the whole part of a number after its first digit. -/
def continuesWhole (c : Char) : Bool :=
  isDigit c || c == ','

/-- The whole part at the head of a text: a digit, then digits and commas. -/
def splitWholePart : List Char → List Char × List Char
  | [] => ([], [])
  | c :: rest =>
      if isDigit c then (c :: rest.takeWhile continuesWhole, rest.dropWhile continuesWhole)
      else ([], c :: rest)

def unsignedCellNumber? (cs : List Char) : Option Decimal :=
  let (whole, rest) := splitWholePart cs
  match rest with
  | [] => if whole.isEmpty then none else some (Numeral.ofDigits (whole.filter isDigit) [] 0)
  | point :: fraction =>
      if point == '.' && fraction.all isDigit && !(whole.isEmpty && fraction.isEmpty) then
        some (Numeral.ofDigits (whole.filter isDigit) fraction 0)
      else none

def cellDecimal? (content : String) : Option Decimal :=
  let (negative, rest) := Numeral.splitSign (trim content.toList)
  (unsignedCellNumber? rest).map fun value => { value with negative }

def cellNumber? (content : String) : Option Float :=
  ((cellDecimal? content).map (·.toFloat)).filter (·.isFinite)

end Wordsheet.Formula
