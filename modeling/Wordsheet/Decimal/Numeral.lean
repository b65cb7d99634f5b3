import Wordsheet.Decimal.Basic
import Wordsheet.Text.Blank
import Wordsheet.Text.Digit

/-! # Numerals

A numeral is a sign, digits with or without a point, and a power of ten after
`e`; `inf`, `infinity` and `nan` stand for the doubles that are no numbers.
Digits of any script count, a single underscore may stand between two digits and
blanks around the numeral are ignored.
-/

namespace Wordsheet

open Text

inductive Numeral where
  | finite (value : Decimal)
  | infinite (negative : Bool)
  | undefined
  deriving DecidableEq, Repr

namespace Numeral

def toFloat : Numeral → Float
  | .finite value => value.toFloat
  | .infinite negative => if negative then -Decimal.infinity else Decimal.infinity
  | .undefined => Decimal.undefined

/-- The number spelled by digits before and after a point, times a power of ten. -/
def ofDigits (whole fraction : List Char) (power : Int) : Decimal :=
  ⟨false, digitsValue (whole ++ fraction), power - fraction.length⟩

def splitSign : List Char → Bool × List Char
  | '-' :: rest => (true, rest)
  | '+' :: rest => (false, rest)
  | rest => (false, rest)

def splitDigits (cs : List Char) : List Char × List Char :=
  (cs.takeWhile isDigit, cs.dropWhile isDigit)

def splitFraction : List Char → List Char × List Char
  | '.' :: rest => splitDigits rest
  | rest => ([], rest)

/-- The power of ten that a whole text spells after the digits of a numeral. -/
def power? : List Char → Option Int
  | [] => some 0
  | mark :: rest =>
      let (negative, rest) := splitSign rest
      if (mark == 'e' || mark == 'E') && !rest.isEmpty && rest.all isDigit then
        some (if negative then -(digitsValue rest : Int) else digitsValue rest)
      else none

def unsigned? (cs : List Char) : Option Numeral :=
  let word := cs.map Char.toLower
  if word == "inf".toList || word == "infinity".toList then some (.infinite false)
  else if word == "nan".toList then some .undefined
  else
    let (whole, rest) := splitDigits cs
    let (fraction, rest) := splitFraction rest
    if whole.isEmpty && fraction.isEmpty then none
    else (power? rest).map fun power => .finite (ofDigits whole fraction power)

def negate : Numeral → Numeral
  | .finite value => .finite { value with negative := !value.negative }
  | .infinite negative => .infinite (!negative)
  | .undefined => .undefined

def underscoresBetweenDigits (afterDigit : Bool) : List Char → Bool
  | [] => true
  | '_' :: rest =>
      afterDigit && (match rest with | [] => false | c :: _ => isDigit c)
        && underscoresBetweenDigits false rest
  | c :: rest => underscoresBetweenDigits (isDigit c) rest

/-- The blanks that may surround a numeral: all but the information separators of ASCII. -/
def isMargin (c : Char) : Bool :=
  isBlank c && !(28 ≤ c.toNat && c.toNat ≤ 31)

def withoutMargins (cs : List Char) : List Char :=
  ((cs.dropWhile isMargin).reverse.dropWhile isMargin).reverse

def parse? (s : String) : Option Numeral :=
  let cs := withoutMargins s.toList
  if underscoresBetweenDigits false cs then
    let (negative, rest) := splitSign (cs.filter (· != '_'))
    (unsigned? rest).map fun numeral => if negative then numeral.negate else numeral
  else none

end Numeral

end Wordsheet
