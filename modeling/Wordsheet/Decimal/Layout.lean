import Wordsheet.Decimal.Shortest

/-! # Layouts of numbers

The two ways a double is written. The plain layout never uses a power of ten and
drops the point of a whole number; it is what cells and answers show. The full
layout marks every finite double as one: it keeps a digit after the point, and
turns to a power of ten from ten to the sixteenth and below one ten-thousandth.
-/

namespace Wordsheet.Decimal

/-- The digits before and after the point when the point stands after the first `point` digits. -/
def positional (ds : List Char) (point : Int) : List Char × List Char :=
  if point ≤ 0 then (['0'], List.replicate point.natAbs '0' ++ ds)
  else (ds.take point.toNat ++ List.replicate (point.toNat - ds.length) '0', ds.drop point.toNat)

def signText (negative : Bool) : List Char :=
  if negative then ['-'] else []

/-- A number written without a power of ten and without a point when it is whole. -/
def plainText (d : Decimal) : List Char :=
  let (whole, fraction) := positional (digits d.coefficient) d.magnitude
  signText d.negative ++ whole ++ (if fraction.isEmpty then [] else '.' :: fraction)

def powerText (power : Int) : List Char :=
  let ds := digits power.natAbs
  'e' :: (if power < 0 then '-' else '+') :: List.replicate (2 - ds.length) '0' ++ ds

def fullText (d : Decimal) : List Char :=
  let ds := digits d.coefficient
  let power := d.magnitude - 1
  let body :=
    if -4 ≤ power && power < 16 then
      let (whole, fraction) := positional ds d.magnitude
      whole ++ '.' :: (if fraction.isEmpty then ['0'] else fraction)
    else
      ds.take 1 ++ (if ds.length ≤ 1 then [] else '.' :: ds.drop 1) ++ powerText power
  signText d.negative ++ body

end Wordsheet.Decimal

namespace Wordsheet

def fullText (x : Float) : String :=
  if x.isNaN then "nan"
  else if x.isInf then (if x < 0.0 then "-inf" else "inf")
  else String.ofList (Decimal.shortest x).fullText

/-- A double as cells and answers show it; both zeros are `0`. -/
def plainText (x : Float) : String :=
  if !x.isFinite then fullText x
  else if x == 0.0 then "0"
  else String.ofList (Decimal.shortest x).plainText

end Wordsheet
