import Wordsheet.Decimal.Numeral
import Wordsheet.Yaml.Basic

/-! # Plain scalars

What a text without quotes stands for: nothing, a truth value, a whole number in
base two, eight, ten, sixteen or sixty, a double, a date, a time, or itself.
Underscores may stand among digits. The signs reserved for merging and for default
values stand for nothing that a settings file can hold. A text that spells a number
or a date may still have no value: digits in base ten may be too many, and a month
has only so many days.
-/

namespace Wordsheet.Yaml

open Text

/-! ## Words -/

/-- A word in small letters, with a capital letter first, or in capital letters. -/
def spellings (word : String) : List (List Char) :=
  let small := word.toList
  [small, small.modifyHead Char.toUpper, small.map Char.toUpper]

def isOneOf (words : List String) (cs : List Char) : Bool :=
  words.any fun word => (spellings word).contains cs

def word? (cs : List Char) : Option Yaml :=
  if cs == [] || cs == ['~'] || isOneOf ["null"] cs then some .null
  else if isOneOf ["yes", "true", "on"] cs then some (.bool true)
  else if isOneOf ["no", "false", "off"] cs then some (.bool false)
  else none

/-! ## Whole numbers -/

def isDigitOrLow (c : Char) : Bool :=
  isPlainDigit c || c == '_'

/-- Whether a text starts with a digit and goes on with digits and underscores. -/
def isDigits (cs : List Char) : Bool :=
  (cs.head?.any isPlainDigit) && cs.all isDigitOrLow

def withoutLows (cs : List Char) : List Char :=
  cs.filter (· != '_')

def splitColons : List Char → List (List Char)
  | [] => [[]]
  | c :: rest =>
      match c == ':', splitColons rest with
      | true, parts => [] :: parts
      | false, part :: parts => (c :: part) :: parts
      | false, [] => [[c]]

/-- Whether a part is a number below sixty in one or two digits. -/
def isSixtieth : List Char → Bool
  | [a] => isPlainDigit a
  | [a, b] => '0' ≤ a && a ≤ '5' && isPlainDigit b
  | _ => false

def sixtiesValue (parts : List (List Char)) : Nat :=
  parts.foldl (fun value part => 60 * value + valueInBase 10 part) 0

def whole? (cs : List Char) : Option Nat :=
  match cs with
  | '0' :: 'b' :: ds =>
      if !ds.isEmpty && ds.all fun c => c == '0' || c == '1' || c == '_' then
        some (valueInBase 2 (withoutLows ds))
      else none
  | '0' :: 'x' :: ds =>
      if !ds.isEmpty && ds.all fun c => (hexValue? c).isSome || c == '_' then
        some (valueInBase 16 (withoutLows ds))
      else none
  | '0' :: ds =>
      if ds.all fun c => ('0' ≤ c && c ≤ '7') || c == '_' then
        some (valueInBase 8 (withoutLows ds))
      else none
  | cs =>
      match splitColons cs with
      | [ds] => if isDigits ds then some (valueInBase 10 (withoutLows ds)) else none
      | ds :: parts =>
          if isDigits ds && parts.all isSixtieth then
            some (sixtiesValue (withoutLows ds :: parts))
          else none
      | [] => none

/-! ## Doubles -/

def isPower : List Char → Bool
  | [] => true
  | mark :: sign :: ds =>
      (mark == 'e' || mark == 'E') && (sign == '+' || sign == '-') && !ds.isEmpty
        && ds.all isPlainDigit
  | _ => false

/-- The double that a number with parts in base sixty is, its last part first. -/
def sixtiesFloat : (base : Float) → List Float → Float
  | _, [] => 0.0
  | base, part :: rest => part * base + sixtiesFloat (60.0 * base) rest

def numeralFloat (cs : List Char) : Float :=
  ((Numeral.unsigned? (withoutLows cs)).map (·.toFloat)).getD 0.0

def fraction? (cs : List Char) : Option Float :=
  let before := cs.takeWhile (· != '.')
  match cs.dropWhile (· != '.') with
  | [] => none
  | _ :: after =>
      let power := after.dropWhile isDigitOrLow
      match splitColons before with
      | [ds] =>
          if isDigits ds && isPower power then some (numeralFloat cs) else none
      | ds :: parts =>
          if isDigits ds && parts.all isSixtieth && power.isEmpty then
            let last := (parts.getLast?.getD []) ++ '.' :: after
            some (sixtiesFloat 1.0 ((ds :: parts.dropLast ++ [last]).reverse.map numeralFloat))
          else none
      | [] => none

/-- The double that a text spells. A number that starts with its point has no sign. -/
def double? (cs : List Char) : Option Float :=
  let (negative, signless) := Numeral.splitSign cs
  match cs with
  | '.' :: ds =>
      if isOneOf ["inf"] ds then some Decimal.infinity
      else if ["nan", "NaN", "NAN"].any (·.toList == ds) then some Decimal.undefined
      else if isDigits (ds.takeWhile isDigitOrLow) && isPower (ds.dropWhile isDigitOrLow) then
        some (numeralFloat cs)
      else none
  | _ =>
      match signless with
      | '.' :: ds =>
          if isOneOf ["inf"] ds then
            some (if negative then -Decimal.infinity else Decimal.infinity)
          else none
      | _ => (fraction? signless).map fun value => if negative then -value else value

/-! ## All of them -/

def int? (cs : List Char) : Option Int :=
  let (negative, signless) := Numeral.splitSign cs
  (whole? signless).map fun value => if negative then -(value : Int) else value

/-- The digits in base ten that a whole number starts with; in a base that is a power of two there
are none. -/
def tenfoldDigits (cs : List Char) : List Char :=
  match (Numeral.splitSign cs).2 with
  | '0' :: _ => []
  | signless => withoutLows (signless.takeWhile isDigitOrLow)

inductive ReadError where
  | malformed
  /-- A part of it spells a value of its kind that there is not. -/
  | noValue (message : String)
  deriving DecidableEq, Repr

def unlessWrong (fault : Option String) (value : Yaml) : Except ReadError Yaml :=
  match fault with
  | some message => .error (.noValue message)
  | none => .ok value

/-- What is wrong with the digits of a whole number: there may be too many. -/
def digitsFault? (ds : List Char) : Option String :=
  if ds.length ≤ Decimal.mostDigits then none else some (Decimal.limitMessage (some ds.length))

/-- What a plain scalar stands for. -/
def ofPlain (cs : List Char) : Except ReadError Yaml :=
  if cs == ['='] || cs == ['<', '<'] then .error .malformed
  else
    match word? cs, int? cs, double? cs, wholeDate? cs, timestamp? cs with
    | some value, _, _, _, _ => .ok value
    | none, some value, _, _, _ => unlessWrong (digitsFault? (tenfoldDigits cs)) (.int value)
    | none, none, some value, _, _ => .ok (.float value)
    | none, none, none, some value, _ => unlessWrong value.fault? (.date value)
    | none, none, none, none, some value => unlessWrong value.fault? (.time value)
    | none, none, none, none, none => .ok (.text (String.ofList cs))

end Wordsheet.Yaml
