import Wordsheet.Decimal.Numeral
import Wordsheet.Json.Basic

/-! # Reading JSON

A text is read as one value with blanks around it. Beyond the standard, `NaN`,
`Infinity` and `-Infinity` stand for the doubles that are no numbers. A number
with a point or a power of ten is a double, any other a whole number, which may
have only so many digits. In an object the last value of a repeated key counts.
Reading ends at the first fault that is met.
-/

namespace Wordsheet.Json

open Text

inductive ReadError where
  | malformed
  /-- A whole number has more digits than are turned into a number. -/
  | tooManyDigits (count : Nat)
  deriving DecidableEq, Repr

/-- What is found, or that the text is malformed. -/
def wellFormed {α : Type} : Option α → Except ReadError α
  | some found => .ok found
  | none => .error .malformed

def isSpace (c : Char) : Bool :=
  c == ' ' || c == '\t' || c == '\n' || c == '\r'

def skipSpaces (cs : List Char) : List Char :=
  cs.dropWhile isSpace

def dropWord? : (word cs : List Char) → Option (List Char)
  | [], cs => some cs
  | _ :: _, [] => none
  | w :: word, c :: cs => if w == c then dropWord? word cs else none

def unit? (a b c d : Char) : Option Nat := do
  let a ← hexValue? a
  let b ← hexValue? b
  let c ← hexValue? c
  let d ← hexValue? d
  return ((a * 16 + b) * 16 + c) * 16 + d

def escape? : Char → Option Nat
  | '"' => some 0x22
  | '\\' => some 0x5c
  | '/' => some 0x2f
  | 'b' => some 0x08
  | 'f' => some 0x0c
  | 'n' => some 0x0a
  | 'r' => some 0x0d
  | 't' => some 0x09
  | _ => none

def codes? : List Char → Option (List Nat × List Char)
  | [] => none
  | '"' :: rest => some ([], rest)
  | '\\' :: 'u' :: a :: b :: c :: d :: rest => do
      let unit ← unit? a b c d
      let (codes, rest) ← codes? rest
      return (unit :: codes, rest)
  | '\\' :: c :: rest => do
      let code ← escape? c
      let (codes, rest) ← codes? rest
      return (code :: codes, rest)
  | c :: rest =>
      if c.toNat < 32 || c == '\\' then none
      else do
        let (codes, rest) ← codes? rest
        return (c.toNat :: codes, rest)

/-- Codes as characters: a high and a low surrogate make one, a lone one is shown as U+FFFD. -/
def charsOf : List Nat → List Char
  | [] => []
  | [code] => [if 0xd800 ≤ code && code < 0xe000 then '\ufffd' else Char.ofNat code]
  | high :: low :: rest =>
      if 0xd800 ≤ high && high < 0xdc00 && 0xdc00 ≤ low && low < 0xe000 then
        Char.ofNat (0x10000 + (high - 0xd800) * 0x400 + (low - 0xdc00)) :: charsOf rest
      else if 0xd800 ≤ high && high < 0xe000 then '\ufffd' :: charsOf (low :: rest)
      else Char.ofNat high :: charsOf (low :: rest)

def textAfterQuote? (cs : List Char) : Option (String × List Char) :=
  (codes? cs).map fun (codes, rest) => (String.ofList (charsOf codes), rest)

/-- The digits after a point at the head of a text, if there are any, and the rest. -/
def splitPoint : List Char → List Char × List Char
  | '.' :: rest =>
      let ds := rest.takeWhile isPlainDigit
      if ds.isEmpty then ([], '.' :: rest) else (ds, rest.dropWhile isPlainDigit)
  | cs => ([], cs)

def splitPower (cs : List Char) : Option Int × List Char :=
  match cs with
  | [] => (none, [])
  | mark :: rest =>
      if mark == 'e' || mark == 'E' then
        let (negative, signless) := Numeral.splitSign rest
        let ds := signless.takeWhile isPlainDigit
        if ds.isEmpty then (none, cs)
        else
          let size : Int := digitsValue ds
          (some (if negative then -size else size), signless.dropWhile isPlainDigit)
      else (none, cs)

/-- The whole part of a number: a single zero, or digits that start with another. -/
def splitWhole : List Char → List Char × List Char
  | '0' :: rest => (['0'], rest)
  | cs => (cs.takeWhile isPlainDigit, cs.dropWhile isPlainDigit)

def readNumber (negative : Bool) (cs : List Char) : Except ReadError (Json × List Char) :=
  let (whole, rest) := splitWhole cs
  if whole.isEmpty then .error .malformed
  else
    let (fraction, rest) := splitPoint rest
    let (power, rest) := splitPower rest
    if fraction.isEmpty && power.isNone then
      -- the digits of a double are not counted
      if whole.length ≤ Decimal.mostDigits then
        let size : Int := digitsValue whole
        .ok (.int (if negative then -size else size), rest)
      else .error (.tooManyDigits whole.length)
    else
      let value := Numeral.ofDigits whole fraction (power.getD 0)
      .ok (.float ({ value with negative : Decimal }).toFloat, rest)

def readScalar (cs : List Char) : Except ReadError (Json × List Char) :=
  let words : List (String × Json) :=
    [("null", .null), ("true", .bool true), ("false", .bool false),
      ("NaN", .float Decimal.undefined), ("Infinity", .float Decimal.infinity),
      ("-Infinity", .float (-Decimal.infinity))]
  match words.findSome? fun (word, value) => (dropWord? word.toList cs).map (value, ·) with
  | some result => .ok result
  | none =>
      match cs with
      | '-' :: rest => readNumber true rest
      | cs => readNumber false cs

mutual

/-- A value at the head of a text, nested at most `depth` deep, and the rest. -/
def readValue : (depth : Nat) → List Char → Except ReadError (Json × List Char)
  | 0, _ => .error .malformed
  | depth + 1, cs =>
      match cs with
      | '"' :: rest =>
          (wellFormed (textAfterQuote? rest)).map fun (s, rest) => (.text s, rest)
      | '[' :: rest =>
          match skipSpaces rest with
          | ']' :: rest => .ok (.list [], rest)
          | rest => (readItems depth rest).map fun (items, rest) => (.list items, rest)
      | '\x7b' :: rest =>
          match skipSpaces rest with
          | '\x7d' :: rest => .ok (.object [], rest)
          | rest =>
              (readFields depth rest).map fun (fields, rest) => (.object (fieldsOf fields), rest)
      | cs => readScalar cs

def readItems : (depth : Nat) → List Char → Except ReadError (List Json × List Char)
  | 0, _ => .error .malformed
  | depth + 1, cs => do
      let (item, rest) ← readValue depth cs
      match skipSpaces rest with
      | ']' :: rest => return ([item], rest)
      | ',' :: rest =>
          let (items, rest) ← readItems depth (skipSpaces rest)
          return (item :: items, rest)
      | _ => throw .malformed

def readFields : (depth : Nat) → List Char → Except ReadError (List (String × Json) × List Char)
  | 0, _ => .error .malformed
  | depth + 1, cs => do
      match cs with
      | '"' :: rest =>
          let (key, rest) ← wellFormed (textAfterQuote? rest)
          match skipSpaces rest with
          | ':' :: rest =>
              let (value, rest) ← readValue depth (skipSpaces rest)
              match skipSpaces rest with
              | '\x7d' :: rest => return ([(key, value)], rest)
              | ',' :: rest =>
                  let (fields, rest) ← readFields depth (skipSpaces rest)
                  return ((key, value) :: fields, rest)
              | _ => throw .malformed
          | _ => throw .malformed
      | _ => throw .malformed

end

/-- The value that a whole text spells. At most two steps of the descent go by for each
character, so twice the length of the text is depth enough. -/
def read (cs : List Char) : Except ReadError Json := do
  let (value, rest) ← readValue (2 * cs.length + 1) (skipSpaces cs)
  if (skipSpaces rest).isEmpty then return value else throw .malformed

end Wordsheet.Json
