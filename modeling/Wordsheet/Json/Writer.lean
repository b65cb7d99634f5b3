import Wordsheet.Decimal.Layout
import Wordsheet.Json.Basic
import Wordsheet.Text.Quoted

/-! # Writing JSON

A value on one line in ASCII: a comma or a colon and one space between the
parts, the fields of every object sorted by key, every other character spelled
as its UTF-16 units. Doubles that are no numbers are written as null. A value that
holds a whole number of too many digits is not written at all.
-/

namespace Wordsheet.Json

open Text

def unitText (unit : Nat) : List Char :=
  '\\' :: 'u' :: hexDigits 4 unit

/-- A character spelled as its UTF-16 units. -/
def unitsText (n : Nat) : List Char :=
  if n < 0x10000 then unitText n
  else unitText (0xd800 + (n - 0x10000) / 0x400) ++ unitText (0xdc00 + (n - 0x10000) % 0x400)

def charText (c : Char) : List Char :=
  if c == '"' || c == '\\' then ['\\', c]
  else if c == '\n' then ['\\', 'n']
  else if c == '\r' then ['\\', 'r']
  else if c == '\t' then ['\\', 't']
  else if c == '\x08' then ['\\', 'b']
  else if c == '\x0c' then ['\\', 'f']
  else if 32 ≤ c.toNat && c.toNat < 127 then [c]
  else unitsText c.toNat

def textText (s : String) : List Char :=
  '"' :: s.toList.flatMap charText ++ ['"']

def intText (n : Int) : List Char :=
  Decimal.signText (n < 0) ++ Decimal.digits n.natAbs

def separated : List (List Char) → List Char
  | [] => []
  | [part] => part
  | part :: rest => part ++ ',' :: ' ' :: separated rest

/-- Fields in the order of their keys. -/
def sortedByKey {α : Type} (fields : List (String × α)) : List (String × α) :=
  fields.mergeSort fun a b => a.1 ≤ b.1

def fieldText (field : String × List Char) : List Char :=
  textText field.1 ++ ':' :: ' ' :: field.2

mutual

def write : Json → List Char
  | .null => "null".toList
  | .bool true => "true".toList
  | .bool false => "false".toList
  | .int value => intText value
  | .float value => if value.isFinite then (fullText value).toList else "null".toList
  | .text value => textText value
  | .list items => '[' :: separated (writeItems items) ++ [']']
  | .object fields =>
      '\x7b' :: separated ((sortedByKey (writeFields fields)).map fieldText) ++ ['\x7d']

def writeItems : List Json → List (List Char)
  | [] => []
  | item :: rest => write item :: writeItems rest

def writeFields : List (String × Json) → List (String × List Char)
  | [] => []
  | (key, value) :: rest => (key, write value) :: writeFields rest

end

mutual

/-- Whether a value can be written: no whole number in it has too many digits. -/
def isWritable : Json → Bool
  | .int value => Decimal.isSpellable value
  | .list items => areWritable items
  | .object fields => areFieldsWritable fields
  | _ => true

def areWritable : List Json → Bool
  | [] => true
  | item :: rest => isWritable item && areWritable rest

def areFieldsWritable : List (String × Json) → Bool
  | [] => true
  | (_, value) :: rest => isWritable value && areFieldsWritable rest

end

theorem write_float (value : Float) :
    write (.float value) =
      if value.isFinite then (fullText value).toList else "null".toList := rfl

theorem write_text (value : String) : write (.text value) = textText value := rfl

end Wordsheet.Json
