import Wordsheet.Text.Quoted

/-! # Byte strings of a settings file

Bytes are spelled with sixty-four signs, four for three bytes. Other signs are passed
over, but for one that fills up the last four.
-/

namespace Wordsheet.Yaml

def sixBits? (c : Char) : Option Nat :=
  if 'A' ≤ c ∧ c ≤ 'Z' then some (c.toNat - 'A'.toNat)
  else if 'a' ≤ c ∧ c ≤ 'z' then some (c.toNat - 'a'.toNat + 26)
  else if '0' ≤ c ∧ c ≤ '9' then some (c.toNat - '0'.toNat + 52)
  else if c == '+' then some 62
  else if c == '/' then some 63
  else none

/-- The bytes that signs spell. Of the four signs of a group, `place` have been read, with `pending`
as what they leave for the next byte, and `filled` signs in a row that fill it up. -/
def bytesFrom (place filled pending : Nat) : List Char → Option (List UInt8)
  | [] => if place = 0 then some [] else none
  | '=' :: rest =>
      -- nothing is filled up before a group has two signs
      if place < 2 then bytesFrom place filled pending rest
      else if 4 ≤ place + filled + 1 then some []
      else bytesFrom place (filled + 1) pending rest
  | c :: rest =>
      match sixBits? c, place with
      | none, _ => bytesFrom place filled pending rest
      | some bits, 0 => bytesFrom 1 0 bits rest
      | some bits, 1 =>
          (bytesFrom 2 0 (bits % 16) rest).map ((4 * pending + bits / 16).toUInt8 :: ·)
      | some bits, 2 =>
          (bytesFrom 3 0 (bits % 4) rest).map ((16 * pending + bits / 4).toUInt8 :: ·)
      | some bits, _ => (bytesFrom 0 0 0 rest).map ((64 * pending + bits).toUInt8 :: ·)

/-- The bytes that a text in ASCII spells. -/
def decodeBytes? (cs : List Char) : Option (List UInt8) :=
  if cs.all (·.toNat < 128) then bytesFrom 0 0 0 cs else none

def describeByte (quote : Char) (b : UInt8) : List Char :=
  let c := Char.ofNat b.toNat
  if c == quote || c == '\\' then ['\\', c]
  else if c == '\t' then ['\\', 't']
  else if c == '\n' then ['\\', 'n']
  else if c == '\r' then ['\\', 'r']
  else if b < 32 || 127 ≤ b then '\\' :: 'x' :: Text.hexDigits 2 b.toNat
  else [c]

def describeBytes (bytes : List UInt8) : String :=
  let quote := if bytes.contains 0x27 && !bytes.contains 0x22 then '"' else '\x27'
  String.ofList ('b' :: quote :: bytes.flatMap (describeByte quote) ++ [quote])

end Wordsheet.Yaml
