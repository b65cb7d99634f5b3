import Wordsheet.Text.Quoted

/-! # UTF-8

Texts as bytes. Reading cuts bytes into well-formed characters and malformed
stretches, each stretch as long as it could still have become a character; a
strict reader reports the first of them and a lenient one shows each as U+FFFD.
-/

namespace Wordsheet.Text.Utf8

inductive Flaw where
  /-- No character starts with this byte. -/
  | start
  /-- A byte follows that cannot continue the character. -/
  | continuation
  /-- The bytes end inside the character. -/
  | truncated
  deriving DecidableEq, Repr

inductive Piece where
  | scalar (c : Char) (width : Nat)
  | malformed (width : Nat) (flaw : Flaw)
  deriving DecidableEq, Repr

def Piece.width : Piece → Nat
  | .scalar _ width => width
  | .malformed width _ => width

def encode (cs : List Char) : List UInt8 :=
  cs.flatMap String.utf8EncodeChar

/-- Reads the `need` bytes still missing from a character whose bits so far are `value`, the
next of them between `low` and `high`. -/
def continued : (need low high value width : Nat) → List UInt8 → Piece
  | 0, _, _, value, width, _ => .scalar (Char.ofNat value) width
  | _ + 1, _, _, _, width, [] => .malformed width .truncated
  | need + 1, low, high, value, width, b :: rest =>
      if low ≤ b.toNat && b.toNat ≤ high then
        continued need 0x80 0xbf (64 * value + (b.toNat - 0x80)) (width + 1) rest
      else .malformed width .continuation

def firstPiece (b : UInt8) (rest : List UInt8) : Piece :=
  let n := b.toNat
  if n < 0x80 then .scalar (Char.ofNat n) 1
  else if n < 0xc2 then .malformed 1 .start
  else if n < 0xe0 then continued 1 0x80 0xbf (n - 0xc0) 1 rest
  else if n < 0xf0 then
    let low := if n == 0xe0 then 0xa0 else 0x80
    let high := if n == 0xed then 0x9f else 0xbf
    continued 2 low high (n - 0xe0) 1 rest
  else if n < 0xf5 then
    let low := if n == 0xf0 then 0x90 else 0x80
    let high := if n == 0xf4 then 0x8f else 0xbf
    continued 3 low high (n - 0xf0) 1 rest
  else .malformed 1 .start

def pieces : List UInt8 → List Piece
  | [] => []
  | b :: rest =>
      let piece := firstPiece b rest
      piece :: pieces (rest.drop (piece.width - 1))
termination_by bytes => bytes.length
decreasing_by simp only [List.length_drop, List.length_cons]; omega

/-- The text of some bytes, each malformed stretch shown as U+FFFD. -/
def decodeLossy (bytes : List UInt8) : List Char :=
  (pieces bytes).map fun
    | .scalar c _ => c
    | .malformed _ _ => '\ufffd'

/-- The first malformed stretch of some bytes: where it starts, its bytes and its flaw. -/
structure DecodeError where
  position : Nat
  bytes : List UInt8
  flaw : Flaw
  deriving DecidableEq, Repr

/-- The text of stretches that start at `position` of `bytes`, if none of them is malformed. -/
def textOf (bytes : List UInt8) (position : Nat) : List Piece → Except DecodeError (List Char)
  | [] => .ok []
  | .scalar c width :: rest => (textOf bytes (position + width) rest).map (c :: ·)
  | .malformed width flaw :: _ => .error ⟨position, (bytes.drop position).take width, flaw⟩

def decode (bytes : List UInt8) : Except DecodeError (List Char) :=
  textOf bytes 0 (pieces bytes)

def Flaw.message : Flaw → String
  | .start => "invalid start byte"
  | .continuation => "invalid continuation byte"
  | .truncated => "unexpected end of data"

def DecodeError.message (e : DecodeError) : String :=
  let found :=
    match e.bytes with
    | [b] => s!"byte 0x{String.ofList (hexDigits 2 b.toNat)} in position {e.position}"
    | bytes => s!"bytes in position {e.position}-{e.position + bytes.length - 1}"
  s!"'utf-8' codec can't decode {found}: {e.flaw.message}"

end Wordsheet.Text.Utf8
