import Wordsheet.Text.WordTable

/-! # Words

A word is made of letters, numerals and underscores; it ends where the next
character is none of them or where the text ends.
-/

namespace Wordsheet.Text

def inRanges (ranges : List (Nat × Nat)) (n : Nat) : Bool :=
  ranges.any fun range => range.1 ≤ n && n ≤ range.2

def isWordChar (c : Char) : Bool :=
  if c.toNat < 128 then c.isAlphanum || c == '_' else inRanges wordRanges c.toNat

/-- Whether no word goes on at the head of a text. -/
def atWordEnd : List Char → Bool
  | [] => true
  | c :: _ => !isWordChar c

end Wordsheet.Text
