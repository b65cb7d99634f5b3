import Wordsheet.Text.CaseTable
import Wordsheet.Text.Word

/-! # Small and capital letters

The small-letter form of a text, in full Unicode, and the capital form as far as
it is ASCII. A capital sigma at the end of a word becomes the final small sigma:
it follows a letter that has a case and none comes after it, marks in between
not counting.
-/

namespace Wordsheet.Text

def isCased (c : Char) : Bool :=
  if c.toNat < 128 then c.isAlpha else inRanges casedRanges c.toNat

def isCaseIgnorable (c : Char) : Bool :=
  if c.toNat < 128 then
    c == '\x27' || c == '.' || c == ':' || c == '^' || c == '\x60'
  else inRanges caseIgnorableRanges c.toNat

/-- Whether the first character that counts has a case. -/
def meetsCased (cs : List Char) : Bool :=
  match cs.dropWhile isCaseIgnorable with
  | [] => false
  | c :: _ => isCased c

def smallLetter (c : Char) : List Char :=
  let n := c.toNat
  if n < 128 then [c.toLower]
  else if n == 0x130 then ['i', '\u0307']
  else
    match smallLetterSpans.find? fun (first, last, step, _) =>
        first ≤ n && n ≤ last && (n - first) % step == 0 with
    | some (_, _, _, shift) => [Char.ofNat (Int.toNat (n + shift))]
    | none => [c]

/-- The small-letter form of the rest of a text, given what came before it in reverse. -/
def smallLettersAfter (before : List Char) : List Char → List Char
  | [] => []
  | c :: rest =>
      let small :=
        if c == 'Σ' then
          if meetsCased before && !meetsCased rest then ['ς'] else ['σ']
        else smallLetter c
      small ++ smallLettersAfter (c :: before) rest

def smallLetters (s : String) : String :=
  String.ofList (smallLettersAfter [] s.toList)

/-- The capital form of a character when that form is ASCII, else the character itself. -/
def capitalLetter (c : Char) : List Char :=
  match c with
  | 'ß' => ['S', 'S']
  | 'ı' => ['I']
  | 'ſ' => ['S']
  | 'ﬀ' => ['F', 'F']
  | 'ﬁ' => ['F', 'I']
  | 'ﬂ' => ['F', 'L']
  | 'ﬃ' => ['F', 'F', 'I']
  | 'ﬄ' => ['F', 'F', 'L']
  | 'ﬅ' => ['S', 'T']
  | 'ﬆ' => ['S', 'T']
  | c => [c.toUpper]

/-- The capital form of a text, as far as it is ASCII. -/
def capitalLetters (s : String) : String :=
  String.ofList (s.toList.flatMap capitalLetter)

end Wordsheet.Text
