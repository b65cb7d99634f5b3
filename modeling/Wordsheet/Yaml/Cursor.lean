/-! # Places in a settings file

Where reading stands: what is left of the text, and the column, by which the
nesting of blocks is told. Between the parts of a document there are spaces,
comments and line breaks; inside a scalar, a single line break counts as a space
and further ones as themselves.
-/

namespace Wordsheet.Yaml

structure Cursor where
  rest : List Char
  column : Nat
  deriving DecidableEq, Repr

/-! ## Characters -/

def isBreak (c : Char) : Bool :=
  c == '\n' || c == '\x85' || c == '\u2028' || c == '\u2029'

def isWhite (c : Char) : Bool :=
  c == ' ' || c == '\t' || isBreak c

def atWhite : List Char → Bool
  | [] => true
  | c :: _ => isWhite c

def isAllowed (c : Char) : Bool :=
  let n := c.toNat
  n == 9 || n == 10 || n == 13 || (32 ≤ n && n < 127) || n == 0x85
    || (0xa0 ≤ n && n != 0xfffe && n != 0xffff)

/-- Whether a line starts with three of a character and nothing else up to a blank. -/
def startsMarker (mark : Char) : List Char → Bool
  | a :: b :: c :: rest => a == mark && b == mark && c == mark && atWhite rest
  | _ => false

def Cursor.atMarker (c : Cursor) : Bool :=
  c.column = 0 && (startsMarker '-' c.rest || startsMarker '.' c.rest)

def Cursor.atEnd (c : Cursor) : Bool :=
  c.rest.isEmpty || c.atMarker

def Cursor.forward (c : Cursor) (count : Nat) : Cursor :=
  ⟨c.rest.drop count, c.column + count⟩

/-! ## Gaps -/

/-- The place after spaces, comments and line breaks, and whether a line was broken. -/
def gapFrom (comment crossed : Bool) (column : Nat) : List Char → Cursor × Bool
  | [] => (⟨[], column⟩, crossed)
  | c :: rest =>
      if isBreak c then gapFrom false true 0 rest
      else if comment || c == ' ' then gapFrom comment crossed (column + 1) rest
      else if c == '#' then gapFrom true crossed (column + 1) rest
      else (⟨c :: rest, column⟩, crossed)

/-- The next place that is not in a gap, and whether a line was broken before it. -/
def Cursor.gap (c : Cursor) : Cursor × Bool :=
  gapFrom false false c.column c.rest

def Cursor.next (c : Cursor) : Cursor :=
  c.gap.1

/-! ## Folding -/

def breakText (c : Char) : Char :=
  if c == '\x85' then '\n' else c

/-- Whether a character is blank inside a line of a scalar, tabs only where they count. -/
def isInner (tabs : Bool) (c : Char) : Bool :=
  c == ' ' || (tabs && c == '\t')

/-- The further line breaks after one, with the blanks around them left out; nothing where a
document starts or ends. -/
def furtherBreaks (tabs : Bool) (column : Nat) : List Char → Option (List Char × Cursor)
  | [] => some ([], ⟨[], column⟩)
  | c :: rest =>
      if (⟨c :: rest, column⟩ : Cursor).atMarker then none
      else if isBreak c then
        (furtherBreaks tabs 0 rest).map fun (breaks, after) => (breakText c :: breaks, after)
      else if isInner tabs c then furtherBreaks tabs (column + 1) rest
      else some ([], ⟨c :: rest, column⟩)

structure Fold where
  text : List Char
  crossed : Bool
  after : Cursor
  deriving DecidableEq, Repr

/-- Reads blanks and line breaks inside a scalar; nothing where a document starts or ends. -/
def fold (tabs : Bool) (c : Cursor) : Option Fold :=
  let blanks := c.rest.takeWhile (isInner tabs)
  match c.rest.dropWhile (isInner tabs) with
  | [] => some ⟨blanks, false, c.forward blanks.length⟩
  | b :: rest =>
      if isBreak b then
        (furtherBreaks tabs 0 rest).map fun (breaks, after) =>
          let text :=
            if breakText b != '\n' then b :: breaks
            else if breaks.isEmpty then [' ']
            else breaks
          ⟨text, true, after⟩
      else some ⟨blanks, false, c.forward blanks.length⟩

end Wordsheet.Yaml
