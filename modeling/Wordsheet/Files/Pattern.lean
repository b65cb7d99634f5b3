import Wordsheet.Files.Path

/-! # Patterns

A path may be a pattern for others. In its names a question mark stands for any
character, a star for any characters, and a set in square brackets for one
character in it, or for one that is not in it if the set starts with an
exclamation mark; a name of two stars stands for any number of folders. Stars
are not doubled otherwise, and a set is closed and not empty.
-/

namespace Wordsheet.Pattern

/-- What the characters of a name have to be, one sign after the other. -/
inductive Sign where
  | exactly (c : Char)
  | one
  | many
  /-- A character in a set of ranges, or outside of it. -/
  | within (outside : Bool) (ranges : List (Char × Char))
  deriving DecidableEq, Repr

inductive Step where
  | named (name : String)
  | fitting (signs : List Sign)
  | anyDepth
  deriving DecidableEq, Repr

/-! ## Reading -/

/-- The ranges that the characters of a set spell; a character alone is a range of its own. -/
def ranges : List Char → List (Char × Char)
  | [] => []
  | low :: '-' :: high :: rest => (low, high) :: ranges rest
  | c :: rest => (c, c) :: ranges rest

/-- The signs that characters spell. In a set, `set` says which kind it is and holds its characters
so far, the last one first; the first one may be a closing bracket. -/
def signs? (set : Option (Bool × List Char)) : List Char → Option (List Sign)
  | [] => if set.isNone then some [] else none
  | c :: rest =>
      match set with
      | some (outside, held) =>
          if c == ']' && !held.isEmpty then
            (signs? none rest).map (.within outside (ranges held.reverse) :: ·)
          else signs? (some (outside, c :: held)) rest
      | none =>
          match c, rest with
          | '*', '*' :: _ => none
          | '*', rest => (signs? none rest).map (.many :: ·)
          | '?', rest => (signs? none rest).map (.one :: ·)
          | '[', '!' :: rest => signs? (some (true, [])) rest
          | '[', rest => signs? (some (false, [])) rest
          | c, rest => (signs? none rest).map (.exactly c :: ·)

def isSpecial (c : Char) : Bool :=
  c == '*' || c == '?' || c == '['

def Step.ofName? (name : String) : Option Step :=
  if name == "**" then some .anyDepth
  else if name.toList.any isSpecial then (signs? none name.toList).map .fitting
  else some (.named name)

/-! ## Fitting -/

def Sign.covers : Sign → Char → Bool
  | .exactly a, c => a == c
  | .one, _ | .many, _ => true
  | .within outside ranges, c => outside != ranges.any fun range => range.1 ≤ c && c ≤ range.2

def anySuffix (test : List Char → Bool) : List Char → Bool
  | [] => test []
  | c :: cs => test (c :: cs) || anySuffix test cs

def fits : List Sign → List Char → Bool
  | [], cs => cs.isEmpty
  | .many :: signs, cs => anySuffix (fits signs) cs
  | _ :: _, [] => false
  | sign :: signs, c :: cs => sign.covers c && fits signs cs

def Step.fits : Step → String → Bool
  | .named name, found => name == found
  | .fitting signs, found => Pattern.fits signs found.toList
  | .anyDepth, _ => true

end Wordsheet.Pattern

namespace Wordsheet.Path

def isPattern (p : Path) : Bool :=
  p.names.any (·.toList.any Pattern.isSpecial)

def steps? (p : Path) : Option (List Pattern.Step) :=
  p.names.mapM Pattern.Step.ofName?

end Wordsheet.Path
