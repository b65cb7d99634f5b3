/-! # Paths

A path is a row of names below an anchor. Empty names and single dots mean
nothing and are left out; two dots are kept, as what they mean depends on the
folders there are. A path without an anchor is relative.
-/

namespace Wordsheet

/-- A path. Its anchor is empty, a slash, or two slashes. -/
structure Path where
  anchor : String
  names : List String
  deriving DecidableEq, Repr

namespace Path

def splitSlashes : List Char → List (List Char)
  | [] => [[]]
  | c :: rest =>
      match c == '/', splitSlashes rest with
      | true, parts => [] :: parts
      | false, part :: parts => (c :: part) :: parts
      | false, [] => [[c]]

/-- The anchor of a text that starts with some slashes: exactly two of them are kept apart. -/
def anchorOf : (slashes : Nat) → String
  | 0 => ""
  | 2 => "//"
  | _ => "/"

def isName (part : List Char) : Bool :=
  !(part == [] || part == ['.'])

def ofText (s : String) : Path :=
  ⟨anchorOf (s.toList.takeWhile (· == '/')).length,
    ((splitSlashes s.toList).filter isName).map String.ofList⟩

def text (p : Path) : String :=
  if p.anchor == "" && p.names.isEmpty then "."
  else p.anchor ++ String.intercalate "/" p.names

/-- A path below another one, unless it has an anchor of its own. -/
def join (p q : Path) : Path :=
  if q.anchor == "" then ⟨p.anchor, p.names ++ q.names⟩ else q

def child (p : Path) (name : String) : Path :=
  ⟨p.anchor, p.names ++ [name]⟩

def parent (p : Path) : Path :=
  ⟨p.anchor, p.names.dropLast⟩

def name (p : Path) : String :=
  p.names.getLast?.getD ""

/-- A name up to its last point, unless the point is its first or last character. -/
def stemOf (name : List Char) : List Char :=
  let ending := name.reverse.takeWhile (· != '.')
  let start := name.length - ending.length - 1
  if 0 < start && start < name.length - 1 then name.take start else name

def stem (p : Path) : String :=
  String.ofList (stemOf p.name.toList)

/-- A name behind its last point, unless the point is its first character. -/
def endingOf (name : List Char) : List Char :=
  let ending := (name.reverse.takeWhile (· != '.')).reverse
  if ending.length + 1 < name.length then ending else []

def hasNul (p : Path) : Bool :=
  p.names.any (·.toList.contains '\x00')

/-- The text of a path, cut at its head if it is long; the longer it is in bytes, the more
characters are cut. -/
def shownText (p : Path) : String :=
  let text := p.text
  let excess := text.utf8ByteSize - 88
  if excess = 0 then text
  else
    let shown := String.ofList (text.toList.drop excess)
    s!"...{shown} (set POLARS_VERBOSE=1 to see full path)"

end Path

end Wordsheet
