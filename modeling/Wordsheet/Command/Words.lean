import Wordsheet.Text.Blank
import Wordsheet.Text.Word

/-! # The words of a line

A line is made of keywords and names, with gaps between them where needed. A
keyword is read in any letter case and ends where its word ends. A name is bare,
up to a blank or a double quote, or stands between double quotes; a row of names
may end a line. Each reader skips the gap in front of what it reads.
-/

namespace Wordsheet.Command

open Text

/-! ## Gaps and keywords -/

def isGap (c : Char) : Bool :=
  c == ' ' || c == '\t' || c == '\x0c' || c == '\r' || c == '\n'

def skipGap (cs : List Char) : List Char :=
  cs.dropWhile isGap

/-- Whether a character is a small letter in some form: a capital letter, a long s or an i with
another number of dots will do. -/
def isLetter (small c : Char) : Bool :=
  c.toLower == small || (small == 's' && c == 'ſ') || (small == 'i' && (c == 'ı' || c == 'İ'))

def afterLetters? : (letters cs : List Char) → Option (List Char)
  | [], cs => some cs
  | _ :: _, [] => none
  | letter :: letters, c :: cs => if isLetter letter c then afterLetters? letters cs else none

def after? (keyword : String) (cs : List Char) : Option (List Char) :=
  (afterLetters? keyword.toList (skipGap cs)).filter atWordEnd

/-- What is left of a text after a keyword that may have an `s` at its end. -/
def afterPlural? (keyword : String) (cs : List Char) : Option (List Char) :=
  after? (keyword ++ "s") cs <|> after? keyword cs

/-! ## Names -/

def isBare (c : Char) : Bool :=
  !isBlank c && c != '"'

/-- A name between double quotes, after the opening one, and the rest. -/
def quotedName? (cs : List Char) : Option (String × List Char) :=
  match cs.dropWhile (· != '"') with
  | [] => none
  | _ :: rest => some (String.ofList (cs.takeWhile (· != '"')), rest)

/-- The name at the very head of a text, and the rest. -/
def bareOrQuoted? : List Char → Option (String × List Char)
  | [] => none
  | '"' :: rest => quotedName? rest
  | c :: rest =>
      if isBare c then
        some (String.ofList (c :: rest.takeWhile isBare), rest.dropWhile isBare)
      else none

def name? (cs : List Char) : Option (String × List Char) :=
  bareOrQuoted? (skipGap cs)

theorem quotedName?_length {cs rest : List Char} {s : String}
    (h : quotedName? cs = some (s, rest)) : rest.length < cs.length := by
  have hd := (List.dropWhile_sublist (p := (· != '"')) (l := cs)).length_le
  unfold quotedName? at h
  split at h
  · simp at h
  · next he =>
      simp only [Option.some.injEq, Prod.mk.injEq] at h
      rw [he, List.length_cons] at hd
      rw [← h.2]
      omega

theorem bareOrQuoted?_length {cs rest : List Char} {s : String}
    (h : bareOrQuoted? cs = some (s, rest)) : rest.length < cs.length := by
  unfold bareOrQuoted? at h
  split at h
  · simp at h
  · have := quotedName?_length h
    simp only [List.length_cons]
    omega
  · next tail _ =>
      split at h
      · have := (List.dropWhile_sublist (p := isBare) (l := tail)).length_le
        simp only [Option.some.injEq, Prod.mk.injEq] at h
        simp only [← h.2, List.length_cons]
        omega
      · simp at h

/-! ## Rows of names -/

/-- The names that a text consists of, with or without blanks between them. -/
def items? (cs : List Char) : Option (List String) :=
  match _start : trimStart cs with
  | [] => some []
  | c :: rest =>
      match _read : bareOrQuoted? (c :: rest) with
      | none => none
      | some (item, after) => (items? after).map (item :: ·)
termination_by cs.length
decreasing_by
  have h1 := bareOrQuoted?_length _read
  have h2 := (List.dropWhile_sublist (p := isBlank) (l := cs)).length_le
  have h3 := congrArg List.length _start
  simp only [trimStart] at h3
  omega

/-- What is left of a line where it ends with free text: the text up to a line feed, unless it
starts with a blank or more than a gap follows it. -/
def remainder? (cs : List Char) : Option (List Char) :=
  match skipGap cs with
  | [] => none
  | c :: rest =>
      if isBlank c || !(rest.dropWhile (· != '\n')).all isGap then none
      else some (c :: rest.takeWhile (· != '\n'))

def lastItems? (cs : List Char) : Option (List String) :=
  (remainder? cs).bind items?

/-- The text that a line ends with: its names with one space between them. -/
def lastText? (cs : List Char) : Option String :=
  (lastItems? cs).map (String.intercalate " ")

end Wordsheet.Command
