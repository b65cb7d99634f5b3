import Wordsheet.Formula.Error
import Wordsheet.Formula.Token
import Wordsheet.Text.Blank
import Wordsheet.Text.Digit

/-! # Lexing formulas

A text is cut into tokens and skipped characters. At each place the longest cell
reference is looked for first, then a name, then a number, then a sign; a
character where none of them starts is skipped. Strict lexing refuses a text in
which a skipped character is not blank.
-/

namespace Wordsheet.Formula

open Text

def startsName (c : Char) : Bool :=
  c.isAlpha || c == '_'

def continuesName (c : Char) : Bool :=
  c.isAlphanum || c == '_'

/-- Whether a text is a name: ASCII letters, digits and underscores, no digit first. -/
def isName (s : String) : Bool :=
  match s.toList with
  | [] => false
  | c :: rest => startsName c && rest.all continuesName

def splitName? : List Char → Option (List Char × List Char)
  | [] => none
  | c :: rest =>
      if startsName c then some (c :: rest.takeWhile continuesName, rest.dropWhile continuesName)
      else none

/-- The digits after a point at the head of a text, if there are any: point and digits, and the
rest. -/
def splitFraction : List Char → List Char × List Char
  | '.' :: rest =>
      let ds := rest.takeWhile isDigit
      if ds.isEmpty then ([], '.' :: rest) else ('.' :: ds, rest.dropWhile isDigit)
  | rest => ([], rest)

def splitNumber? (cs : List Char) : Option (List Char × List Char) :=
  let whole := cs.takeWhile isDigit
  if whole.isEmpty then none
  else
    let (fraction, rest) := splitFraction (cs.dropWhile isDigit)
    some (whole ++ fraction, rest)

def signKind? : Char → Option Kind
  | '+' | '-' | '*' | '/' => some .operator
  | '(' => some .opening
  | ')' => some .closing
  | ',' => some .comma
  | _ => none

/-- The token that starts with a name: a cell reference if a point and another name follow. -/
def nameToken (name rest : List Char) : Token × List Char :=
  let plain := (⟨.name, String.ofList name, none, none⟩, rest)
  match rest with
  | '.' :: after =>
      match splitName? after with
      | some (column, rest) => (.cellRef (String.ofList name) (String.ofList column), rest)
      | none => plain
  | _ => plain

def token? (cs : List Char) : Option (Token × List Char) :=
  match splitName? cs with
  | some (name, rest) => some (nameToken name rest)
  | none =>
      match splitNumber? cs with
      | some (number, rest) => some (⟨.number, String.ofList number, none, none⟩, rest)
      | none =>
          match cs with
          | [] => none
          | c :: rest =>
              (signKind? c).map fun kind => (⟨kind, String.ofList [c], none, none⟩, rest)

theorem splitName?_length {cs name rest : List Char} (h : splitName? cs = some (name, rest)) :
    rest.length < cs.length := by
  cases cs with
  | nil => simp [splitName?] at h
  | cons c cs =>
      simp only [splitName?] at h
      split at h
      · simp only [Option.some.injEq, Prod.mk.injEq] at h
        have := (List.dropWhile_sublist (p := continuesName) (l := cs)).length_le
        simp only [← h.2, List.length_cons]
        omega
      · simp at h

theorem splitFraction_length (cs : List Char) : (splitFraction cs).2.length ≤ cs.length := by
  unfold splitFraction
  split
  · next rest =>
      simp only []
      split
      · simp
      · have := (List.dropWhile_sublist (p := isDigit) (l := rest)).length_le
        simp only [List.length_cons]
        omega
  · simp

theorem splitNumber?_length {cs number rest : List Char}
    (h : splitNumber? cs = some (number, rest)) : rest.length < cs.length := by
  simp only [splitNumber?] at h
  split at h
  · simp at h
  · next hw =>
      simp only [Option.some.injEq, Prod.mk.injEq] at h
      have hf := splitFraction_length (cs.dropWhile isDigit)
      have hc := congrArg List.length (List.takeWhile_append_dropWhile (p := isDigit) (l := cs))
      have hp : 0 < (cs.takeWhile isDigit).length := by
        cases ht : cs.takeWhile isDigit with
        | nil => simp [ht] at hw
        | cons => simp
      rw [List.length_append] at hc
      rw [← h.2]
      omega

theorem nameToken_length (name rest : List Char) :
    (nameToken name rest).2.length ≤ rest.length := by
  unfold nameToken
  simp only []
  split
  · next after =>
      split
      · next h =>
          have := splitName?_length h
          simp only [List.length_cons]
          omega
      · simp
  · simp

/-- A token takes at least one character. -/
theorem token?_length {cs rest : List Char} {t : Token} (h : token? cs = some (t, rest)) :
    rest.length < cs.length := by
  unfold token? at h
  split at h
  · next name after hn =>
      have h1 := splitName?_length hn
      have h2 := nameToken_length name after
      simp only [Option.some.injEq] at h
      rw [h] at h2
      simp only at h2
      omega
  · split at h
    · next hn =>
        have := splitNumber?_length hn
        simp only [Option.some.injEq, Prod.mk.injEq] at h
        rw [← h.2]
        exact this
    · split at h
      · simp at h
      · obtain ⟨kind, _, hk⟩ := Option.map_eq_some_iff.1 h
        simp only [Prod.mk.injEq] at hk
        simp [← hk.2]

inductive Piece where
  | token (t : Token)
  | skipped (c : Char)
  deriving DecidableEq, Repr

def pieces (cs : List Char) : List Piece :=
  match cs with
  | [] => []
  | c :: rest =>
      match _taken : token? (c :: rest) with
      | some (t, after) => .token t :: pieces after
      | none => .skipped c :: pieces rest
termination_by cs.length
decreasing_by
  · exact token?_length _taken
  · simp

def Piece.token? : Piece → Option Token
  | .token t => some t
  | .skipped _ => none

/-- The skipped characters at the head of some pieces, up to the first blank. -/
def skippedRun : List Piece → List Char
  | .skipped c :: rest => if isBlank c then [] else c :: skippedRun rest
  | _ => []

/-- The first skipped run that is not blank in pieces that start at a position, and where it is. -/
def unexpected? (position : Nat) : List Piece → Option (String × Nat)
  | [] => none
  | .token t :: rest => unexpected? (position + t.text.length) rest
  | .skipped c :: rest =>
      if isBlank c then unexpected? (position + 1) rest
      else some (String.ofList (c :: skippedRun rest), position)

/-- The tokens of a text, or the first text that a strict lexer refuses. -/
def tokenize (strict : Bool) (text : String) : Except Error (List Token) :=
  let found := pieces text.toList
  match if strict then unexpected? 0 found else none with
  | some (run, position) => .error (.unexpectedCharacter run position)
  | none => .ok (found.filterMap Piece.token?)

end Wordsheet.Formula
