import Wordsheet.Yaml.Cursor
import Wordsheet.Yaml.Node

/-! # Scalars

A scalar stands between single quotes, where a quote is doubled, between double
quotes, where a backslash starts an escape, or without quotes up to a sign that
ends it. It may go on over several lines.
-/

namespace Wordsheet.Yaml

open Text

/-- A scalar, whether it goes over several lines, and the place after it. -/
structure Scalar where
  text : List Char
  crossed : Bool
  after : Cursor
  deriving DecidableEq, Repr

def Scalar.behind (s : Scalar) (text : List Char) (crossed : Bool) : Scalar :=
  { s with text := text ++ s.text, crossed := crossed || s.crossed }

/-! ## Between quotes -/

def escape? : Char → Option Char
  | '0' => some '\x00'
  | 'a' => some '\x07'
  | 'b' => some '\x08'
  | 't' | '\t' => some '\t'
  | 'n' => some '\n'
  | 'v' => some '\x0b'
  | 'f' => some '\x0c'
  | 'r' => some '\r'
  | 'e' => some '\x1b'
  | ' ' => some ' '
  | '"' => some '"'
  | '\\' => some '\\'
  | '/' => some '/'
  | 'N' => some '\x85'
  | '_' => some '\xa0'
  | 'L' => some '\u2028'
  | 'P' => some '\u2029'
  | _ => none

def escapeWidth? : Char → Option Nat
  | 'x' => some 2
  | 'u' => some 4
  | 'U' => some 8
  | _ => none

/-- What an escape stands for, and the place after it; the place given is behind the backslash. -/
def readEscape (c : Cursor) : Option Scalar :=
  match c.rest with
  | [] => none
  | letter :: rest =>
      if isBreak letter then
        (furtherBreaks true 0 rest).map fun (breaks, after) => ⟨breaks, true, after⟩
      else
        match escapeWidth? letter with
        | some width =>
            let ds := rest.take width
            if ds.length = width && ds.all (hexValue? · |>.isSome) then
              some ⟨[Char.ofNat (valueInBase 16 ds)], false, c.forward (width + 1)⟩
            else none
        | none => (escape? letter).map fun meant => ⟨[meant], false, c.forward 1⟩

def quotedFrom (double : Bool) : (fuel : Nat) → Cursor → Option Scalar
  | 0, _ => none
  | fuel + 1, c => do
      match c.rest with
      | [] => none
      | a :: rest =>
          if isWhite a then
            let f ← fold true c
            return (← quotedFrom double fuel f.after).behind f.text f.crossed
          else if double && a == '"' then return ⟨[], false, c.forward 1⟩
          else if double && a == '\\' then
            let e ← readEscape (c.forward 1)
            return (← quotedFrom double fuel e.after).behind e.text e.crossed
          else if !double && a == '\x27' then
            if rest.head? == some '\x27' then
              return (← quotedFrom double fuel (c.forward 2)).behind [a] false
            else return ⟨[], false, c.forward 1⟩
          else return (← quotedFrom double fuel (c.forward 1)).behind [a] false

/-! ## Without quotes -/

def isFlowMark (c : Char) : Bool :=
  c == ',' || c == '[' || c == ']' || c == '\x7b' || c == '\x7d'

/-- Whether a scalar without quotes ends before a character and what follows it. -/
def endsPlain (inFlow : Bool) (c : Char) (rest : List Char) : Bool :=
  isWhite c
    || (c == ':' && (atWhite rest || (inFlow && rest.head?.any isFlowMark)))
    || (inFlow && (isFlowMark c || c == '?'))

def splitPlain (inFlow : Bool) : List Char → List Char × List Char
  | [] => ([], [])
  | c :: rest =>
      if endsPlain inFlow c rest then ([], c :: rest)
      else
        let (part, after) := splitPlain inFlow rest
        (c :: part, after)

def startsPlain (inFlow : Bool) (c : Char) (rest : List Char) : Bool :=
  !(isWhite c || "-?:,[]\x7b\x7d#&*!|>\x27\"%@\x60".toList.contains c)
    || (!atWhite rest && (c == '-' || (!inFlow && (c == '?' || c == ':'))))

/-- The rest of a scalar without quotes after a part of it. In a block its further lines have to
start at a column, `least`, or behind it. -/
def plainFrom (inFlow : Bool) (least : Nat) : (fuel : Nat) → Cursor → Scalar
  | 0, c => ⟨[], false, c⟩
  | fuel + 1, c =>
      match fold false c with
      | none => ⟨[], false, c⟩
      | some f =>
          let (part, _) := splitPlain inFlow f.after.rest
          if f.text.isEmpty || f.after.rest.head? == some '#' || part.isEmpty
              || (!inFlow && f.after.column < least) then
            ⟨[], false, c⟩
          else
            (plainFrom inFlow least fuel (f.after.forward part.length)).behind
              (f.text ++ part) f.crossed

/-! ## Any scalar -/

def readScalar (inFlow : Bool) (least : Nat) (c : Cursor) : Option (Node × Bool × Cursor) :=
  let fuel := c.rest.length + 1
  let quoted (s : Scalar) : Node × Bool × Cursor := (.quoted s.text, s.crossed, s.after)
  match c.rest with
  | [] => none
  | '"' :: _ => (quotedFrom true fuel (c.forward 1)).map quoted
  | '\x27' :: _ => (quotedFrom false fuel (c.forward 1)).map quoted
  | a :: rest =>
      if startsPlain inFlow a rest then
        let (part, _) := splitPlain inFlow c.rest
        let s := (plainFrom inFlow least fuel (c.forward part.length)).behind part false
        some (.plain s.text, s.crossed, s.after)
      else none

end Wordsheet.Yaml
