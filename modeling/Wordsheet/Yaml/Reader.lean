import Wordsheet.Yaml.ScalarReader

/-! # Reading settings files

A document is one value. Blocks nest by columns: the keys of a mapping and the
dashes of a list stand in one column, and what belongs to them stands further to
the right; only a list that is the value of a key may stand in the column of the
key. Lists and mappings in brackets nest freely. A key and its colon stand on
one line, not too far apart. A value, but no key, may have a tag before it that makes
it a byte string or a set. The mark of a document's end may come again, but it does
not come before a document. Other tags, names for values, texts in blocks and keys
behind question marks are not read.
-/

namespace Wordsheet.Yaml

def Cursor.afterColon? (c : Cursor) (inFlow : Bool) : Option Cursor :=
  let spaces := (c.rest.takeWhile (· == ' ')).length
  match c.rest.drop spaces with
  | ':' :: rest => if inFlow || atWhite rest then some (c.forward (spaces + 1)) else none
  | _ => none

/-- The most characters between the start of a key and its colon. -/
def longestKey : Nat := 1024

/-- The place behind the colon that makes a key of what starts at a place and ends at another one.
-/
def Cursor.afterKey? (start : Cursor) (inFlow crossed : Bool) (stop : Cursor) : Option Cursor :=
  if crossed then none
  else (stop.afterColon? inFlow).filter fun colon => colon.column ≤ start.column + longestKey + 1

def Cursor.atDash (c : Cursor) : Bool :=
  match c.rest with
  | '-' :: rest => atWhite rest
  | _ => false

def Cursor.tag? (c : Cursor) : Option (List Char × Cursor) :=
  match c.rest with
  | '!' :: _ =>
      let tag := c.rest.takeWhile (!isWhite ·)
      some (tag, c.forward tag.length)
  | _ => none

def Cursor.atFlowMark (c : Cursor) : Bool :=
  match c.rest with
  | ',' :: _ | ']' :: _ | '\x7d' :: _ => true
  | _ => false

/-! ## In brackets -/

mutual

/-- A part in brackets, whether it goes over several lines, and the place after it. -/
def flowValue : (fuel : Nat) → Cursor → Option (Node × Bool × Cursor)
  | 0, _ => none
  | fuel + 1, c =>
      if c.atMarker then none
      else
        match c.rest with
        | '[' :: _ => do
            let (items, after) ← flowItems fuel (c.forward 1).next
            return (.list items, true, after)
        | '\x7b' :: _ => do
            let (fields, after) ← flowFields fuel (c.forward 1).next
            return (.mapping fields, true, after)
        | _ =>
            match c.tag? with
            | none => readScalar true 0 c
            | some (tag, after) => do
                let (node, after) ← flowContent fuel after
                return (← node.tagged? tag, true, after)

def flowContent : (fuel : Nat) → Cursor → Option (Node × Cursor)
  | 0, _ => none
  | fuel + 1, c =>
      if c.next.atFlowMark then some (.missing, c.next)
      else (flowValue fuel c.next).map fun (node, _, after) => (node, after)

def flowItems : (fuel : Nat) → Cursor → Option (List Node × Cursor)
  | 0, _ => none
  | fuel + 1, c =>
      if c.rest.head? == some ']' then some ([], c.forward 1)
      else do
        let (first, crossed, after) ← flowValue fuel c
        let (item, after) ←
          match c.afterKey? true crossed after with
          | none => some (first, after)
          | some colon =>
              (flowContent fuel colon).map fun (content, after) =>
                (.mapping [(first, content)], after)
        match after.next.rest with
        | ',' :: _ =>
            let (items, after) ← flowItems fuel (after.next.forward 1).next
            return (item :: items, after)
        | ']' :: _ => return ([item], after.next.forward 1)
        | _ => none

def flowFields : (fuel : Nat) → Cursor → Option (List (Node × Node) × Cursor)
  | 0, _ => none
  | fuel + 1, c =>
      if c.rest.head? == some '\x7d' then some ([], c.forward 1)
      else do
        let (key, crossed, after) ← flowValue fuel c
        let (content, after) ←
          match c.afterKey? true crossed after with
          | none => some (.missing, after)
          | some colon => flowContent fuel colon
        match after.next.rest with
        | ',' :: _ =>
            let (fields, after) ← flowFields fuel (after.next.forward 1).next
            return ((key, content) :: fields, after)
        | '\x7d' :: _ => return ([(key, content)], after.next.forward 1)
        | _ => none

end

/-! ## In blocks -/

mutual

/-- The part that starts here, and the place after it. A block may start here only if `mayStart`
says so; further lines of a scalar start at the column `least` or behind it. -/
def blockValue : (fuel least : Nat) → (mayStart : Bool) → Cursor → Option (Node × Cursor)
  | 0, _, _, _ => none
  | fuel + 1, least, mayStart, c =>
      if c.atDash then
        if mayStart then
          (blockItems fuel c.column false c).map fun (items, after) => (.list items, after)
        else none
      else
        match c.rest with
        | '[' :: _ | '\x7b' :: _ =>
            (flowValue (2 * c.rest.length) c).map fun (node, _, after) => (node, after)
        | '!' :: _ => do
            let (tag, after) ← c.tag?
            let (node, after) ← blockContent fuel least after
            return (← node.tagged? tag, after)
        | _ => do
            let (node, crossed, after) ← readScalar false least c
            match after.afterColon? false, c.afterKey? false crossed after with
            | none, _ => return (node, after)
            | some _, none => none
            | some _, some colon =>
                if !mayStart then none
                else
                  let (fields, after) ← blockFields fuel c.column node colon
                  return (.mapping fields, after)

def blockContent : (fuel least : Nat) → Cursor → Option (Node × Cursor)
  | 0, _, _ => none
  | fuel + 1, least, c =>
      let (start, crossed) := c.gap
      if start.atEnd || (crossed && start.column < least) then some (.missing, c)
      else blockValue fuel least crossed start

/-- The part behind a key in a column, and the place after it; the place given is behind the
colon. -/
def blockAfterColon : (fuel column : Nat) → Cursor → Option (Node × Cursor)
  | 0, _, _ => none
  | fuel + 1, column, c =>
      let (start, crossed) := c.gap
      if start.atEnd then some (.missing, c)
      else if !crossed then blockValue fuel (column + 1) false start
      else if column < start.column then blockValue fuel (column + 1) true start
      else if start.column = column && start.atDash then
        (blockItems fuel column true start).map fun (items, after) => (.list items, after)
      else some (.missing, c)

def blockFields : (fuel column : Nat) → (key : Node) → Cursor →
    Option (List (Node × Node) × Cursor)
  | 0, _, _, _ => none
  | fuel + 1, column, key, colon => do
      let (content, after) ← blockAfterColon fuel column colon
      let (start, crossed) := after.gap
      if start.atEnd || (crossed && start.column < column) then return ([(key, content)], after)
      else if !crossed || start.column != column || start.atDash then none
      else
        let (next, crossed, after) ← readScalar false (column + 1) start
        match start.afterKey? false crossed after with
        | none => none
        | some colon =>
            let (fields, after) ← blockFields fuel column next colon
            return ((key, content) :: fields, after)

/-- The items of a list in a column from a dash on, and the place after the last one. The list is
`hanging` if it stands in the column of the key whose value it is. -/
def blockItems : (fuel column : Nat) → (hanging : Bool) → Cursor → Option (List Node × Cursor)
  | 0, _, _, _ => none
  | fuel + 1, column, hanging, c => do
      let dash := c.forward 1
      let (start, crossed) := dash.gap
      let (item, after) ←
        if start.atEnd || (crossed && start.column ≤ column) then some (.missing, dash)
        else blockValue fuel (column + 1) true start
      let (start, crossed) := after.gap
      if start.atEnd || (crossed && start.column < column) then return ([item], after)
      else if !crossed || start.column != column then none
      else if start.atDash then
        let (items, after) ← blockItems fuel column hanging start
        return (item :: items, after)
      else if hanging then return ([item], after)
      else none

end

/-! ## Documents -/

def Cursor.atEndMark (c : Cursor) : Bool :=
  c.column = 0 && startsMarker '.' c.rest

def afterEndMarks : (fuel : Nat) → Cursor → Cursor
  | 0, c => c
  | fuel + 1, c => if c.atEndMark then afterEndMarks fuel (c.forward 3).next else c

def ended (node : Node) (c : Cursor) : Option Node :=
  if (afterEndMarks c.rest.length c).rest.isEmpty then some node else none

def withoutMark : List Char → List Char
  | '\ufeff' :: cs => cs
  | cs => cs

/-- A document taken apart. Each step of the descent takes a character or goes to the next kind of
part, so that four steps for each character are enough. -/
def parse? (cs : List Char) : Option Node :=
  if !cs.all isAllowed then none
  else
    let first : Cursor := (⟨withoutMark cs, 0⟩ : Cursor).next
    let (start, mayStart) :=
      if first.column = 0 && startsMarker '-' first.rest then (first.forward 3).gap
      else (first, true)
    if first.atEndMark then none
    else if start.atEnd then ended .missing start
    else
      match blockValue (4 * cs.length + 4) 0 mayStart start with
      | none => none
      | some (node, after) => ended node after.next

def read (cs : List Char) : Except ReadError Yaml :=
  match parse? cs with
  | some node => node.value
  | none => .error .malformed

end Wordsheet.Yaml
