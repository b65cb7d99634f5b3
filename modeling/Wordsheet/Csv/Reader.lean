import Wordsheet.Csv.Writer

/-! # Reading CSV

A file is read byte by byte. A mark of byte order and blank lines before the
heading are skipped. A field that starts with a double quote runs on while the
quotes in it are not even, so that commas and line feeds may stand inside, and
has to end with a quote; any other field runs to the next comma or line feed.
Every line after the heading is a record, a blank one too; fields missing at its
end are missing entries. Lines are told by the line feeds that have an even
number of quotes before them, wherever those stand, and there have to be as many
of them as records.

In the heading the quotes around a name are taken off and no others, and a name
that comes again is marked as a duplicate. Files may be read together if their
headings agree.
-/

namespace Wordsheet.Csv

open Text

inductive ReadError where
  | noFiles
  | noData
  | repeatedName
  | tooManyFields
  /-- A field starts with a quote and ends with none. -/
  | openQuote
  | invalidText
  /-- There are more lines than records, or fewer. -/
  | brokenLines
  /-- Files have other headings. -/
  | unlikeHeadings
  deriving DecidableEq, Repr

/-! ## Fields -/

inductive Ending where
  | comma
  | line
  | file
  deriving DecidableEq, Repr

structure Cut where
  field : List UInt8
  ending : Ending
  rest : List UInt8
  deriving DecidableEq, Repr

/-- Cuts at the first comma or line feed outside quotes; quotes count only if asked for. -/
def cutFrom (quotesCount inside : Bool) : List UInt8 → Cut
  | [] => ⟨[], .file, []⟩
  | b :: rest =>
      if !inside && b == comma then ⟨[], .comma, rest⟩
      else if !inside && b == lineFeed then ⟨[], .line, rest⟩
      else
        let cut := cutFrom quotesCount (inside != (quotesCount && b == quote)) rest
        { cut with field := b :: cut.field }

def isQuoted (field : List UInt8) : Bool :=
  field.head? == some quote

def cut (bytes : List UInt8) : Cut :=
  cutFrom (isQuoted bytes) false bytes

theorem cutFrom_length (quotesCount inside : Bool) (bytes : List UInt8) :
    (cutFrom quotesCount inside bytes).rest.length ≤ bytes.length ∧
      ((cutFrom quotesCount inside bytes).ending ≠ .file →
        (cutFrom quotesCount inside bytes).rest.length < bytes.length) := by
  induction bytes generalizing inside with
  | nil => simp [cutFrom]
  | cons b rest ih =>
      simp only [cutFrom, List.length_cons]
      split
      · simp
      · split
        · simp
        · have h := ih (inside != (quotesCount && b == quote))
          exact ⟨Nat.le_succ_of_le h.1, fun he => Nat.lt_succ_of_lt (h.2 he)⟩

theorem cut_length {bytes : List UInt8} (h : (cut bytes).ending ≠ .file) :
    (cut bytes).rest.length < bytes.length :=
  (cutFrom_length _ _ bytes).2 h

def dropReturn (bytes : List UInt8) : List UInt8 :=
  if bytes.getLast? == some carriageReturn then bytes.dropLast else bytes

def stripEnds (bytes : List UInt8) : List UInt8 :=
  bytes.tail.dropLast

/-- Bytes with every pair of neighbouring quotes made one and every other quote dropped. -/
def undoubleQuotes : List UInt8 → List UInt8
  | [] => []
  | [b] => if b == quote then [] else [b]
  | a :: b :: rest =>
      if a == quote then
        if b == quote then quote :: undoubleQuotes rest else undoubleQuotes (b :: rest)
      else a :: undoubleQuotes (b :: rest)

def isClosed (field : List UInt8) : Bool :=
  field.tail.getLast? == some quote

/-- The entry that a field of a record holds; an empty field without quotes holds none. -/
def entry (field : List UInt8) : Except ReadError (Option String) := do
  let field := dropReturn field
  if field.isEmpty then return none
  else if isQuoted field && !isClosed field then throw .openQuote
  else
    let content := if isQuoted field then undoubleQuotes (stripEnds field) else field
    match Utf8.decode content with
    | .ok cs => return some (String.ofList cs)
    | .error _ => throw .invalidText

/-! ## Heading -/

/-- The heading line and what follows it: the line ends at the first line feed outside quotes. -/
def splitHeading (inside : Bool) : List UInt8 → List UInt8 × List UInt8
  | [] => ([], [])
  | b :: rest =>
      if !inside && b == lineFeed then ([], rest)
      else
        let (line, after) := splitHeading (inside != (b == quote)) rest
        (b :: line, after)

def headingName (field : List UInt8) : String :=
  let name := if isQuoted field && 2 ≤ field.length then stripEnds field else field
  String.ofList (Utf8.decodeLossy name)

def headingNames (line : List UInt8) : List String :=
  let field := cut line
  if _more : field.ending = .comma then headingName field.field :: headingNames field.rest
  else [headingName field.field]
termination_by line.length
decreasing_by exact cut_length fun he => Ending.noConfusion (he.symm.trans _more)

/-- Names with those that came before, `seen`, marked by how often they came. -/
def markDuplicates (seen : List String) : List String → List String
  | [] => []
  | name :: rest =>
      let marked :=
        match seen.count name with
        | 0 => name
        | times + 1 => s!"{name}_duplicated_{times}"
      marked :: markDuplicates (name :: seen) rest

/-! ## Records -/

/-- The entries of the record at the head of some bytes, and the bytes after it. At most `width`
fields fit; a comma after the last one is let pass at the end of the file only. -/
def readRecord : (width : Nat) → List UInt8 →
    Except ReadError (List (Option String) × List UInt8)
  | 0, _ => .error .tooManyFields
  | width + 1, bytes => do
      let field := cut bytes
      let first ← entry field.field
      if field.ending = .comma && !(width = 0 && field.rest.isEmpty) then
        let (entries, rest) ← readRecord width field.rest
        return (first :: entries, rest)
      else return (first :: List.replicate width none, field.rest)

theorem cutFrom_cons_length (quotesCount : Bool) (b : UInt8) (bytes : List UInt8) :
    (cutFrom quotesCount false (b :: bytes)).rest.length < (b :: bytes).length := by
  simp only [cutFrom, List.length_cons]
  split
  · simp
  · split
    · simp
    · exact Nat.lt_succ_of_le (cutFrom_length ..).1

theorem readRecord_length {width : Nat} {bytes rest : List UInt8} {entries : List (Option String)}
    (h : readRecord width bytes = .ok (entries, rest)) :
    entries.length = width ∧ rest.length ≤ bytes.length ∧
      (bytes ≠ [] → rest.length < bytes.length) := by
  induction width generalizing bytes entries rest with
  | zero => simp [readRecord] at h
  | succ width ih =>
      have hc := (cutFrom_length (isQuoted bytes) false bytes).1
      have hs : bytes ≠ [] → (cut bytes).rest.length < bytes.length := by
        cases bytes with
        | nil => simp
        | cons b bytes => exact fun _ => cutFrom_cons_length ..
      rw [readRecord] at h
      change (entry (cut bytes).field).bind _ = _ at h
      cases he : entry (cut bytes).field with
      | error e => simp [he, Except.bind] at h
      | ok first =>
          simp only [he, Except.bind] at h
          split at h
          · change (readRecord width (cut bytes).rest).bind _ = _ at h
            cases hr : readRecord width (cut bytes).rest with
            | error e => simp [hr, Except.bind] at h
            | ok next =>
                obtain ⟨more, after⟩ := next
                have hn := ih hr
                simp only [hr, Except.bind, pure, Except.pure, Except.ok.injEq,
                  Prod.mk.injEq] at h
                obtain ⟨rfl, rfl⟩ := h
                simp only [cut] at hn hs hc ⊢
                refine ⟨by simp [hn.1], by omega, fun hb => by have := hs hb; omega⟩
          · simp only [pure, Except.pure, Except.ok.injEq, Prod.mk.injEq] at h
            obtain ⟨rfl, rfl⟩ := h
            exact ⟨by simp, hc, hs⟩

def readRecords (width : Nat) (bytes : List UInt8) :
    Except ReadError (List (List (Option String))) :=
  match bytes with
  | [] => .ok []
  | b :: bytes =>
      match _read : readRecord width (b :: bytes) with
      | .error e => .error e
      | .ok (record, rest) => (readRecords width rest).map (record :: ·)
termination_by bytes.length
decreasing_by exact (readRecord_length _read).2.2 (by simp)

theorem length_of_mem_readRecords {width : Nat} {bytes : List UInt8}
    {records : List (List (Option String))} (h : readRecords width bytes = .ok records) :
    ∀ record ∈ records, record.length = width := by
  fun_induction readRecords width bytes generalizing records with
  | case1 => simp_all
  | case2 => simp at h
  | case3 b bytes record rest hr ih =>
      cases hm : readRecords width rest with
      | error e => simp [hm, Except.map] at h
      | ok more =>
          simp only [hm, Except.map, Except.ok.injEq] at h
          subst h
          intro r hmem
          cases List.mem_cons.1 hmem with
          | inl he => exact he ▸ (readRecord_length hr).1
          | inr hin => exact ih hm r hin

/-! ## Lines -/

def countLineFeeds (inside : Bool) : List UInt8 → Nat
  | [] => 0
  | b :: rest =>
      let more := countLineFeeds (inside != (b == quote)) rest
      if !inside && b == lineFeed then more + 1 else more

/-- How many lines some bytes hold; the last one need not end with a line feed. -/
def countLines (bytes : List UInt8) : Nat :=
  let ended := countLineFeeds false bytes
  if bytes.getLast?.any (· != lineFeed) then ended + 1 else ended

/-! ## Sheets -/

def dropByteOrderMark : List UInt8 → List UInt8
  | 0xef :: 0xbb :: 0xbf :: rest => rest
  | bytes => bytes

/-- Bytes without the blank lines at their head; a carriage return alone is a blank line too. -/
def skipBlankLines : List UInt8 → List UInt8
  | 0x0a :: rest => skipBlankLines rest
  | 0x0d :: 0x0a :: rest => skipBlankLines rest
  | [0x0d] => []
  | bytes => bytes

structure Sheet where
  names : List String
  body : List UInt8
  distinct : names.Nodup

namespace Sheet

def ofFile (file : List UInt8) : Except ReadError Sheet :=
  let bytes := skipBlankLines (dropByteOrderMark file)
  if bytes.isEmpty then .error .noData
  else
    let (heading, body) := splitHeading false bytes
    let names := markDuplicates [] (headingNames (dropReturn heading))
    if distinct : names.Nodup then .ok ⟨names, body, distinct⟩ else .error .repeatedName

def frame (s : Sheet) : Except ReadError Frame :=
  match read : readRecords s.names.length s.body with
  | .error e => .error e
  | .ok records =>
      if records.length = countLines s.body then
        .ok ⟨s.names, records, s.distinct, length_of_mem_readRecords read⟩
      else .error .brokenLines

end Sheet

end Wordsheet.Csv

namespace Wordsheet.Frame

open Csv

def ofCsv (file : List UInt8) : Except ReadError Frame := do
  (← Sheet.ofFile file).frame

/-- A frame with the records of another one, under the same names, at its end. -/
def append (f g : Frame) (same : g.names = f.names) : Frame :=
  ⟨f.names, f.records ++ g.records, f.distinct, fun record h =>
    (List.mem_append.1 h).elim (f.even record) fun h => same ▸ g.even record h⟩

/-- The frame that several files hold together, the records in the order of the files. -/
def ofFiles (files : List (List UInt8)) : Except ReadError Frame := do
  -- the headings of all files are read before the records of any
  match ← files.mapM Sheet.ofFile with
  | [] => throw .noFiles
  | first :: rest =>
      rest.foldlM (fun f sheet => do
        let g ← sheet.frame
        if same : g.names = f.names then return f.append g same else throw .unlikeHeadings)
        (← first.frame)

/-- One file alone is read as it is. -/
theorem ofFiles_singleton (file : List UInt8) : ofFiles [file] = ofCsv file := by
  simp only [ofFiles, ofCsv, List.mapM_cons, List.mapM_nil]
  cases Sheet.ofFile file with
  | error cause => rfl
  | ok sheet =>
      change (sheet.frame).bind (fun f => Except.ok f) = sheet.frame
      cases sheet.frame <;> rfl

end Wordsheet.Frame
