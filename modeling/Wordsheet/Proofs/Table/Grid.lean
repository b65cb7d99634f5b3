import Mathlib.Data.List.DropRight
import Mathlib.Data.List.Forall2
import Wordsheet.Proofs.Table.Shape
import Wordsheet.Table.Grid

/-! # What a grid shows

Every line of a grid is as long as every other, and each of its texts starts where the widths of the
columns before it say, with nothing but spaces up to the width of its own column. A column is as
wide as its widest text.
-/

namespace Wordsheet.Grid

variable {widths : List Nat} {cells : List String} {lines : List (List String)}

/-! ## Places in a line -/

/-- The length of a line: a bar, and for each column its width, a space on both sides and a bar. -/
def span : List Nat → Nat
  | [] => 1
  | width :: rest => width + 3 + span rest

def offset (widths : List Nat) (i : Nat) : Nat :=
  span (widths.take i) + 1

def fieldAt (widths : List Nat) (i : Nat) (line : List Char) : List Char :=
  (line.drop (offset widths i)).take (widths.getD i 0)

/-- Whether a line shows texts, one for each width: each in its place, with spaces up to the width,
so that it can be read from there but for spaces at its end. -/
structure Shows (widths : List Nat) (texts : List String) (line : List Char) : Prop where
  length : line.length = span widths
  each : texts.length = widths.length
  field : ∀ i text, texts[i]? = some text →
    ∃ blanks, fieldAt widths i line = text.toList ++ List.replicate blanks ' '
  read : ∀ i text, texts[i]? = some text →
    (fieldAt widths i line).rdropWhile (· == ' ') = text.toList.rdropWhile (· == ' ')

/-- Whether a line is a ruled one: dashes in the place of every column, crosses between them. -/
def IsRule (widths : List Nat) (line : List Char) : Prop :=
  line = '+' :: widths.flatMap fun width => List.replicate (width + 2) '-' ++ ['+']

/-! ## Texts between bars -/

theorem framed_eq {α : Type} (bar : α) (margin : List α) (parts : List (List α))
    (nonempty : parts ≠ []) :
    bar :: margin ++ (margin ++ bar :: margin).intercalate parts ++ (margin ++ [bar]) =
      bar :: parts.flatMap fun part => margin ++ part ++ (margin ++ [bar]) := by
  induction parts with
  | nil => exact absurd rfl nonempty
  | cons part rest ih =>
      cases rest with
      | nil => simp
      | cons next rest =>
          have further := ih (List.cons_ne_nil next rest)
          rw [List.intercalate_cons_cons, List.flatMap_cons]
          simp only [List.cons_append, List.append_assoc, List.cons.injEq, true_and] at further ⊢
          rw [further]
          simp

def barred (text : List Char) : List Char :=
  ' ' :: text ++ [' ', '|']

def row (widths : List Nat) (cells : List String) : List Char :=
  (List.zipWith padRight widths cells).flatMap fun text => barred text.toList

theorem toList_line (nonempty : List.zipWith padRight widths cells ≠ []) :
    (line widths cells).toList = '|' :: row widths cells := by
  have framed := framed_eq '|' [' '] ((List.zipWith padRight widths cells).map String.toList)
    (mt List.map_eq_nil_iff.1 nonempty)
  rw [List.flatMap_map] at framed
  simpa [line, row, barred] using framed

theorem isRule_rule (nonempty : widths ≠ []) : IsRule widths (rule widths).toList := by
  let dashes (width : Nat) : List Char := List.replicate (width + 2) '-'
  have framed := framed_eq '+' [] (widths.map dashes) (mt List.map_eq_nil_iff.1 nonempty)
  rw [List.flatMap_map] at framed
  simpa [IsRule, rule, dashes, Function.comp_def] using framed

namespace IsRule

variable {line : List Char}

theorem length_eq (ruled : IsRule widths line) : line.length = span widths := by
  subst ruled
  induction widths with
  | nil => rfl
  | cons width rest ih =>
      rw [List.length_cons] at ih
      rw [List.flatMap_cons, List.length_cons, List.length_append, List.length_append,
        List.length_replicate, List.length_singleton, Nat.add_assoc, ih, span]

theorem eq_of_mem (ruled : IsRule widths line) {c : Char} (h : c ∈ line) : c = '+' ∨ c = '-' := by
  rw [ruled, List.mem_cons, List.mem_flatMap] at h
  obtain rfl | ⟨width, _, h⟩ := h
  · exact .inl rfl
  · obtain h | h := List.mem_append.1 h
    · exact .inr (List.eq_of_mem_replicate h)
    · exact .inl (List.mem_singleton.1 h)

end IsRule

/-! ## Widths that fit -/

/-- Whether there is one width for each text and no text is longer than its width. -/
def Fits : List Nat → List String → Prop :=
  List.Forall₂ fun width text => text.length ≤ width

/-- Whether widths are the least ones that fit some lines. -/
structure LeastFit (widths : List Nat) (lines : List (List String)) : Prop where
  fits : ∀ cells ∈ lines, Fits widths cells
  least : ∀ others, (∀ cells ∈ lines, Fits others cells) → List.Forall₂ (· ≤ ·) widths others

theorem fits_lengths (cells : List String) : Fits (cells.map String.length) cells :=
  List.forall₂_map_left_iff.2 (List.forall₂_same.2 fun _ _ => Nat.le_refl _)

theorem lengths_le {others : List Nat} (fits : Fits others cells) :
    List.Forall₂ (· ≤ ·) (cells.map String.length) others :=
  List.forall₂_map_left_iff.2 fits.flip

theorem length_widen (widths : List Nat) (cells : List String) :
    (widen widths cells).length = widths.length := by
  fun_induction widen widths cells with
  | case1 _ _ _ _ ih => simp [ih]
  | case2 => rfl

theorem fits_widen (h : cells.length = widths.length) : Fits (widen widths cells) cells := by
  induction widths generalizing cells with
  | nil =>
      rw [List.length_eq_zero_iff.1 h]
      exact .nil
  | cons width widths ih =>
      cases cells with
      | nil => cases h
      | cons cell cells => exact .cons (Nat.le_max_right ..) (ih (Nat.succ.inj h))

theorem Fits.widen (fits : Fits widths cells) (others : List String) :
    Fits (widen widths others) cells := by
  induction fits generalizing others with
  | nil => exact .nil
  | cons hcell fits ih =>
      cases others with
      | nil => exact .cons hcell fits
      | cons other others => exact .cons (Nat.le_trans hcell (Nat.le_max_left ..)) (ih others)

theorem widen_le {others : List Nat} (h : List.Forall₂ (· ≤ ·) widths others)
    (fits : Fits others cells) : List.Forall₂ (· ≤ ·) (Grid.widen widths cells) others := by
  induction h generalizing cells with
  | nil => exact .nil
  | cons hwidth _ ih =>
      cases fits with
      | cons hcell fits => exact .cons (Nat.max_le.2 ⟨hwidth, hcell⟩) (ih fits)

theorem Fits.foldl_widen (fits : Fits widths cells) (lines : List (List String)) :
    Fits (lines.foldl Grid.widen widths) cells := by
  induction lines generalizing widths with
  | nil => exact fits
  | cons first _ ih => exact ih (fits.widen first)

theorem fits_foldl_widen (even : ∀ cells ∈ lines, cells.length = widths.length) :
    ∀ cells ∈ lines, Fits (lines.foldl widen widths) cells := by
  induction lines generalizing widths with
  | nil => exact fun _ h => absurd h List.not_mem_nil
  | cons first rest ih =>
      obtain ⟨hfirst, hrest⟩ := List.forall_mem_cons.1 even
      refine List.forall_mem_cons.2 ⟨(fits_widen hfirst).foldl_widen rest, ?_⟩
      exact ih fun cells h => (hrest cells h).trans (length_widen widths first).symm

theorem foldl_widen_le {others : List Nat} (h : List.Forall₂ (· ≤ ·) widths others)
    (fits : ∀ cells ∈ lines, Fits others cells) :
    List.Forall₂ (· ≤ ·) (lines.foldl widen widths) others := by
  induction lines generalizing widths with
  | nil => exact h
  | cons first rest ih =>
      obtain ⟨hfirst, hrest⟩ := List.forall_mem_cons.1 fits
      exact ih (widen_le h hfirst) hrest

theorem leastFit_widths {heading : List String} {body : List (List String)}
    (even : ∀ cells ∈ body, cells.length = heading.length) :
    LeastFit (Grid.widths heading body) (heading :: body) where
  fits := List.forall_mem_cons.2 ⟨(fits_lengths heading).foldl_widen body,
    fits_foldl_widen fun cells h => (even cells h).trans (List.length_map _).symm⟩
  least := fun _ h => foldl_widen_le (lengths_le (List.forall_mem_cons.1 h).1)
    (List.forall_mem_cons.1 h).2

/-! ## Lines -/

theorem toList_padRight (width : Nat) (text : String) :
    (padRight width text).toList = text.toList ++ List.replicate (width - text.length) ' ' := by
  rw [padRight, String.toList_append, String.toList_ofList]

theorem length_padRight {width : Nat} {text : String} (h : text.length ≤ width) :
    (padRight width text).toList.length = width := by
  rw [toList_padRight, List.length_append, List.length_replicate, String.length_toList]
  omega

theorem length_barred (text : List Char) : (barred text).length = text.length + 3 := by
  simp [barred]

theorem row_cons (width : Nat) (text : String) :
    row (width :: widths) (text :: cells) =
      barred (padRight width text).toList ++ row widths cells := rfl

theorem length_row (fits : Fits widths cells) : (row widths cells).length + 1 = span widths := by
  induction fits with
  | nil => rfl
  | cons h _ ih =>
      rw [row_cons, List.length_append, length_barred, length_padRight h, Nat.add_assoc, ih, span]

/-- Behind the texts of the columns before it and a space comes a text, filled up to its width. -/
theorem take_row (fits : Fits widths cells) {i width : Nat} {text : String}
    (hwidth : widths[i]? = some width) (htext : cells[i]? = some text) :
    ((row widths cells).drop (span (widths.take i))).take width =
      (padRight width text).toList := by
  induction fits generalizing i with
  | nil => cases hwidth
  | @cons first cell widths cells h _ ih =>
      rw [row_cons]
      cases i with
      | zero =>
          cases hwidth
          cases htext
          change ((padRight width text).toList ++ [' ', '|'] ++ row widths cells).take width = _
          rw [List.append_assoc]
          exact List.take_left' (length_padRight h)
      | succ i =>
          -- the part of the first column is passed over as a whole
          have before : span ((first :: widths).take (i + 1)) =
              (barred (padRight first cell).toList).length + span (widths.take i) := by
            rw [length_barred, length_padRight h, List.take_succ_cons, span]
          rw [before, List.drop_length_add_append]
          exact ih hwidth htext

theorem rdropWhile_append_blanks (text : List Char) (blanks : Nat) :
    (text ++ List.replicate blanks ' ').rdropWhile (· == ' ') = text.rdropWhile (· == ' ') := by
  induction blanks with
  | zero => rw [List.replicate_zero, List.append_nil]
  | succ blanks ih =>
      rw [List.replicate_succ', ← List.append_assoc, List.rdropWhile_concat_pos _ _ _ rfl, ih]

theorem zipWith_padRight_ne_nil (fits : Fits widths cells) (nonempty : widths ≠ []) :
    List.zipWith padRight widths cells ≠ [] := by
  cases fits with
  | nil => exact absurd rfl nonempty
  | cons => exact List.cons_ne_nil _ _

theorem shows_line (fits : Fits widths cells) (nonempty : widths ≠ []) :
    Shows widths cells (line widths cells).toList := by
  have texts := zipWith_padRight_ne_nil fits nonempty
  have field : ∀ i text, cells[i]? = some text →
      fieldAt widths i (line widths cells).toList =
        text.toList ++ List.replicate (widths.getD i 0 - text.length) ' ' := by
    intro i text htext
    obtain ⟨bound, _⟩ := List.getElem?_eq_some_iff.1 htext
    have hwidth : widths[i]? = some (widths.getD i 0) := by
      rw [← fits.length_eq] at bound
      simp [bound]
    rw [← toList_padRight, ← take_row fits hwidth htext, fieldAt, offset, toList_line texts]
    rfl
  refine ⟨?_, fits.length_eq.symm, fun i text htext => ⟨_, field i text htext⟩,
    fun i text htext => ?_⟩
  · rw [toList_line texts, List.length_cons, length_row fits]
  · rw [field i text htext, rdropWhile_append_blanks]

theorem notMem_row (fits : Fits widths cells) {c : Char} (hbar : c ∉ [' ', '|'])
    (hcells : ∀ cell ∈ cells, c ∉ cell.toList) : c ∉ row widths cells := by
  induction fits with
  | nil => exact List.not_mem_nil
  | @cons width cell widths cells _ _ ih =>
      obtain ⟨hcell, hcells⟩ := List.forall_mem_cons.1 hcells
      have hblank : c ∉ List.replicate (width - cell.length) ' ' := fun h =>
        hbar (List.eq_of_mem_replicate h ▸ .head _)
      have hfirst : c ∉ barred (padRight width cell).toList := by
        simpa [barred, toList_padRight, hcell, hblank] using hbar
      exact List.not_mem_append hfirst (ih hcells)

theorem notMem_line (fits : Fits widths cells) (nonempty : widths ≠ []) {c : Char}
    (hbar : c ∉ [' ', '|']) (hcells : ∀ cell ∈ cells, c ∉ cell.toList) :
    c ∉ (line widths cells).toList := by
  rw [toList_line (zipWith_padRight_ne_nil fits nonempty)]
  exact List.not_mem_cons_of_ne_of_not_mem (fun h => hbar (h ▸ .tail _ (.head _)))
    (notMem_row fits hbar hcells)

end Wordsheet.Grid

namespace Wordsheet.Table

open Grid

/-- The texts of a table line by line: the heading with its label, and each row with its name and
one cell for each column. -/
def texts (t : Table) (label : String) : List (List String) :=
  (label :: t.columns) ::
    t.rows.entries.map fun row => row.name :: fitTo t.columns.length row.cells

def gridWidths (t : Table) (label : String) : List Nat :=
  Grid.widths (label :: t.columns) (t.texts label).tail

theorem leastFit_gridWidths (t : Table) (label : String) :
    LeastFit (t.gridWidths label) (t.texts label) := by
  refine leastFit_widths fun cells h => ?_
  obtain ⟨row, _, rfl⟩ := List.mem_map.1 h
  rw [List.length_cons, List.length_cons, length_fitTo]

theorem gridWidths_ne_nil (t : Table) (label : String) : t.gridWidths label ≠ [] := by
  intro h
  have fits := (leastFit_gridWidths t label).fits _ (.head _)
  rw [h] at fits
  cases fits

theorem gridLines_eq (t : Table) (label : String) :
    t.gridLines label =
      rule (t.gridWidths label) :: line (t.gridWidths label) (label :: t.columns) ::
        rule (t.gridWidths label) :: (t.texts label).tail.map (line (t.gridWidths label)) ++
          [rule (t.gridWidths label)] := by
  have body : (t.fittedRows.entries.map fun row => row.name :: row.cells) =
      (t.texts label).tail := by
    have fitted : t.fittedRows.entries =
        t.rows.entries.map (·.withCells (fitTo t.columns.length)) := rfl
    rw [fitted, List.map_map]
    rfl
  simp only [gridLines, body]
  rfl

theorem mem_of_mem_fitTo {width : Nat} {cells : List String} {text : String}
    (h : text ∈ fitTo width cells) : text ∈ cells ∨ text = "" := by
  obtain h | h := List.mem_append.1 h
  · exact .inl (List.mem_of_mem_take h)
  · exact .inr (List.eq_of_mem_replicate h)

section Unbroken

variable {t : Table} {label : String}
  (heading : ∀ text ∈ label :: t.columns, '\n' ∉ text.toList)
  (rows : ∀ row ∈ t.rows.entries, ∀ text ∈ row.name :: row.cells, '\n' ∉ text.toList)

include heading rows

theorem notMem_texts : ∀ cells ∈ t.texts label, ∀ text ∈ cells, '\n' ∉ text.toList := by
  refine List.forall_mem_cons.2 ⟨heading, List.forall_mem_map.2 fun row hrow => ?_⟩
  obtain ⟨hname, hcells⟩ := List.forall_mem_cons.1 (rows row hrow)
  refine List.forall_mem_cons.2 ⟨hname, fun text htext => ?_⟩
  obtain h | rfl := mem_of_mem_fitTo htext
  · exact hcells text h
  · exact List.not_mem_nil

theorem notMem_gridLines : ∀ shown ∈ t.gridLines label, '\n' ∉ shown.toList := by
  have fits := (leastFit_gridWidths t label).fits
  have nonempty := gridWidths_ne_nil t label
  have hrule : '\n' ∉ (rule (t.gridWidths label)).toList := fun h => by
    have := (isRule_rule nonempty).eq_of_mem h
    revert this
    decide
  have hline : ∀ cells ∈ t.texts label, '\n' ∉ (line (t.gridWidths label) cells).toList :=
    fun cells h => notMem_line (fits cells h) nonempty (by decide)
      (notMem_texts heading rows cells h)
  rw [gridLines_eq]
  simp only [List.cons_append, List.forall_mem_cons, List.forall_mem_append, List.forall_mem_map,
    List.not_mem_nil, false_implies, implies_true, and_true]
  exact ⟨hrule, hline _ (.head _), hrule, fun cells h => hline cells (.tail _ h), hrule⟩

end Unbroken

/-- A grid without line breaks in its texts is the name of the table and lines of one length: a
rule, the heading, a rule, a line for every row in order and a rule. The columns are just wide
enough, and every text of the heading and of the rows, with one cell for each column, is read in its
place. -/
theorem splitOn_toGrid (t : Table) (label : String) (name : '\n' ∉ t.name.toList)
    (heading : ∀ text ∈ label :: t.columns, '\n' ∉ text.toList)
    (rows : ∀ row ∈ t.rows.entries, ∀ text ∈ row.name :: row.cells, '\n' ∉ text.toList) :
    ∃ widths rule first body,
      (t.toGrid label).toList.splitOn '\n' =
          t.name.toList :: ([rule, first, rule] ++ body ++ [rule]) ∧
        ([rule, first, rule] ++ body ++ [rule]).length = t.rows.size + 4 ∧
        (∀ line ∈ [rule, first, rule] ++ body ++ [rule], line.length = span widths) ∧
        LeastFit widths (t.texts label) ∧ IsRule widths rule ∧
        Shows widths (label :: t.columns) first ∧
        List.Forall₂
          (fun row line => Shows widths (row.name :: fitTo t.columns.length row.cells) line)
          t.rows.entries body := by
  have least := leastFit_gridWidths t label
  have nonempty := gridWidths_ne_nil t label
  have ruled := isRule_rule nonempty
  have shown : ∀ cells ∈ t.texts label,
      Shows (t.gridWidths label) cells (line (t.gridWidths label) cells).toList :=
    fun cells h => shows_line (least.fits cells h) nonempty
  obtain ⟨hfirst, hbody⟩ := List.forall_mem_cons.1 shown
  refine ⟨t.gridWidths label, (rule (t.gridWidths label)).toList,
    (line (t.gridWidths label) (label :: t.columns)).toList,
    (t.texts label).tail.map fun cells => (line (t.gridWidths label) cells).toList,
    ?_, ?_, ?_, least, ruled, hfirst, ?_⟩
  · rw [toGrid, String.toList_intercalate]
    refine (List.splitOn_intercalate '\n' ?_ (List.cons_ne_nil _ _)).trans ?_
    · rw [List.forall_mem_cons, List.forall_mem_map]
      exact ⟨name, notMem_gridLines heading rows⟩
    · rw [gridLines_eq]
      simp [Function.comp_def]
  · simp [texts, Catalog.size]
  · simp only [List.forall_mem_append, List.forall_mem_cons, List.forall_mem_map,
      List.not_mem_nil, false_implies, implies_true, and_true]
    exact ⟨⟨⟨ruled.length_eq, hfirst.length, ruled.length_eq⟩,
      fun cells h => (hbody cells h).length⟩, ruled.length_eq⟩
  · rw [texts, List.tail_cons, List.map_map, List.forall₂_map_right_iff, List.forall₂_same]
    exact fun row h => hbody _ (List.mem_map_of_mem h)

theorem splitOn_toGrid_ragged :
    let t : Table := ⟨"T", ["a", "bcd"], ⟨[⟨"", []⟩, ⟨"row 2 ", ["", "é ", "past"]⟩], by decide⟩⟩
    ∃ widths rule first body,
      (t.toGrid "Row").toList.splitOn '\n' =
          t.name.toList :: ([rule, first, rule] ++ body ++ [rule]) ∧
        ([rule, first, rule] ++ body ++ [rule]).length = t.rows.size + 4 ∧
        (∀ line ∈ [rule, first, rule] ++ body ++ [rule], line.length = span widths) ∧
        LeastFit widths (t.texts "Row") ∧ IsRule widths rule ∧
        Shows widths ("Row" :: t.columns) first ∧
        List.Forall₂
          (fun row line => Shows widths (row.name :: fitTo t.columns.length row.cells) line)
          t.rows.entries body :=
  splitOn_toGrid _ "Row" (by decide) (by decide) (by decide)

example :
    toGrid ⟨"T", ["a"], ⟨[⟨"", []⟩, ⟨"r", ["é ", "past"]⟩], by decide⟩⟩ "Row" =
      "T\n+-----+----+\n| Row | a  |\n+-----+----+\n|     |    |\n| r   | é  |\n+-----+----+" := by
  decide +kernel

end Wordsheet.Table
