import Wordsheet.Proofs.Csv.Exchange

/-! # Frames by their columns

A frame can be given by its columns: names over entries from top to bottom, all of one height. Its
table has a row for each height, and the frame of that table is the one with empty texts for missing
entries. The other way round, the table of a table's frame shows what the table shows, so nothing is
lost in either direction.
-/

namespace Wordsheet

namespace Frame

/-! ## Columns -/

structure Column where
  name : String
  entries : List (Option String)
  deriving DecidableEq, Repr

namespace Column

def entry (c : Column) (i : Nat) : Option String :=
  c.entries.getD i none

/-- The entry of a column in a record, a missing one read as empty. -/
def text (c : Column) (i : Nat) : String :=
  (c.entry i).getD ""

def texts (c : Column) : List String :=
  c.entries.map (·.getD "")

def filled (c : Column) : Column :=
  { c with entries := c.texts.map some }

theorem map_text_range (c : Column) : (List.range c.entries.length).map c.text = c.texts := by
  apply List.ext_getElem
  · simp [texts]
  · intro i _ bound
    have hi : i < c.entries.length := by simpa [texts] using bound
    simp [texts, text, entry, hi]

theorem entry_filled {c : Column} {i : Nat} (h : i < c.entries.length) :
    c.filled.entry i = some (c.text i) := by
  simp [filled, texts, entry, text, h]

end Column

/-- Columns of one height under distinct names. -/
structure Columns where
  list : List Column
  height : Nat
  distinct : (list.map Column.name).Nodup
  even : ∀ column ∈ list, column.entries.length = height

namespace Columns

def frame (c : Columns) : Frame where
  names := c.list.map Column.name
  records := (List.range c.height).map fun i => c.list.map (·.entry i)
  distinct := c.distinct
  even := by simp

theorem names_frame (c : Columns) : c.frame.names = c.list.map Column.name := rfl

theorem records_frame (c : Columns) :
    c.frame.records = (List.range c.height).map fun i => c.list.map (·.entry i) := rfl

def filled (c : Columns) : Columns where
  list := c.list.map Column.filled
  height := c.height
  distinct := by simpa [Function.comp_def, Column.filled] using c.distinct
  even := by
    rw [List.forall_mem_map]
    intro column h
    simpa [Column.filled, Column.texts] using c.even column h

end Columns

theorem eq_of_names_records {f g : Frame} (names : f.names = g.names)
    (records : f.records = g.records) : f = g := by
  cases f
  cases g
  simp_all

/-- Every frame is the frame of its columns. -/
theorem exists_columns (f : Frame) : ∃ c : Columns, c.frame = f := by
  -- the entries of a column are those at its place in the records
  let column (named : String × Nat) : Column := ⟨named.1, f.records.map (·.getD named.2 none)⟩
  have names : (f.names.zipIdx.map column).map Column.name = f.names := by
    rw [List.map_map]
    exact List.zipIdx_map_fst ..
  have distinct : ((f.names.zipIdx.map column).map Column.name).Nodup := by
    rw [names]
    exact f.distinct
  have even : ∀ c ∈ f.names.zipIdx.map column, c.entries.length = f.records.length := by
    rw [List.forall_mem_map]
    exact fun named _ => List.length_map _
  refine ⟨⟨f.names.zipIdx.map column, f.records.length, distinct, even⟩,
    eq_of_names_records names ?_⟩
  apply List.ext_getElem
  · simp [Columns.records_frame]
  · intro i _ bound
    have width := f.even _ (List.getElem_mem bound)
    apply List.ext_getElem
    · simp [Columns.records_frame, width]
    · intro j _ inside
      simp [Columns.records_frame, column, Column.entry, bound, inside]

/-! ## The table of a frame -/

variable {c : Columns} {first : Column} {rest : List Column} {header : String}

/-- The row of a height: the first column holds its name, the others its cells. -/
def rowAt (first : Column) (rest : List Column) (i : Nat) : Row :=
  ⟨first.text i, rest.map (·.text i)⟩

theorem rows_frame (h : c.list = first :: rest) :
    c.frame.records.map rowOf = (List.range c.height).map (rowAt first rest) := by
  rw [c.records_frame, h, List.map_map]
  refine List.map_congr_left fun i _ => ?_
  simp [rowOf, rowAt, Column.text, Function.comp_def]

theorem rowNames_frame (h : c.list = first :: rest) :
    (c.frame.records.map rowOf).map Row.name = first.texts := by
  have tall : first.entries.length = c.height := c.even first (h ▸ List.mem_cons_self)
  rw [rows_frame h, List.map_map, ← first.map_text_range, tall]
  rfl

theorem toTable_of_head (h : c.list.head?.map Column.name ≠ some header) (name : String) :
    c.frame.toTable name header =
      .error (.firstColumn header (c.list.head?.map Column.name).toList) := by
  rw [toTable]
  cases hc : c.list with
  | nil =>
      rw [c.names_frame, hc]
      rfl
  | cons first rest =>
      have other : first.name ≠ header := by
        rintro rfl
        exact h (by rw [hc]; rfl)
      rw [c.names_frame, hc, List.map_cons]
      simp only [ne_eq, other, not_false_eq_true, ↓reduceIte]
      rfl

theorem toTable_of_repeated (h : c.list = first :: rest) (headed : first.name = header)
    (repeats : ¬ first.texts.Nodup) (name : String) :
    c.frame.toTable name header = .error (.repeatedRows header) := by
  have names : c.frame.names = header :: rest.map Column.name := by
    rw [c.names_frame, h, List.map_cons, headed]
  rw [← rowNames_frame h] at repeats
  rw [toTable, names]
  simp only [ne_eq, not_true_eq_false, ↓reduceIte, repeats, ↓reduceDIte]

/-- A frame whose first column is headed right and holds no text twice has a table. -/
theorem toTable_of_headed (h : c.list = first :: rest) (headed : first.name = header)
    (apart : first.texts.Nodup) (name : String) :
    ∃ t, c.frame.toTable name header = .ok t ∧ t.name = name ∧
      t.columns = rest.map Column.name ∧
      t.rows.entries = (List.range c.height).map (rowAt first rest) := by
  have names : c.frame.names = header :: rest.map Column.name := by
    rw [c.names_frame, h, List.map_cons, headed]
  rw [← rowNames_frame h] at apart
  let rows : Catalog Row Row.name := ⟨c.frame.records.map rowOf, apart⟩
  have made : c.frame.toTable name header = .ok ⟨name, rest.map Column.name, rows⟩ :=
    Table.toTable_eq_ok name names rfl
  exact ⟨_, made, rfl, rfl, rows_frame h⟩

end Frame

namespace Table

open Wordsheet.Frame (Column Columns)

variable {t : Table} {c : Columns} {first : Column} {rest : List Column} {header : String}

/-! ## The frame of that table -/

theorem records_filled (h : c.list = first :: rest) :
    c.filled.frame.records =
      ((List.range c.height).map (Frame.rowAt first rest)).map fun row =>
        some row.name :: row.cells.map some := by
  rw [c.filled.records_frame, List.map_map]
  refine List.map_congr_left fun i hi => ?_
  have inside : ∀ column ∈ first :: rest, column.filled.entry i = some (column.text i) := by
    intro column hc
    refine Column.entry_filled ?_
    rw [c.even column (h ▸ hc)]
    exact List.mem_range.1 hi
  have filled : c.filled.list = (first :: rest).map Column.filled := by rw [← h]; rfl
  rw [filled, List.map_map, Function.comp_def, List.map_congr_left inside]
  simp [Frame.rowAt]

/-- The table of a frame is put back into the frame, with empty texts for missing entries. -/
theorem toFrame_of_rowAt (h : c.list = first :: rest) (headed : first.name = header)
    (columns : t.columns = rest.map Column.name)
    (rows : t.rows.entries = (List.range c.height).map (Frame.rowAt first rest)) :
    t.toFrame header = .ok c.filled.frame := by
  have names := c.distinct
  rw [h, List.map_cons, headed, ← columns] at names
  obtain ⟨free, distinct⟩ := List.nodup_cons.1 names
  have even : ∀ row ∈ t.rows.entries, row.cells.length = t.columns.length := by
    rw [rows, List.forall_mem_map]
    intro i _
    rw [columns, List.length_map]
    exact List.length_map _
  obtain ⟨written, hwritten, hnames, hrecords⟩ := toFrame_eq_ok distinct free
  have filled : c.filled.frame.names = c.list.map Column.name := by
    rw [c.filled.names_frame, Columns.filled, List.map_map]
    rfl
  rw [hwritten, Frame.eq_of_names_records (f := written) (g := c.filled.frame)]
  · rw [hnames, filled, h, List.map_cons, headed, columns]
  · rw [hrecords, fittedRows_eq_self even, rows, records_filled h]

/-! ## There and back -/

/-- What the columns of a frame lead to: a table of the same texts, from which the frame comes back
with empty texts for its missing entries, unless the columns do not start with a column of the
header or that column holds a text twice. -/
structure Converted (c : Columns) (name header : String) (answer : Except FrameError Table) :
    Prop where
  made : (∃ t, answer = .ok t) ↔
    ∃ first rest, c.list = first :: rest ∧ first.name = header ∧ first.texts.Nodup
  otherHead : c.list.head?.map Column.name ≠ some header →
    answer = .error (.firstColumn header (c.list.head?.map Column.name).toList)
  repeated : ∀ first rest, c.list = first :: rest → first.name = header → ¬ first.texts.Nodup →
    answer = .error (.repeatedRows header)
  faithful : ∀ t first rest, answer = .ok t → c.list = first :: rest →
    t.name = name ∧ t.columns = rest.map Column.name ∧ t.rows.size = c.height ∧
      (∀ i row, t.rows.entries[i]? = some row →
        row.name = first.text i ∧ row.cells = rest.map (·.text i)) ∧
      t.toFrame header = .ok c.filled.frame

theorem converted_toTable (c : Columns) (name header : String) :
    Converted c name header (c.frame.toTable name header) := by
  by_cases head : c.list.head?.map Column.name = some header
  · obtain ⟨first, hfirst, headed⟩ := Option.map_eq_some_iff.1 head
    obtain ⟨rest, h⟩ := List.head?_eq_some_iff.1 hfirst
    by_cases apart : first.texts.Nodup
    · obtain ⟨made, hmade, hname, columns, rows⟩ := Frame.toTable_of_headed h headed apart name
      rw [hmade]
      refine ⟨⟨fun _ => ⟨first, rest, h, headed, apart⟩, fun _ => ⟨made, rfl⟩⟩, absurd head, ?_, ?_⟩
      · intro other _ hother _ repeats
        rw [h, List.cons.injEq] at hother
        exact absurd apart (hother.1 ▸ repeats)
      · rintro _ other further ⟨⟩ hother
        obtain ⟨rfl, rfl⟩ := List.cons.inj (h.symm.trans hother)
        refine ⟨hname, columns, ?_, fun i row hrow => ?_, toFrame_of_rowAt h headed columns rows⟩
        · rw [Catalog.size, rows, List.length_map, List.length_range]
        · rw [rows, List.getElem?_map, Option.map_eq_some_iff] at hrow
          obtain ⟨j, hj, rfl⟩ := hrow
          obtain ⟨_, rfl⟩ := List.getElem?_eq_some_iff.1 hj
          rw [List.getElem_range]
          exact ⟨rfl, rfl⟩
    · have refused := Frame.toTable_of_repeated h headed apart name
      rw [refused]
      refine ⟨⟨fun ⟨_, made⟩ => (nomatch made), ?_⟩, absurd head, fun _ _ _ _ _ => rfl, nofun⟩
      rintro ⟨other, _, hother, _, distinct⟩
      rw [h, List.cons.injEq] at hother
      exact absurd (hother.1 ▸ distinct) apart
  · rw [Frame.toTable_of_head head name]
    refine ⟨⟨fun ⟨_, made⟩ => (nomatch made), ?_⟩, fun _ => rfl, ?_, nofun⟩
    · rintro ⟨first, rest, h, headed, _⟩
      exact absurd (by rw [h, ← headed]; rfl) head
    · intro first rest h headed _
      exact absurd (by rw [h, ← headed]; rfl) head

theorem exists_toTable (distinct : t.columns.Nodup) (free : header ∉ t.columns) (name : String) :
    ∃ f, t.toFrame header = .ok f ∧
      f.toTable name header = .ok ⟨name, t.columns, t.fittedRows⟩ := by
  obtain ⟨written, hwritten, hnames, hrecords⟩ := toFrame_eq_ok distinct free
  refine ⟨written, hwritten, toTable_eq_ok name hnames ?_⟩
  rw [hrecords, List.map_map]
  refine (List.map_congr_left fun row _ => ?_).trans (List.map_id _)
  simp [Frame.rowOf, Function.comp_def]

/-- Frames and tables are made of each other without loss. Every frame is that of its columns and
leads to a table of their texts or a refusal; and the table of the frame of a table shows what the
table shows. -/
theorem frames_and_tables :
    (∀ f : Frame, ∃ c : Columns, c.frame = f) ∧
    (∀ (c : Columns) (name header : String),
      Converted c name header (c.frame.toTable name header)) ∧
    ∀ (t : Table) (name header : String), t.columns.Nodup → header ∉ t.columns →
      ∃ f back, t.toFrame header = .ok f ∧ f.toTable name header = .ok back ∧
        back.name = name ∧ back.columns = t.columns ∧ back.fittedRows = t.fittedRows := by
  refine ⟨Frame.exists_columns, converted_toTable, fun t name header distinct free => ?_⟩
  obtain ⟨f, hf, hback⟩ := exists_toTable distinct free name
  refine ⟨f, ⟨name, t.columns, t.fittedRows⟩, hf, hback, rfl, rfl, ?_⟩
  exact fittedRows_eq_self fun _ hr => length_of_mem_fittedRows (t := t) hr

/-- Columns with missing entries, one of them the name of a row; a table with a short row and a long
one. -/
theorem frames_and_tables_ragged :
    let first : Column := ⟨"row", [some "a", none, some "b"]⟩
    let second : Column := ⟨"x", [none, some "", some "1"]⟩
    let c : Columns := ⟨[first, second], 3, by decide, by decide⟩
    let t : Table := ⟨"T", ["x", ""], ⟨[⟨"a", []⟩, ⟨"", ["1", "2", "3"]⟩], by decide⟩⟩
    (∃ made, c.frame.toTable "T" "row" = .ok made ∧ made.toFrame "row" = .ok c.filled.frame) ∧
      ∃ f back, t.toFrame "row" = .ok f ∧ f.toTable "U" "row" = .ok back ∧
        back.name = "U" ∧ back.columns = t.columns ∧ back.fittedRows = t.fittedRows := by
  intro first second c t
  have converted := frames_and_tables.2.1 c "T" "row"
  obtain ⟨made, hmade⟩ := converted.made.2 ⟨first, [second], rfl, rfl, by decide⟩
  obtain ⟨_, _, _, _, back⟩ := converted.faithful made first [second] hmade rfl
  exact ⟨⟨made, hmade, back⟩, frames_and_tables.2.2 t "U" "row" (by decide) (by decide)⟩

end Table

end Wordsheet
