import Wordsheet.Proofs.Csv.RoundTrip
import Wordsheet.Proofs.Files.Store
import Wordsheet.Proofs.Table.Shape

/-! # Tables that are written and read again

A table comes back with its rows filled up to its columns. The names of the columns come back as
they were, unless there are double quotes in them.
-/

namespace Wordsheet.Table

open Csv (quotesDoubled)

variable {t : Table} {header : String}

/-! ## The frame of a table -/

theorem columnPositions_entries (distinct : t.columns.Nodup) :
    t.columnPositions.entries = t.columns.zipIdx :=
  Catalog.entries_ofList (by rwa [List.zipIdx_map_fst])

theorem columnPositions_keys (distinct : t.columns.Nodup) : t.columnPositions.keys = t.columns := by
  rw [Catalog.keys, columnPositions_entries distinct, List.zipIdx_map_fst]

theorem fitTo_eq_self {width : Nat} {cells : List String} (h : cells.length = width) :
    fitTo width cells = cells := by
  rw [fitTo, padTo, List.take_of_length_le (Nat.le_of_eq h), h, Nat.sub_self,
    List.replicate_zero, List.append_nil]

theorem length_of_mem_fittedRows {row : Row} (h : row ∈ t.fittedRows.entries) :
    row.cells.length = t.columns.length := by
  obtain ⟨stored, _, rfl⟩ := List.mem_map.1 h
  exact length_fitTo ..

theorem fittedRows_eq_self (even : ∀ row ∈ t.rows.entries, row.cells.length = t.columns.length) :
    t.fittedRows = t.rows := by
  apply Catalog.ext
  have hself : ∀ row ∈ t.rows.entries, row.withCells (fitTo t.columns.length) = row := by
    intro row hr
    rw [Row.withCells, fitTo_eq_self (even row hr)]
  exact (List.map_congr_left hself).trans (List.map_id _)

/-- A row that is as wide as the columns is what its cells are by position. -/
theorem map_getD_zipIdx {columns cells : List String} (h : cells.length = columns.length) :
    (columns.zipIdx.map fun column => cells.getD column.2 "") = cells := by
  apply List.ext_getElem
  · rw [List.length_map, List.length_zipIdx, h]
  · intro i _ bound
    simp [bound]

theorem toFrame_eq_ok (distinct : t.columns.Nodup) (free : header ∉ t.columns) :
    ∃ written, t.toFrame header = .ok written ∧ written.names = header :: t.columns ∧
      written.records = t.fittedRows.entries.map fun row =>
        some row.name :: row.cells.map some := by
  have hentries := columnPositions_entries distinct
  have hkeys := columnPositions_keys distinct
  have hfree : header ∉ t.columnPositions.keys := by rwa [hkeys]
  refine ⟨_, dif_neg hfree, congrArg (header :: ·) hkeys, List.map_congr_left fun row hr => ?_⟩
  have hcells := map_getD_zipIdx (length_of_mem_fittedRows hr)
  rw [hentries, List.cons.injEq]
  refine ⟨rfl, ?_⟩
  nth_rewrite 2 [← hcells]
  rw [List.map_map]
  rfl

theorem toFrame_eq_error (distinct : t.columns.Nodup) (taken : header ∈ t.columns) :
    t.toFrame header = .error (.headerTaken header) :=
  dif_pos (by rwa [columnPositions_keys distinct])

/-! ## The table of a frame -/

def reread (t : Table) (name : String) : Table :=
  ⟨name, t.columns.map quotesDoubled, t.fittedRows⟩

theorem fittedRows_reread (t : Table) (name : String) :
    (t.reread name).fittedRows = t.fittedRows :=
  fittedRows_eq_self fun _ hr => (length_of_mem_fittedRows hr).trans (List.length_map _).symm

theorem rowOf_written (row : Row) :
    Frame.rowOf ((some row.name :: row.cells.map some).map fun entry =>
      some (entry.getD "")) = row := by
  cases row
  simp [Frame.rowOf, Function.comp_def]

theorem toTable_eq_ok {f : Frame} {columns : List String} {rows : Catalog Row Row.name}
    (name : String) (hnames : f.names = header :: columns)
    (hrows : f.records.map Frame.rowOf = rows.entries) :
    f.toTable name header = .ok ⟨name, columns, rows⟩ := by
  rw [Frame.toTable, hnames]
  simp only [ne_eq, not_true_eq_false, ↓reduceIte, hrows, rows.distinct, ↓reduceDIte]

/-- A table is read from its own file; for this the name over the row names has to come back. -/
theorem read_written (distinct : t.columns.Nodup) (free : header ∉ t.columns)
    (unmarked : header.toList.head? ≠ some '\ufeff') (unquoted : '"' ∉ header.toList) :
    ∃ written read, t.toFrame header = .ok written ∧ Frame.ofCsv written.toCsv = .ok read ∧
      ∀ name, read.toTable name header = .ok (t.reread name) := by
  obtain ⟨written, hwritten, hnames, hrecords⟩ := toFrame_eq_ok distinct free
  refine ⟨written, written.reread, hwritten, Frame.ofCsv_toCsv written hnames unmarked, ?_⟩
  intro name
  refine toTable_eq_ok name ?_ ?_
  · rw [Frame.names_reread, hnames, List.map_cons, Csv.quotesDoubled_eq_self unquoted]
  · rw [Frame.records_reread, hrecords, List.map_map, List.map_map]
    exact (List.map_congr_left fun row _ => rowOf_written row).trans (List.map_id _)

/-! ## Files -/

section Files

variable {store after : Store} {file : Path}

theorem putFrame_eq_ok {f : Frame} (h : putFrame f store file = .ok after) :
    store.write file f.toCsv = .ok after := by
  rw [putFrame] at h
  split at h
  · cases h
  · split at h
    · cases h
    · cases hw : store.write file f.toCsv with
      | error cause =>
          rw [hw] at h
          cases h
      | ok written =>
          rw [hw] at h
          cases h
          rfl

theorem exportTo_eq_none (h : t.exportTo store file (.text header) = (after, none)) :
    ∃ written before, t.toFrame header = .ok written ∧
      Store.write before file written.toCsv = .ok after := by
  rw [exportTo] at h
  cases hf : t.toFrame header with
  | error cause =>
      simp only [hf] at h
      cases h
  | ok written =>
      simp only [hf] at h
      split at h
      · cases h
      · split at h
        · cases h
        · next before _ =>
            split at h
            · next final hput =>
                cases h
                exact ⟨written, before, rfl, putFrame_eq_ok hput⟩
            · cases h

/-- A path that is no pattern stands for the file it leads to. -/
theorem frameFrom_of_read {bytes : List UInt8} {f : Frame} (hread : store.read file = .ok bytes)
    (hfile : store.isFolder file = false) (single : file.isPattern = false)
    (h : Frame.ofCsv bytes = .ok f) : frameFrom store file = .ok f := by
  have hfiles : store.filesFor file = .ok [bytes] := by
    rw [Store.filesFor, hfile, single, hread]
    rfl
  rw [frameFrom, hfiles]
  simp only [Except.mapError, bind, Except.bind, Frame.ofFiles_singleton, h]
  rfl

/-- A table that was put into a file is taken from it again. -/
theorem importFrom_exportTo (distinct : t.columns.Nodup)
    (unmarked : header.toList.head? ≠ some '\ufeff') (unquoted : '"' ∉ header.toList)
    (single : file.isPattern = false)
    (h : t.exportTo store file (.text header) = (after, none)) (name : Option String) :
    importFrom after file name (.text header) = .ok (t.reread (importName file name)) := by
  obtain ⟨written, before, hwritten, hwrite⟩ := exportTo_eq_none h
  obtain ⟨hread, hfile⟩ := Store.read_write hwrite
  have free : header ∉ t.columns := fun taken => by
    rw [toFrame_eq_error distinct taken] at hwritten
    cases hwritten
  obtain ⟨_, read, hsame, hof, htable⟩ := read_written distinct free unmarked unquoted
  obtain rfl := Except.ok.inj (hwritten.symm.trans hsame)
  have hframe := frameFrom_of_read hread hfile single hof
  rw [importFrom, hread]
  simp only [hframe, bind, Except.bind, htable]
  rfl

/-- A table is put into a file that any bytes can be written into. -/
theorem exists_exportTo {before other : Store} {bytes : List UInt8} (distinct : t.columns.Nodup)
    (free : header ∉ t.columns) (named : file.parent.hasNul = false ∧ file.hasNul = false)
    (made : store.makeFolders file.parent = (before, none))
    (writable : before.write file bytes = .ok other) :
    ∃ after, t.exportTo store file (.text header) = (after, none) := by
  obtain ⟨written, hwritten, _⟩ := toFrame_eq_ok distinct free
  obtain ⟨after, hwrite⟩ := Store.exists_write writable written.toCsv
  have hput : putFrame written before file = .ok after := by
    simp only [putFrame, Store.isFolder_of_write writable, named.2, Bool.false_eq_true, ↓reduceIte,
      hwrite]
    rfl
  refine ⟨after, ?_⟩
  simp only [exportTo, hwritten, named.1, Bool.false_eq_true, ↓reduceIte, made, hput]

end Files

/-! ## There and back -/

/-- A table that is written under a header is read again as another one. -/
structure RoundTrip (t : Table) (header : String) (back : Table) : Prop where
  /-- The text that is written is read as the other table. -/
  text : ∃ written read, t.toFrame header = .ok written ∧ Frame.ofCsv written.toCsv = .ok read ∧
    read.toTable back.name header = .ok back
  /-- The table is put into any file that something can be written into. -/
  put : ∀ {store before other : Store} {file : Path} {bytes : List UInt8},
    file.parent.hasNul = false ∧ file.hasNul = false →
    store.makeFolders file.parent = (before, none) → before.write file bytes = .ok other →
    ∃ after, t.exportTo store file (.text header) = (after, none)
  /-- From a file that it was put into the other table is taken, unless the path is a pattern. -/
  taken : ∀ {store after : Store} {file : Path} (name : Option String),
    t.exportTo store file (.text header) = (after, none) → file.isPattern = false →
    importFrom after file name (.text header) = .ok { back with name := importName file name }

theorem roundTrip_reread (distinct : t.columns.Nodup) (free : header ∉ t.columns)
    (unmarked : header.toList.head? ≠ some '\ufeff') (unquoted : '"' ∉ header.toList)
    (name : String) : t.RoundTrip header (t.reread name) where
  text := by
    obtain ⟨written, read, hwritten, hread, htable⟩ := read_written distinct free unmarked unquoted
    exact ⟨written, read, hwritten, hread, htable name⟩
  put := exists_exportTo distinct free
  taken := fun name h single => importFrom_exportTo distinct unmarked unquoted single h name

theorem RoundTrip.eq_reread {back : Table} (h : t.RoundTrip header back)
    (distinct : t.columns.Nodup) (free : header ∉ t.columns)
    (unmarked : header.toList.head? ≠ some '\ufeff') (unquoted : '"' ∉ header.toList) :
    back = t.reread back.name := by
  obtain ⟨written, read, hwritten, hread, htable⟩ := h.text
  obtain ⟨written', read', hwritten', hread', htable'⟩ :=
    read_written distinct free unmarked unquoted
  obtain rfl := Except.ok.inj (hwritten.symm.trans hwritten')
  obtain rfl := Except.ok.inj (hread.symm.trans hread')
  exact Except.ok.inj (htable.symm.trans (htable' back.name))

theorem columns_reread_eq_self_iff (t : Table) (name : String) :
    (t.reread name).columns = t.columns ↔ ∀ column ∈ t.columns, '"' ∉ column.toList := by
  have hmap : t.columns.map quotesDoubled = t.columns ↔
      ∀ column ∈ t.columns, quotesDoubled column = id column := by
    rw [← List.map_inj_left, List.map_id]
  exact hmap.trans (forall₂_congr fun column _ => Csv.quotesDoubled_eq_self_iff column)

/-- Whatever its rows hold, a table comes back with all its cells and, if there are no double
quotes in their names, with its columns. -/
theorem roundTrip_of_unquoted (distinct : t.columns.Nodup) (free : header ∉ t.columns)
    (unmarked : header.toList.head? ≠ some '\ufeff') (unquotedHeader : '"' ∉ header.toList)
    (unquoted : ∀ column ∈ t.columns, '"' ∉ column.toList) (name : String) :
    ∃ back : Table, back.name = name ∧ t.RoundTrip header back ∧
      back.columns = t.columns ∧ back.fittedRows = t.fittedRows :=
  ⟨t.reread name, rfl, roundTrip_reread distinct free unmarked unquotedHeader name,
    (t.columns_reread_eq_self_iff name).2 unquoted, t.fittedRows_reread name⟩

theorem roundTrip_of_unquoted_ragged :
    let rows : Catalog Row Row.name :=
      ⟨[⟨"", ["1"]⟩, ⟨"q\"", ["\r\n", ",", "\"\""]⟩, ⟨"\n", ["  ", "", "x", "past"]⟩], by decide⟩
    ∃ back : Table, back.name = "T" ∧
      RoundTrip ⟨"T", ["a,b", "", " c "], rows⟩ "row" back ∧
      back.columns = ["a,b", "", " c "] ∧
      back.fittedRows = fittedRows ⟨"T", ["a,b", "", " c "], rows⟩ :=
  roundTrip_of_unquoted (by decide) (by decide) (by decide) (by decide) (by decide) "T"

/-- Under the usual header every table comes back with all its cells. Its columns come back with
the double quotes in their names doubled, and as they were just if there are none. -/
theorem roundTrip_columns (distinct : t.columns.Nodup) (free : "row" ∉ t.columns)
    (name : String) :
    ∃ back : Table, back.name = name ∧ t.RoundTrip "row" back ∧
      back.columns = t.columns.map quotesDoubled ∧
      (back.columns = t.columns ↔ ∀ column ∈ t.columns, '"' ∉ column.toList) ∧
      back.fittedRows = t.fittedRows :=
  ⟨t.reread name, rfl, roundTrip_reread distinct free (by decide) (by decide) name, rfl,
    t.columns_reread_eq_self_iff name, t.fittedRows_reread name⟩

theorem roundTrip_columns_quoted :
    let t : Table := ⟨"T", ["a\"b", "a\"\"b"], ⟨[⟨"r", ["1", "2"]⟩], by decide⟩⟩
    ∃ back : Table, back.name = "T" ∧ t.RoundTrip "row" back ∧
      back.columns = t.columns.map quotesDoubled ∧
      (back.columns = t.columns ↔ ∀ column ∈ t.columns, '"' ∉ column.toList) ∧
      back.fittedRows = t.fittedRows :=
  roundTrip_columns (by decide) (by decide) "T"

/-- A column with a double quote in its name does not come back. -/
theorem not_roundTrip_quoted :
    ¬ ∀ t : Table, t.columns.Nodup → "row" ∉ t.columns →
      ∃ back, t.RoundTrip "row" back ∧ back.columns = t.columns := by
  intro all
  let t : Table := ⟨"T", ["a\"b"], ⟨[⟨"r", ["1"]⟩], by decide⟩⟩
  have distinct : t.columns.Nodup := by decide
  have free : "row" ∉ t.columns := by decide
  -- what is read is determined, so the column would have to be its own doubling
  obtain ⟨back, trip, same⟩ := all t distinct free
  rw [trip.eq_reread distinct free (by decide) (by decide)] at same
  have changed : t.columns.map quotesDoubled ≠ t.columns := by decide
  exact changed same

end Wordsheet.Table
