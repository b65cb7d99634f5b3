import Mathlib.Data.List.Nodup
import Mathlib.Logic.Relation
import Wordsheet.Proofs.Catalog
import Wordsheet.Proofs.Table.Lookup
import Wordsheet.Csv.Exchange

/-! # Rectangular tables

A table may hold rows that are shorter or longer than its columns, but no edit makes such a row in
a table without one, and a frame is a table without one.
-/

namespace Wordsheet.Table

/-! ## Edits -/

/-- The edits of a table, one name, row, column or cell at a time. -/
inductive Edit : Table → Table → Prop where
  | addRow (t : Table) (name : String) : Edit t (t.addRow name)
  | deleteRow (t : Table) (name : String) : Edit t (t.deleteRow name)
  | addColumn (t : Table) (name : String) : Edit t (t.addColumn name)
  | deleteColumn (t : Table) (name : String) : Edit t (t.deleteColumn name)
  | fillRow {t after : Table} {row : String} {values : List String}
      (h : t.fillRow row values = .ok after) : Edit t after
  | fillColumn {t after : Table} {column : String} {values : List String}
      (h : t.fillColumn column values = .ok after) : Edit t after
  | renameRow {t after : Table} {old new : String} (h : t.renameRow old new = .ok after) :
      Edit t after
  | renameColumn {t after : Table} {old new : String} (h : t.renameColumn old new = .ok after) :
      Edit t after
  | setCell {t after : Table} {row column value : String}
      (h : t.setCell row column value = .ok after) : Edit t after

/-- Any number of edits in order. -/
def Edits : Table → Table → Prop :=
  Relation.ReflTransGen Edit

/-! ## Edits that are made

What is known of the arguments of an edit that is not refused, and the table it makes. -/

section Made

variable {t after : Table} {row column old new value : String} {values : List String}

theorem fillRow_eq_ok (h : t.fillRow row values = .ok after) :
    (∃ found, t.row row = .ok found) ∧
      after = { t with
        rows := t.rows.modify row (·.withCells fun _ => fitTo t.columns.length values)
          fun _ => rfl } := by
  rw [fillRow] at h
  cases hr : t.row row with
  | error cause =>
      rw [hr] at h
      cases h
  | ok found =>
      rw [hr] at h
      cases h
      exact ⟨⟨found, rfl⟩, rfl⟩

theorem fillColumn_eq_ok (h : t.fillColumn column values = .ok after) :
    ∃ index, t.columnIndex column = .ok index ∧
      after = { t with
        rows := t.rows.overlay (fun r value => r.withCells (setAt (index + 1) index value)) values
          fun _ _ => rfl } := by
  rw [fillColumn] at h
  cases hc : t.columnIndex column with
  | error cause =>
      rw [hc] at h
      cases h
  | ok index =>
      rw [hc] at h
      cases h
      exact ⟨index, rfl, rfl⟩

theorem renameRow_eq_ok (h : t.renameRow old new = .ok after) :
    ∃ found, t.row old = .ok found ∧
      (new = old ∧ after = t ∨
        ∃ fresh : new ∉ t.rows.keys,
          after = { t with rows := t.rows.exchange old { found with name := new } fresh }) := by
  rw [renameRow] at h
  cases hr : t.row old with
  | error cause =>
      rw [hr] at h
      cases h
  | ok found =>
      rw [hr] at h
      refine ⟨found, rfl, ?_⟩
      by_cases hn : new = old
      · simp only [hn, ↓reduceIte] at h
        cases h
        exact .inl ⟨hn, rfl⟩
      · by_cases ht : t.hasRow new = true
        · simp only [hn, ht, ↓reduceIte, ↓reduceDIte] at h
          cases h
        · simp only [hn, ht, ↓reduceIte] at h
          cases h
          exact .inr ⟨fun hm => ht ((t.rows.contains_iff new).2 hm), rfl⟩

theorem renameColumn_eq_ok (h : t.renameColumn old new = .ok after) :
    ∃ index, t.columnIndex old = .ok index ∧ (new = old ∨ new ∉ t.columns) ∧
      after = { t with columns := t.columns.set index new } := by
  rw [renameColumn] at h
  cases hc : t.columnIndex old with
  | error cause =>
      rw [hc] at h
      cases h
  | ok index =>
      rw [hc] at h
      refine ⟨index, rfl, ?_⟩
      by_cases taken : new ≠ old ∧ t.hasColumn new = true
      · simp only [if_pos taken] at h
        cases h
      · simp only [if_neg taken] at h
        cases h
        refine ⟨?_, rfl⟩
        by_cases hn : new = old
        · exact .inl hn
        · exact .inr fun hm => taken ⟨hn, hasColumn_iff.2 hm⟩

theorem setCell_eq_ok (h : t.setCell row column value = .ok after) :
    (∃ found, t.row row = .ok found) ∧ ∃ index, t.columnIndex column = .ok index ∧
      after = { t with
        rows := t.rows.modify row (·.withCells (setAt t.columns.length index value))
          fun _ => rfl } := by
  rw [setCell] at h
  cases hr : t.row row with
  | error cause =>
      rw [hr] at h
      cases h
  | ok found =>
      cases hc : t.columnIndex column with
      | error cause =>
          rw [hr, hc] at h
          cases h
      | ok index =>
          rw [hr, hc] at h
          cases h
          exact ⟨⟨found, rfl⟩, index, rfl, rfl⟩

end Made

/-! ## Shape -/

/-- A table without two columns of one name and with one cell for each column in every row. -/
structure Rectangular (t : Table) : Prop where
  distinct : t.columns.Nodup
  even : ∀ row ∈ t.rows.entries, row.cells.length = t.columns.length

theorem rectangular_empty (name : String) : (empty name).Rectangular :=
  ⟨List.nodup_nil, nofun⟩

theorem length_setAt {width index : Nat} {cells : List String} (value : String)
    (h : width ≤ cells.length) : (setAt width index value cells).length = cells.length := by
  rw [setAt, List.length_set, length_padTo]
  omega

theorem length_fitTo (width : Nat) (cells : List String) : (fitTo width cells).length = width := by
  rw [fitTo, length_padTo, List.length_take]
  omega

namespace Rectangular

variable {t after : Table}

theorem copy (shape : t.Rectangular) (name : String) : (t.copy name).Rectangular :=
  ⟨shape.distinct, shape.even⟩

theorem addRow (shape : t.Rectangular) (name : String) : (t.addRow name).Rectangular := by
  rw [Table.addRow]
  split
  · exact shape
  · exact ⟨shape.distinct, Catalog.forall_put shape.even List.length_replicate⟩

theorem deleteRow (shape : t.Rectangular) (name : String) : (t.deleteRow name).Rectangular :=
  ⟨shape.distinct, Catalog.forall_erase name shape.even⟩

theorem addColumn (shape : t.Rectangular) (name : String) : (t.addColumn name).Rectangular := by
  rw [Table.addColumn]
  split
  · exact shape
  · next absent =>
      have fresh : name ∉ t.columns := fun hm => absent (hasColumn_iff.2 hm)
      refine ⟨?_, List.forall_mem_map.2 fun row hr => ?_⟩
      · rw [List.nodup_append]
        refine ⟨shape.distinct, List.nodup_singleton name, fun x hx y hy => ?_⟩
        rintro rfl
        exact fresh (List.mem_singleton.1 hy ▸ hx)
      · simp [Row.withCells, shape.even row hr]

theorem deleteColumn (shape : t.Rectangular) (name : String) :
    (t.deleteColumn name).Rectangular := by
  rw [Table.deleteColumn]
  split
  · exact shape
  · next index found =>
      obtain ⟨hi, _⟩ := List.idxOf?_eq_some_iff.1 found
      refine ⟨shape.distinct.sublist (List.eraseIdx_sublist _ _),
        List.forall_mem_map.2 fun row hr => ?_⟩
      have hlen := shape.even row hr
      simp only [Row.withCells]
      rw [List.length_eraseIdx_of_lt (hlen ▸ hi), List.length_eraseIdx_of_lt hi, hlen]

theorem fillRow {row : String} {values : List String} (shape : t.Rectangular)
    (h : t.fillRow row values = .ok after) : after.Rectangular := by
  obtain ⟨_, rfl⟩ := fillRow_eq_ok h
  exact ⟨shape.distinct, Catalog.forall_modify shape.even fun _ _ => length_fitTo _ values⟩

theorem fillColumn {column : String} {values : List String} (shape : t.Rectangular)
    (h : t.fillColumn column values = .ok after) : after.Rectangular := by
  obtain ⟨index, hc, rfl⟩ := fillColumn_eq_ok h
  obtain ⟨hi, _⟩ := columnIndex_eq_ok hc
  refine ⟨shape.distinct, Catalog.forall_overlayEntries values shape.even ?_⟩
  intro row value hr
  exact (length_setAt value (hr.symm ▸ hi)).trans hr

theorem renameRow {old new : String} (shape : t.Rectangular)
    (h : t.renameRow old new = .ok after) : after.Rectangular := by
  obtain ⟨found, hr, ⟨_, rfl⟩ | ⟨_, rfl⟩⟩ := renameRow_eq_ok h
  · exact shape
  · exact ⟨shape.distinct, Catalog.forall_exchangeEntry shape.even
      (shape.even found (Catalog.mem_of_get? (row_eq_ok hr)))⟩

theorem renameColumn {old new : String} (shape : t.Rectangular)
    (h : t.renameColumn old new = .ok after) : after.Rectangular := by
  obtain ⟨index, hc, free, rfl⟩ := renameColumn_eq_ok h
  obtain ⟨hi, he⟩ := columnIndex_eq_ok hc
  refine ⟨?_, fun row hr => (shape.even row hr).trans List.length_set.symm⟩
  rcases free with rfl | fresh
  · rw [← he, List.set_getElem_self]
    exact shape.distinct
  · exact shape.distinct.set fresh

theorem setCell {row column value : String} (shape : t.Rectangular)
    (h : t.setCell row column value = .ok after) : after.Rectangular := by
  obtain ⟨_, index, _, rfl⟩ := setCell_eq_ok h
  refine ⟨shape.distinct, Catalog.forall_modify shape.even fun row hr => ?_⟩
  exact (length_setAt value (Nat.le_of_eq hr.symm)).trans hr

theorem edit (shape : t.Rectangular) (edit : Edit t after) : after.Rectangular := by
  cases edit with
  | addRow name => exact shape.addRow name
  | deleteRow name => exact shape.deleteRow name
  | addColumn name => exact shape.addColumn name
  | deleteColumn name => exact shape.deleteColumn name
  | fillRow h => exact shape.fillRow h
  | fillColumn h => exact shape.fillColumn h
  | renameRow h => exact shape.renameRow h
  | renameColumn h => exact shape.renameColumn h
  | setCell h => exact shape.setCell h

theorem edits (shape : t.Rectangular) (edits : Edits t after) : after.Rectangular := by
  induction edits with
  | refl => exact shape
  | tail _ last ih => exact ih.edit last

end Rectangular

/-! ## Frames -/

/-- A table made from a frame is rectangular, whatever entries the frame lacks. -/
theorem rectangular_of_toTable {f : Frame} {name header : String} {t : Table}
    (h : f.toTable name header = .ok t) : t.Rectangular := by
  have distinct := f.distinct
  have even := f.even
  rw [Frame.toTable] at h
  split at h
  · cases h
  · next first columns hn =>
      rw [hn] at distinct even
      split at h
      · cases h
      · simp only at h
        split at h
        · cases h
          refine ⟨(List.nodup_cons.1 distinct).2, fun row hr => ?_⟩
          obtain ⟨record, hm, rfl⟩ := List.mem_map.1 hr
          have hlen := even record hm
          cases record with
          | nil => cases hlen
          | cons entry cells => simpa [Frame.rowOf] using hlen
        · cases h

theorem importFrom_eq_ok {store : Store} {file : Path} {name : Option String} {header : Yaml}
    {t : Table} (h : importFrom store file name header = .ok t) :
    ∃ frame label, frameFrom store file = .ok frame ∧ header = .text label ∧
      frame.toTable (importName file name) label = .ok t := by
  match hr : store.read file with
  | .error .nameTooLong | .error .notFound | .error .notFolder | .error .exists =>
      simp only [importFrom, hr] at h
      cases h
  | .error .isFolder | .ok _ =>
      simp only [importFrom, hr] at h
      cases hf : frameFrom store file with
      | error cause =>
          rw [hf] at h
          cases h
      | ok frame =>
          rw [hf] at h
          cases header with
          | text label =>
              change (frame.toTable _ label).mapError ImportError.frame = Except.ok t at h
              refine ⟨frame, label, rfl, rfl, ?_⟩
              cases ht : frame.toTable (importName file name) label with
              | error cause =>
                  rw [ht] at h
                  cases h
              | ok made =>
                  rw [ht] at h
                  cases h
                  rfl
          | _ => cases h

theorem rectangular_of_importFrom {store : Store} {file : Path} {name : Option String}
    {header : Yaml} {t : Table} (h : importFrom store file name header = .ok t) :
    t.Rectangular := by
  obtain ⟨frame, label, _, _, ht⟩ := importFrom_eq_ok h
  exact rectangular_of_toTable ht

end Wordsheet.Table
