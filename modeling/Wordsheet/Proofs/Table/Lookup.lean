import Wordsheet.Table.Basic

/-! # Finding rows, columns and cells

A row, a column position or a cell is found exactly where the table has the names that are asked
for, and what is found lies within the table.
-/

namespace Wordsheet.Table

variable {t : Table} {row column : String}

theorem hasColumn_iff : t.hasColumn column = true ↔ column ∈ t.columns := by
  simp [hasColumn]

theorem exists_columnIndex (h : t.hasColumn column = true) :
    ∃ index, t.columnIndex column = .ok index := by
  have hs := List.isSome_idxOf?.2 (hasColumn_iff.1 h)
  obtain ⟨index, hi⟩ := Option.isSome_iff_exists.1 hs
  exact ⟨index, by rw [columnIndex, hi]⟩

theorem columnIndex_eq_error (h : t.hasColumn column = false) :
    t.columnIndex column = .error (.noColumn column t.name) := by
  have hn : column ∉ t.columns := fun hm => by simp [hasColumn_iff.2 hm] at h
  rw [columnIndex, List.idxOf?_eq_none_iff.2 hn]

theorem columnIndex_eq_ok {index : Nat} (h : t.columnIndex column = .ok index) :
    ∃ hi : index < t.columns.length, t.columns[index] = column := by
  rw [columnIndex] at h
  split at h
  · next found =>
      cases h
      obtain ⟨hi, he, _⟩ := List.idxOf?_eq_some_iff.1 found
      exact ⟨hi, he⟩
  · cases h

theorem exists_row (h : t.hasRow row = true) : ∃ r, t.row row = .ok r := by
  rw [hasRow, ← Catalog.get?_isSome] at h
  obtain ⟨r, hr⟩ := Option.isSome_iff_exists.1 h
  exact ⟨r, by rw [Table.row, hr]⟩

theorem row_eq_ok {found : Row} (h : t.row row = .ok found) : t.rows.get? row = some found := by
  rw [Table.row] at h
  split at h
  · next hf =>
      cases h
      exact hf
  · cases h

theorem row_eq_error (h : t.hasRow row = false) : t.row row = .error (.noRow row t.name) := by
  rw [hasRow, ← Catalog.get?_isSome, Option.isSome_eq_false_iff, Option.isNone_iff_eq_none] at h
  rw [Table.row, h]

theorem exists_getCell (hr : t.hasRow row = true) (hc : t.hasColumn column = true) :
    ∃ content, t.getCell row column = .ok content := by
  obtain ⟨r, hr⟩ := exists_row hr
  obtain ⟨index, hi⟩ := exists_columnIndex hc
  exact ⟨r.cells.getD index "", by rw [getCell, hr, hi]; rfl⟩

theorem getCell_eq_error (h : ¬(t.hasRow row = true ∧ t.hasColumn column = true)) :
    ∃ cause, t.getCell row column = .error cause := by
  cases hr : t.hasRow row with
  | false => exact ⟨_, by rw [getCell, row_eq_error hr]; rfl⟩
  | true =>
      obtain ⟨r, hrow⟩ := exists_row hr
      have hc : t.hasColumn column = false := by simpa [hr] using h
      exact ⟨_, by rw [getCell, hrow, columnIndex_eq_error hc]; rfl⟩

end Wordsheet.Table
