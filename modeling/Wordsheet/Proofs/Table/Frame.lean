import Wordsheet.Proofs.Table.Refinement

/-! # Cells that stay

An operation leaves the text of a cell alone unless it is about the cell, its row or its column.
Nothing is asked of the table: its rows may be of any length and its columns may repeat.
-/

namespace Wordsheet

namespace Table

variable {t after : Table} {row column name old new text : String} {columns cells : List String}

/-! ## Columns that move -/

theorem name_apply {operation : Operation} (made : t.apply operation = .ok after) :
    after.name = t.name := by
  cases operation with
  | addColumn name =>
      cases made
      rw [addColumn]
      split <;> rfl
  | deleteColumn name =>
      cases made
      rw [deleteColumn]
      split <;> rfl
  | renameColumn old new =>
      obtain ⟨_, _, _, rfl⟩ := renameColumn_eq_ok made
      rfl
  | fillColumn name values =>
      obtain ⟨_, _, rfl⟩ := fillColumn_eq_ok made
      rfl
  | addRow name =>
      cases made
      rw [addRow]
      split <;> rfl
  | deleteRow name =>
      cases made
      rfl
  | renameRow old new => obtain ⟨_, _, ⟨_, rfl⟩ | ⟨_, rfl⟩⟩ := renameRow_eq_ok made <;> rfl
  | fillRow name values =>
      obtain ⟨_, rfl⟩ := fillRow_eq_ok made
      rfl
  | setCell r c value =>
      obtain ⟨_, _, _, rfl⟩ := setCell_eq_ok made
      rfl

theorem apply_of_edit (edit : t.Edit after) : ∃ operation, t.apply operation = .ok after := by
  cases edit with
  | addRow name => exact ⟨.addRow name, rfl⟩
  | deleteRow name => exact ⟨.deleteRow name, rfl⟩
  | addColumn name => exact ⟨.addColumn name, rfl⟩
  | deleteColumn name => exact ⟨.deleteColumn name, rfl⟩
  | @fillRow _ row values h => exact ⟨.fillRow row values, h⟩
  | @fillColumn _ column values h => exact ⟨.fillColumn column values, h⟩
  | @renameRow _ old new h => exact ⟨.renameRow old new, h⟩
  | @renameColumn _ old new h => exact ⟨.renameColumn old new, h⟩
  | @setCell _ row column value h => exact ⟨.setCell row column value, h⟩

/-- A table keeps its name, however it is edited. -/
theorem name_edits (edits : t.Edits after) : after.name = t.name := by
  induction edits with
  | refl => rfl
  | tail _ last ih =>
      obtain ⟨operation, made⟩ := apply_of_edit last
      exact (name_apply made).trans ih

end Table

end Wordsheet
