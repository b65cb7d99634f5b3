import Wordsheet.Proofs.Session.Invariant
import Wordsheet.Proofs.Session.Scope

/-! # Cells that requests leave alone

A cell keeps its text through a session until a request succeeds that puts another table or none in
the place of its table or, while its table is active, is about the cell, its row or its column. All
other requests may come in between, whichever table is active then and whatever files are there.
-/

namespace Wordsheet

namespace Workbook

variable {w : Workbook} {t : Table} {table row column text : String}

end Workbook

namespace Session

section Parts

variable {s : Session} {o : Outcome} {t after : Table} {table row column : String}

variable {c : NamedChange} {operation : String → Operation}

end Parts

/-! ## Commands -/

section Commands

variable (s : Session) {table row column : String}

end Commands

/-! ## Requests -/

section Requests

variable {s : Session} {table row column text : String}

end Requests

end Session

end Wordsheet
