import Wordsheet.Proofs.Table.View

/-! # Tables as grids

Every operation on a proper table, whatever the lengths of its rows, leaves a proper table and does
to what is seen exactly what its counterpart says; so does every run of operations. A copy shows the
same under its own name, and so does a table made again from its columns and its rows filled up.
-/

namespace Wordsheet.Table

variable {t after : Table} {row column old new value : String} {values : List String}

theorem cell_view (t : Table) (row column : String) :
    t.view.cell row column =
      (t.rows.get? row).bind fun r => cellUnder t.columns r.cells column := by
  simp only [view, getCell, Table.row, columnIndex]
  cases t.rows.get? row with
  | none => rfl
  | some r => cases hc : t.columns.idxOf? column <;> simp [cellUnder, hc] <;> rfl

theorem cell_view_of_get? {found : Row} (h : t.rows.get? row = some found) :
    t.view.cell row column = cellUnder t.columns found.cells column := by
  rw [cell_view, h, Option.bind_some]

theorem cell_view_eq_none (h : t.rows.get? row = none) : t.view.cell row column = none := by
  rw [cell_view, h, Option.bind_none]

theorem Proper.short_of_get? (proper : t.Proper) {found : Row} (h : t.rows.get? row = some found) :
    found.cells.length ≤ t.columns.length :=
  proper.short found (Catalog.mem_of_get? h)

/-- What is seen of a table whose rows keep their names is known from what is found in each row. -/
theorem view_eq_of_change (t : Table) {columns rows : List String}
    {cell : String → String → Option String} (change : String → Row → Row)
    (hcolumns : after.columns = columns) (hrows : after.rows.keys = rows)
    (get : ∀ r, after.rows.get? r = (t.rows.get? r).map (change r))
    (missing : ∀ r c, t.rows.get? r = none → cell r c = none)
    (changed : ∀ r c found, t.rows.get? r = some found →
      cellUnder after.columns (change r found).cells c = cell r c) :
    after.view = ⟨after.name, columns, rows, cell⟩ := by
  refine View.ext rfl hcolumns hrows ?_
  funext r c
  rw [cell_view, get]
  cases found : t.rows.get? r with
  | none => exact (missing r c found).symm
  | some stored => exact changed r c stored found

/-! ## Columns -/

theorem view_addColumn (proper : t.Proper) (column : String) :
    (t.addColumn column).view = t.view.addColumn column := by
  rw [addColumn, View.addColumn]
  by_cases known : column ∈ t.columns
  · rw [if_pos (hasColumn_iff.2 known), if_pos (show column ∈ t.view.columns from known)]
  · rw [if_neg (fun h => known (hasColumn_iff.1 h)),
      if_neg (show column ∉ t.view.columns from known)]
    let grow : Row → Row := (·.withCells (· ++ [""]))
    refine view_eq_of_change t (fun _ => grow) rfl (Catalog.keys_map t.rows grow fun _ => rfl)
      (Catalog.get?_map t.rows grow fun _ => rfl) (fun r c missing => ?_) fun r c found stored => ?_
    · have absent : r ∉ t.view.rows := (Catalog.get?_eq_none_iff ..).1 missing
      simp [absent, cell_view_eq_none missing]
    · have present : r ∈ t.view.rows := Catalog.mem_keys_of_get? stored
      have hcell : cellUnder (t.columns ++ [column]) (grow found).cells c = _ :=
        cellUnder_append known (proper.short_of_get? stored)
      simpa [present, cell_view_of_get? stored] using hcell

theorem view_deleteColumn (proper : t.Proper) (column : String) :
    (t.deleteColumn column).view = t.view.deleteColumn column := by
  rw [deleteColumn, View.deleteColumn]
  split
  · next absent =>
      have fresh : column ∉ t.columns := List.idxOf?_eq_none_iff.1 absent
      have hcolumns : t.columns = t.columns.filter (· ≠ column) :=
        (List.filter_eq_self.2 fun c hc => by simpa using fun h : c = column => fresh (h ▸ hc)).symm
      refine view_eq_of_change t (fun _ => id) hcolumns rfl (fun _ => Option.map_id_apply.symm)
        (fun r c missing => ?_) fun r c found stored => ?_
      · simp [cell_view_eq_none missing]
      · by_cases hc : c = column
        · simp [hc, cellUnder_eq_none fresh]
        · simp [hc, cell_view_of_get? stored]
  · next index known =>
      let shrink : Row → Row := (·.withCells (·.eraseIdx index))
      refine view_eq_of_change t (fun _ => shrink) (eraseIdx_eq_filter proper.distinct known)
        (Catalog.keys_map t.rows shrink fun _ => rfl) (Catalog.get?_map t.rows shrink fun _ => rfl)
        (fun r c missing => ?_) fun r c found stored => ?_
      · simp [cell_view_eq_none missing]
      · have hcell : cellUnder (t.columns.eraseIdx index) (shrink found).cells c = _ :=
          cellUnder_eraseIdx proper.distinct known
        simpa [cell_view_of_get? stored] using hcell

theorem set_eq_renamed {index : Nat} (distinct : t.columns.Nodup)
    (found : t.columns.idxOf? old = some index) :
    t.columns.set index new = View.renamed old new t.columns := by
  obtain ⟨bound, hold, _⟩ := List.idxOf?_eq_some_iff.1 found
  refine List.ext_getElem (by simp [View.renamed]) fun i hi _ => ?_
  rw [List.length_set] at hi
  simp only [List.getElem_set, View.renamed, List.getElem_map]
  by_cases he : index = i
  · subst he
    rw [if_pos rfl, if_pos hold]
  · have hne : t.columns[i] ≠ old := by
      rw [← hold]
      exact fun h => he ((distinct.getElem_inj_iff.1 h).symm)
    rw [if_neg he, if_neg hne]

theorem columnIndex_of_mem (known : column ∈ t.columns) :
    ∃ index, t.columns.idxOf? column = some index ∧ t.columnIndex column = .ok index := by
  obtain ⟨index, found⟩ := Option.isSome_iff_exists.1 (List.isSome_idxOf?.2 known)
  exact ⟨index, found, by rw [columnIndex, found]⟩

theorem columnIndex_of_not_mem (absent : column ∉ t.columns) :
    t.columnIndex column = .error (.noColumn column t.name) :=
  columnIndex_eq_error (Bool.eq_false_iff.2 fun h => absent (hasColumn_iff.1 h))

theorem view_renameColumn (proper : t.Proper) (old new : String) :
    (t.renameColumn old new).map view = t.view.renameColumn old new := by
  rw [renameColumn, View.renameColumn]
  by_cases known : old ∈ t.columns
  · obtain ⟨index, found, hindex⟩ := columnIndex_of_mem known
    rw [hindex, if_neg (not_not.2 (show old ∈ t.view.columns from known))]
    by_cases taken : new ≠ old ∧ new ∈ t.columns
    · have htaken : new ≠ old ∧ t.hasColumn new = true := ⟨taken.1, hasColumn_iff.2 taken.2⟩
      rw [if_pos (show new ≠ old ∧ new ∈ t.view.columns from taken)]
      simp only [htaken, ne_eq, not_false_eq_true, and_self, ↓reduceIte]
      rfl
    · have hfree : ¬(new ≠ old ∧ t.hasColumn new = true) :=
        fun h => taken ⟨h.1, hasColumn_iff.1 h.2⟩
      -- a column that is renamed to itself is not in its own way
      have free : new = old ∨ new ∉ t.columns := by
        by_cases he : new = old
        · exact .inl he
        · exact .inr fun hm => taken ⟨he, hm⟩
      rw [if_neg (show ¬(new ≠ old ∧ new ∈ t.view.columns) from taken)]
      simp only [bind, Except.bind, if_neg hfree]
      refine congrArg Except.ok (view_eq_of_change t (fun _ => id)
        (set_eq_renamed proper.distinct found) rfl (fun _ => Option.map_id_apply.symm)
        (fun r c missing => ?_) fun r c stored hr => ?_)
      · simp [cell_view_eq_none missing]
      · have hview : t.view.cell r = cellUnder t.columns stored.cells :=
          funext fun _ => cell_view_of_get? hr
        simp only [set_eq_renamed proper.distinct found, hview]
        exact cellUnder_renamed free
  · rw [columnIndex_of_not_mem known, if_pos (show old ∉ t.view.columns from known)]
    rfl

theorem view_fillColumn (t : Table) (column : String) (values : List String) :
    (t.fillColumn column values).map view = t.view.fillColumn column values := by
  rw [fillColumn, View.fillColumn]
  by_cases known : column ∈ t.columns
  · obtain ⟨index, found, hindex⟩ := columnIndex_of_mem known
    rw [hindex, if_neg (not_not.2 (show column ∈ t.view.columns from known))]
    let put : Row → String → Row := fun r value => r.withCells (setAt (index + 1) index value)
    -- how a row changes depends on how many rows stand before it
    refine congrArg Except.ok (view_eq_of_change t
      (fun r stored => ((t.rows.keys.idxOf? r).bind (values[·]?)).elim stored (put stored)) rfl
      (Catalog.keys_overlay t.rows put values fun _ _ => rfl)
      (Catalog.get?_overlay t.rows put values fun _ _ => rfl)
      (fun r c missing => ?_) fun r c stored hr => ?_)
    · have absent : t.view.rows.idxOf? r = none :=
        List.idxOf?_eq_none_iff.2 ((Catalog.get?_eq_none_iff ..).1 missing)
      simp [cell_view_eq_none missing, absent]
    · rw [cell_view_of_get? hr]
      change cellUnder t.columns _ c = if c = column then
        ((t.rows.keys.idxOf? r).bind (values[·]?)).or _ else _
      cases (t.rows.keys.idxOf? r).bind (values[·]?) with
      | none => simp
      | some value =>
          have hcell : cellUnder t.columns (put stored value).cells c = _ :=
            cellUnder_setAt value found (Nat.lt_succ_self index)
          simpa using hcell
  · rw [columnIndex_of_not_mem known, if_pos (show column ∉ t.view.columns from known)]
    rfl

/-! ## Rows -/

theorem row_of_mem (known : row ∈ t.rows.keys) :
    ∃ found, t.rows.get? row = some found ∧ t.row row = .ok found := by
  have hs : (t.rows.get? row).isSome = true := by
    rw [Catalog.get?_isSome, Catalog.contains_iff]
    exact known
  obtain ⟨found, hf⟩ := Option.isSome_iff_exists.1 hs
  exact ⟨found, hf, by rw [Table.row, hf]⟩

theorem row_of_not_mem (absent : row ∉ t.rows.keys) :
    t.row row = .error (.noRow row t.name) :=
  row_eq_error (Bool.eq_false_iff.2 fun h => absent ((Catalog.contains_iff ..).1 h))

theorem view_addRow (t : Table) (row : String) :
    (t.addRow row).view = t.view.addRow row := by
  rw [addRow, View.addRow]
  by_cases known : row ∈ t.rows.keys
  · have hrow : t.hasRow row = true := (Catalog.contains_iff ..).2 known
    rw [if_pos hrow, if_pos (show row ∈ t.view.rows from known)]
  · have hrow : ¬t.hasRow row = true := fun h => known ((Catalog.contains_iff ..).1 h)
    rw [if_neg hrow, if_neg (show row ∉ t.view.rows from known)]
    refine View.ext rfl rfl ((Catalog.keys_put ..).trans (if_neg known)) ?_
    funext r c
    rw [cell_view, Catalog.get?_put]
    by_cases hr : r = row
    · simp only [hr, ↓reduceIte, Option.bind_some]
      exact cellUnder_replicate t.columns.length
    · simp [hr, cell_view]

theorem view_deleteRow (t : Table) (row : String) :
    (t.deleteRow row).view = t.view.deleteRow row := by
  refine View.ext rfl rfl ?_ ?_
  · change (t.rows.entries.filter _).map Row.name = (t.rows.entries.map Row.name).filter _
    rw [List.filter_map]
    exact congrArg _ (List.filter_congr fun r _ => by simp [bne, beq_eq_decide])
  · funext r c
    rw [cell_view, deleteRow, Catalog.get?_erase, View.deleteRow]
    by_cases hr : r = row
    · simp [hr]
    · simp [hr, cell_view]

theorem view_renameRow (t : Table) (old new : String) :
    (t.renameRow old new).map view = t.view.renameRow old new := by
  rw [renameRow, View.renameRow]
  by_cases known : old ∈ t.rows.keys
  · obtain ⟨found, hfound, hrow⟩ := row_of_mem known
    rw [hrow, if_neg (not_not.2 (show old ∈ t.view.rows from known))]
    by_cases he : new = old
    · subst he
      rw [if_neg (fun h => h.1 rfl)]
      simp only [bind, Except.bind, ↓reduceIte]
      refine congrArg Except.ok (View.ext rfl rfl (View.renamed_self ..).symm ?_)
      funext r c
      simp only [View.formerName_self, Option.bind_some]
    · by_cases taken : new ∈ t.rows.keys
      · have htaken : t.hasRow new = true := (Catalog.contains_iff ..).2 taken
        rw [if_pos (show new ≠ old ∧ new ∈ t.view.rows from ⟨he, taken⟩)]
        simp only [bind, Except.bind, if_neg he, dif_pos htaken]
        rfl
      · have hfree : ¬t.hasRow new = true := fun h => taken ((Catalog.contains_iff ..).1 h)
        rw [if_neg (show ¬(new ≠ old ∧ new ∈ t.view.rows) from fun h => taken h.2)]
        simp only [bind, Except.bind, if_neg he, dif_neg hfree]
        refine congrArg Except.ok (View.ext rfl rfl (Catalog.keys_exchange t.rows old _ taken) ?_)
        funext r c
        rw [cell_view, Catalog.get?_exchange]
        simp only [View.formerName]
        by_cases hn : r = new
        · simp [hn, hfound, cell_view_of_get? hfound]
        · by_cases ho : r = old
          · simp [ho, Ne.symm he]
          · simp [hn, ho, cell_view]
  · rw [row_of_not_mem known, if_pos (show old ∉ t.view.rows from known)]
    rfl

/-- A change of one row shows in that row only. -/
theorem view_modify {change : Row → Row} (cell : String → Option String)
    (known : row ∈ t.rows.keys) (keeps : ∀ r, (change r).name = r.name)
    (changed : ∀ c found, t.rows.get? row = some found →
      cellUnder t.columns (change found).cells c = cell c) :
    ({ t with rows := t.rows.modify row change keeps } : Table).view =
      { t.view with cell := fun r c => if r = row then cell c else t.view.cell r c } := by
  refine view_eq_of_change t (fun r => if r = row then change else id) rfl
    (Catalog.keys_modify t.rows row change keeps) (fun r => ?_)
    (fun r c missing => ?_) fun r c found hr => ?_
  · rw [Catalog.get?_modify]
    split <;> simp
  · have hne : r ≠ row := by
      rintro rfl
      exact (Catalog.get?_eq_none_iff ..).1 missing known
    rw [if_neg hne, cell_view_eq_none missing]
  · by_cases he : r = row
    · rw [if_pos he, if_pos he]
      exact changed c found (he ▸ hr)
    · rw [if_neg he, if_neg he]
      exact (cell_view_of_get? hr).symm

theorem view_fillRow (t : Table) (row : String) (values : List String) :
    (t.fillRow row values).map view = t.view.fillRow row values := by
  rw [fillRow, View.fillRow]
  by_cases known : row ∈ t.rows.keys
  · obtain ⟨found, _, hrow⟩ := row_of_mem known
    rw [hrow, if_neg (not_not.2 (show row ∈ t.view.rows from known))]
    refine congrArg Except.ok (view_modify _ known _ fun c found _ => ?_)
    have hcell : cellUnder t.columns (fitTo t.columns.length values) c =
        cellUnder t.columns values c :=
      cellUnder_congr fun i hi => getD_fitTo hi
    refine hcell.trans ?_
    simp only [cellUnder, List.getD_eq_getElem?_getD]
    rfl
  · rw [row_of_not_mem known, if_pos (show row ∉ t.view.rows from known)]
    rfl

/-! ## Cells -/

theorem view_setCell (t : Table) (row column value : String) :
    (t.setCell row column value).map view = t.view.setCell row column value := by
  rw [setCell, View.setCell]
  by_cases known : row ∈ t.rows.keys
  · obtain ⟨_, _, hrow⟩ := row_of_mem known
    rw [hrow, if_neg (not_not.2 (show row ∈ t.view.rows from known))]
    by_cases hc : column ∈ t.columns
    · obtain ⟨index, found, hindex⟩ := columnIndex_of_mem hc
      obtain ⟨bound, _⟩ := List.idxOf?_eq_some_iff.1 found
      simp only [hindex, if_neg (not_not.2 (show column ∈ t.view.columns from hc))]
      refine congrArg Except.ok ((view_modify
        (fun c => if c = column then some value else t.view.cell row c) known _
        fun c stored hr => ?_).trans (View.ext rfl rfl rfl ?_))
      · rw [cell_view_of_get? hr]
        exact cellUnder_setAt value found bound
      · funext r c
        by_cases hr : r = row <;> simp [hr]
    · rw [columnIndex_of_not_mem hc, if_pos (show column ∉ t.view.columns from hc)]
      rfl
  · rw [row_of_not_mem known, if_pos (show row ∉ t.view.rows from known)]
    rfl

/-! ## Operations -/

theorem view_apply (proper : t.Proper) (operation : Operation) :
    (t.apply operation).map view = t.view.apply operation := by
  cases operation with
  | addColumn column => exact congrArg Except.ok (view_addColumn proper column)
  | deleteColumn column => exact congrArg Except.ok (view_deleteColumn proper column)
  | renameColumn old new => exact view_renameColumn proper old new
  | fillColumn column values => exact view_fillColumn t column values
  | addRow row => exact congrArg Except.ok (view_addRow t row)
  | deleteRow row => exact congrArg Except.ok (view_deleteRow t row)
  | renameRow old new => exact view_renameRow t old new
  | fillRow row values => exact view_fillRow t row values
  | setCell row column value => exact view_setCell t row column value

namespace Proper

theorem length_setAt_le {width index : Nat} {cells : List String} (value : String) {bound : Nat}
    (h : cells.length ≤ bound) (hw : width ≤ bound) :
    (setAt width index value cells).length ≤ bound := by
  rw [setAt, List.length_set, length_padTo]
  omega

theorem addColumn (proper : t.Proper) (column : String) : (t.addColumn column).Proper := by
  rw [Table.addColumn]
  split
  · exact proper
  · next absent =>
      have fresh : column ∉ t.columns := fun hm => absent (hasColumn_iff.2 hm)
      refine ⟨?_, List.forall_mem_map.2 fun row hr => ?_⟩
      · exact proper.distinct.append (List.nodup_singleton column) (by simpa using fresh)
      · have := proper.short row hr
        simpa [Row.withCells] using this

theorem deleteColumn (proper : t.Proper) (column : String) : (t.deleteColumn column).Proper := by
  rw [Table.deleteColumn]
  split
  · exact proper
  · next index found =>
      obtain ⟨bound, _⟩ := List.idxOf?_eq_some_iff.1 found
      refine ⟨proper.distinct.sublist (List.eraseIdx_sublist _ _),
        List.forall_mem_map.2 fun row hr => ?_⟩
      have hrow := proper.short row hr
      simp only [Row.withCells, List.length_eraseIdx, if_pos bound]
      split <;> omega

theorem renameColumn (proper : t.Proper) (h : t.renameColumn old new = .ok after) :
    after.Proper := by
  obtain ⟨index, hc, free, rfl⟩ := renameColumn_eq_ok h
  obtain ⟨bound, hold⟩ := columnIndex_eq_ok hc
  refine ⟨?_, fun row hr => ?_⟩
  · rcases free with rfl | fresh
    · rw [← hold, List.set_getElem_self]
      exact proper.distinct
    · exact proper.distinct.set fresh
  · rw [List.length_set]
    exact proper.short row hr

theorem fillColumn (proper : t.Proper) (h : t.fillColumn column values = .ok after) :
    after.Proper := by
  obtain ⟨index, hc, rfl⟩ := fillColumn_eq_ok h
  obtain ⟨bound, _⟩ := columnIndex_eq_ok hc
  exact ⟨proper.distinct, Catalog.forall_overlayEntries values proper.short
    fun row value hr => length_setAt_le value hr bound⟩

theorem addRow (proper : t.Proper) (row : String) : (t.addRow row).Proper := by
  rw [Table.addRow]
  split
  · exact proper
  · exact ⟨proper.distinct,
      Catalog.forall_put proper.short (Nat.le_of_eq List.length_replicate)⟩

theorem deleteRow (proper : t.Proper) (row : String) : (t.deleteRow row).Proper :=
  ⟨proper.distinct, Catalog.forall_erase row proper.short⟩

theorem renameRow (proper : t.Proper) (h : t.renameRow old new = .ok after) : after.Proper := by
  obtain ⟨found, hr, ⟨_, rfl⟩ | ⟨_, rfl⟩⟩ := renameRow_eq_ok h
  · exact proper
  · have hfound := proper.short_of_get? (row_eq_ok hr)
    exact ⟨proper.distinct, Catalog.forall_exchangeEntry proper.short hfound⟩

theorem fillRow (proper : t.Proper) (h : t.fillRow row values = .ok after) : after.Proper := by
  obtain ⟨_, rfl⟩ := fillRow_eq_ok h
  exact ⟨proper.distinct, Catalog.forall_modify proper.short
    fun _ _ => Nat.le_of_eq (length_fitTo _ values)⟩

theorem setCell (proper : t.Proper) (h : t.setCell row column value = .ok after) :
    after.Proper := by
  obtain ⟨_, index, _, rfl⟩ := setCell_eq_ok h
  exact ⟨proper.distinct, Catalog.forall_modify proper.short
    fun row hr => length_setAt_le value hr (Nat.le_refl _)⟩

theorem apply (proper : t.Proper) {operation : Operation} (h : t.apply operation = .ok after) :
    after.Proper := by
  cases operation with
  | addColumn column => exact Except.ok.inj h ▸ proper.addColumn column
  | deleteColumn column => exact Except.ok.inj h ▸ proper.deleteColumn column
  | renameColumn old new => exact proper.renameColumn h
  | fillColumn column values => exact proper.fillColumn h
  | addRow row => exact Except.ok.inj h ▸ proper.addRow row
  | deleteRow row => exact Except.ok.inj h ▸ proper.deleteRow row
  | renameRow old new => exact proper.renameRow h
  | fillRow row values => exact proper.fillRow h
  | setCell row column value => exact proper.setCell h

end Proper

/-! ## Copies -/

theorem view_copy (t : Table) (name : String) : (t.copy name).view = { t.view with name } := by
  refine View.ext rfl rfl rfl ?_
  funext r c
  rw [cell_view]
  exact (cell_view t r c).symm

theorem Proper.copy (proper : t.Proper) (name : String) : (t.copy name).Proper :=
  ⟨proper.distinct, proper.short⟩

/-- A table made of the columns and the filled rows of another one shows the same. -/
theorem view_ofColumns (proper : t.Proper) (name : String) :
    ∃ back, ofColumns name t.columns t.fittedRows = .ok back ∧
      back.view = { t.view with name } ∧ back.Proper := by
  let fill : Row → Row := (·.withCells (fitTo t.columns.length))
  let trim : Row → Row := (·.withCells (·.take t.columns.length))
  have htrim (row : Row) : (trim (fill row)).cells = fitTo t.columns.length row.cells :=
    List.take_of_length_le (Nat.le_of_eq (length_fitTo ..))
  refine ⟨⟨name, t.columns, t.fittedRows.map trim fun _ => rfl⟩, if_pos proper.distinct, ?_,
    proper.distinct, ?_⟩
  · refine view_eq_of_change t (fun _ => trim ∘ fill) rfl ?_ (fun r => ?_)
      (fun r c missing => cell_view_eq_none missing) fun r c found hr => ?_
    · exact (Catalog.keys_map t.fittedRows trim fun _ => rfl).trans
        (Catalog.keys_map t.rows fill fun _ => rfl)
    · rw [← Option.map_map, ← Catalog.get?_map t.rows fill fun _ => rfl]
      exact Catalog.get?_map t.fittedRows trim (fun _ => rfl) r
    · rw [cell_view_of_get? hr]
      simp only [Function.comp_apply, htrim]
      exact cellUnder_congr fun i hi => getD_fitTo hi
  · refine List.forall_mem_map.2 fun row _ => ?_
    exact List.length_take_le _ _

/-! ## The whole -/

/-- On a table without repeated columns and overlong rows every operation does to what is seen what
its counterpart says, is refused exactly where the counterpart is, and leaves such a table; a copy
shows the same, and so does the table made of the columns and the filled rows. -/
theorem view_refinement (t : Table) (proper : t.Proper) :
    (∀ operation, (t.apply operation).map view = t.view.apply operation ∧
      ∀ after, t.apply operation = .ok after → after.Proper) ∧
    (∀ name, (t.copy name).view = { t.view with name } ∧ (t.copy name).Proper) ∧
    ∀ name, ∃ back, ofColumns name t.columns t.fittedRows = .ok back ∧
      back.view = { t.view with name } ∧ back.Proper := by
  refine ⟨fun operation => ⟨view_apply proper operation, fun after h => proper.apply h⟩, ?_, ?_⟩
  · exact fun name => ⟨view_copy t name, proper.copy name⟩
  · exact fun name => view_ofColumns proper name

theorem view_refinement_ragged :
    let t : Table := ⟨"T", ["A", "B"], ⟨[⟨"r", []⟩, ⟨"s", ["1", "2"]⟩, ⟨"t", ["3"]⟩], by decide⟩⟩
    t.Proper ∧ ∀ operation, (t.apply operation).map view = t.view.apply operation ∧
      ∀ after, t.apply operation = .ok after → after.Proper := by
  intro t
  have proper : t.Proper := ⟨by decide, by decide⟩
  exact ⟨proper, (view_refinement t proper).1⟩

end Wordsheet.Table
