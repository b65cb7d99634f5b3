import Wordsheet.Proofs.Table.Shape

/-! # What a table shows

Seen from outside a table is its columns and rows in order and a text for every row and column; how
far a row reaches is not seen. Every operation has its counterpart on what is seen, and carries a
table without repeated columns and overlong rows to what the counterpart says.
-/

namespace Wordsheet

/-- What is seen of a table: its names in order, and the text in a row under a column. -/
@[ext] structure View where
  name : String
  columns : List String
  rows : List String
  cell : (row column : String) → Option String

/-! ## Operations on what is seen -/

namespace View

def renamed (old new : String) (names : List String) : List String :=
  names.map fun name => if name = old then new else name

/-- What a name was before one name was replaced. -/
def formerName (old new name : String) : Option String :=
  if name = new then some old else if name = old then none else some name

theorem formerName_new (old new : String) : formerName old new new = some old :=
  if_pos rfl

theorem formerName_old {old new : String} (h : old ≠ new) : formerName old new old = none := by
  rw [formerName, if_neg h, if_pos rfl]

theorem formerName_other {old new name : String} (hn : name ≠ new) (ho : name ≠ old) :
    formerName old new name = some name := by
  rw [formerName, if_neg hn, if_neg ho]

theorem formerName_self (same name : String) : formerName same same name = some name := by
  by_cases h : name = same
  · rw [h, formerName_new]
  · rw [formerName_other h h]

theorem renamed_self (same : String) (names : List String) : renamed same same names = names :=
  (List.map_congr_left fun name _ => by simp +contextual [eq_comm]).trans (List.map_id names)

variable (v : View)

/-- A column that is empty in every row comes at the end, unless there is one of that name. -/
def addColumn (column : String) : View :=
  if column ∈ v.columns then v
  else
    { v with
      columns := v.columns ++ [column]
      cell := fun r c =>
        if c = column then (if r ∈ v.rows then some "" else none) else v.cell r c }

def deleteColumn (column : String) : View :=
  { v with
    columns := v.columns.filter (· ≠ column)
    cell := fun r c => if c = column then none else v.cell r c }

def renameColumn (old new : String) : Except TableError View :=
  if old ∉ v.columns then .error (.noColumn old v.name)
  else if new ≠ old ∧ new ∈ v.columns then .error (.columnExists new v.name)
  else .ok { v with
    columns := renamed old new v.columns
    cell := fun r c => (formerName old new c).bind (v.cell r) }

/-- The rows in order take the values in order; a row without a value keeps its cell. -/
def fillColumn (column : String) (values : List String) : Except TableError View :=
  if column ∉ v.columns then .error (.noColumn column v.name)
  else .ok { v with
    cell := fun r c =>
      if c = column then ((v.rows.idxOf? r).bind (values[·]?)).or (v.cell r c)
      else v.cell r c }

/-- A row of empty cells comes at the end, unless there is one of that name. -/
def addRow (row : String) : View :=
  if row ∈ v.rows then v
  else
    { v with
      rows := v.rows ++ [row]
      cell := fun r c =>
        if r = row then (if c ∈ v.columns then some "" else none) else v.cell r c }

def deleteRow (row : String) : View :=
  { v with
    rows := v.rows.filter (· ≠ row)
    cell := fun r c => if r = row then none else v.cell r c }

def renameRow (old new : String) : Except TableError View :=
  if old ∉ v.rows then .error (.noRow old v.name)
  else if new ≠ old ∧ new ∈ v.rows then .error (.rowExists new v.name)
  else .ok { v with
    rows := renamed old new v.rows
    cell := fun r c => (formerName old new r).bind (v.cell · c) }

/-- The columns in order take the values in order, and nothing when there are no more. -/
def fillRow (row : String) (values : List String) : Except TableError View :=
  if row ∉ v.rows then .error (.noRow row v.name)
  else .ok { v with
    cell := fun r c =>
      if r = row then (v.columns.idxOf? c).map fun i => values[i]?.getD ""
      else v.cell r c }

def setCell (row column value : String) : Except TableError View :=
  if row ∉ v.rows then .error (.noRow row v.name)
  else if column ∉ v.columns then .error (.noColumn column v.name)
  else .ok { v with
    cell := fun r c => if r = row ∧ c = column then some value else v.cell r c }

end View

inductive Operation where
  | addColumn (column : String)
  | deleteColumn (column : String)
  | renameColumn (old new : String)
  | fillColumn (column : String) (values : List String)
  | addRow (row : String)
  | deleteRow (row : String)
  | renameRow (old new : String)
  | fillRow (row : String) (values : List String)
  | setCell (row column value : String)
  deriving DecidableEq, Repr

def View.apply (v : View) : Operation → Except TableError View
  | .addColumn column => .ok (v.addColumn column)
  | .deleteColumn column => .ok (v.deleteColumn column)
  | .renameColumn old new => v.renameColumn old new
  | .fillColumn column values => v.fillColumn column values
  | .addRow row => .ok (v.addRow row)
  | .deleteRow row => .ok (v.deleteRow row)
  | .renameRow old new => v.renameRow old new
  | .fillRow row values => v.fillRow row values
  | .setCell row column value => v.setCell row column value

namespace Table

def apply (t : Table) : Operation → Except TableError Table
  | .addColumn column => .ok (t.addColumn column)
  | .deleteColumn column => .ok (t.deleteColumn column)
  | .renameColumn old new => t.renameColumn old new
  | .fillColumn column values => t.fillColumn column values
  | .addRow row => .ok (t.addRow row)
  | .deleteRow row => .ok (t.deleteRow row)
  | .renameRow old new => t.renameRow old new
  | .fillRow row values => t.fillRow row values
  | .setCell row column value => t.setCell row column value

def view (t : Table) : View :=
  ⟨t.name, t.columns, t.rows.keys, fun row column => (t.getCell row column).toOption⟩

/-- A table without two columns of one name whose rows reach at most to the last column. -/
structure Proper (t : Table) : Prop where
  distinct : t.columns.Nodup
  short : ∀ row ∈ t.rows.entries, row.cells.length ≤ t.columns.length

theorem Rectangular.proper {t : Table} (shape : t.Rectangular) : t.Proper :=
  ⟨shape.distinct, fun row hr => Nat.le_of_eq (shape.even row hr)⟩

/-! ## A row under its columns -/

section Cells

variable {columns cells : List String} {column name old new : String}

/-- The text that cells hold under a column. -/
def cellUnder (columns cells : List String) (column : String) : Option String :=
  (columns.idxOf? column).map (cells.getD · "")

theorem cellUnder_nil : cellUnder [] cells column = none := rfl

theorem cellUnder_cons (first : String) :
    cellUnder (first :: columns) cells column =
      if column = first then some (cells.headD "") else cellUnder columns cells.tail column := by
  by_cases h : column = first
  · cases cells <;> simp [cellUnder, List.idxOf?_cons, h]
  · have hne : (first == column) = false := beq_false_of_ne (Ne.symm h)
    cases cells <;> simp [cellUnder, List.idxOf?_cons, h, hne, Function.comp_def]

theorem cellUnder_eq_none (h : column ∉ columns) : cellUnder columns cells column = none := by
  rw [cellUnder, List.idxOf?_eq_none_iff.2 h, Option.map_none]

theorem cellUnder_congr {others : List String}
    (h : ∀ i, i < columns.length → cells.getD i "" = others.getD i "") :
    cellUnder columns cells column = cellUnder columns others column := by
  rw [cellUnder, cellUnder]
  refine Option.map_congr fun i hi => ?_
  obtain ⟨bound, _⟩ := List.idxOf?_eq_some_iff.1 hi
  exact h i bound

/-! ### Empty cells -/

theorem getD_append_replicate (count i : Nat) :
    (cells ++ List.replicate count "").getD i "" = cells.getD i "" := by
  rw [List.getD_eq_getElem?_getD, List.getD_eq_getElem?_getD, List.getElem?_append]
  split
  · rfl
  · next past =>
      rw [List.getElem?_eq_none (Nat.le_of_not_lt past), List.getElem?_replicate]
      split <;> rfl

theorem getD_padTo (width i : Nat) : (padTo width cells).getD i "" = cells.getD i "" :=
  getD_append_replicate ..

theorem getD_fitTo {width i : Nat} (h : i < width) :
    (fitTo width cells).getD i "" = cells.getD i "" := by
  rw [fitTo, getD_padTo, List.getD_eq_getElem?_getD, List.getElem?_take_of_lt h,
    List.getD_eq_getElem?_getD]

theorem cellUnder_replicate (count : Nat) :
    cellUnder columns (List.replicate count "") column =
      if column ∈ columns then some "" else none := by
  have empty (i : Nat) : (List.replicate count "").getD i "" = "" :=
    @getD_append_replicate [] count i
  split
  · next known =>
      obtain ⟨i, hi⟩ := Option.isSome_iff_exists.1 (List.isSome_idxOf?.2 known)
      rw [cellUnder, hi, Option.map_some, empty]
  · next absent => exact cellUnder_eq_none absent

theorem cellUnder_append_of_ne (other : column ≠ new) :
    cellUnder (columns ++ [new]) (cells ++ [""]) column = cellUnder columns cells column := by
  -- the empty cell is read as if it were not there, also where it is not below the new column
  have hpad : cellUnder (columns ++ [new]) (cells ++ [""]) column =
      cellUnder (columns ++ [new]) cells column :=
    cellUnder_congr fun i _ => getD_append_replicate 1 i
  rw [hpad]
  clear hpad
  induction columns generalizing cells with
  | nil => rw [List.nil_append, cellUnder_cons, if_neg other, cellUnder_nil, cellUnder_nil]
  | cons first rest ih => rw [List.cons_append, cellUnder_cons, cellUnder_cons, ih]

/-- A new column at the end reads as empty, and the empty cell at the end of a shorter row changes
no other column. -/
theorem cellUnder_append (fresh : new ∉ columns) (short : cells.length ≤ columns.length) :
    cellUnder (columns ++ [new]) (cells ++ [""]) column =
      if column = new then some "" else cellUnder columns cells column := by
  split
  · next hc =>
      have found : (columns ++ [new]).idxOf? new = some columns.length := by
        refine List.idxOf?_eq_some_iff.2 ⟨by simp, by simp, fun i hi => ?_⟩
        rw [List.getElem_append_left hi]
        exact fun same => fresh (same ▸ List.getElem_mem hi)
      have past : (cells ++ [""]).getD columns.length "" = "" := by
        refine (getD_append_replicate 1 _).trans ?_
        rw [List.getD_eq_getElem?_getD, List.getElem?_eq_none short, Option.getD_none]
      rw [hc, cellUnder, found, Option.map_some, past]
  · next other => exact cellUnder_append_of_ne other

/-! ### Cells that move or change -/

theorem cellUnder_eraseIdx_of_ne {index : Nat} (found : columns.idxOf? name = some index)
    (other : column ≠ name) :
    cellUnder (columns.eraseIdx index) (cells.eraseIdx index) column =
      cellUnder columns cells column := by
  induction columns generalizing cells index with
  | nil => cases found
  | cons first rest ih =>
      rw [List.idxOf?_cons] at found
      by_cases hf : first = name
      · rw [if_pos (beq_iff_eq.2 hf)] at found
        obtain rfl := Option.some.inj found
        rw [List.eraseIdx_zero, List.eraseIdx_zero, List.tail_cons, cellUnder_cons,
          if_neg (hf ▸ other)]
      · rw [if_neg (by simpa using hf)] at found
        obtain ⟨index, further, rfl⟩ := Option.map_eq_some_iff.1 found
        have hhead : (cells.eraseIdx (index + 1)).headD "" = cells.headD "" := by
          cases cells <;> rfl
        have htail : (cells.eraseIdx (index + 1)).tail = cells.tail.eraseIdx index := by
          cases cells <;> rfl
        rw [List.eraseIdx_cons_succ, cellUnder_cons, cellUnder_cons, hhead, htail, ih further]

theorem eraseIdx_eq_filter {index : Nat} (distinct : columns.Nodup)
    (found : columns.idxOf? name = some index) :
    columns.eraseIdx index = columns.filter (· ≠ name) := by
  have herase : columns.eraseIdx index = columns.erase name := by
    rw [List.erase_eq_eraseIdx, found]
  rw [herase, distinct.erase_eq_filter]
  exact List.filter_congr fun c _ => by simp [bne, beq_eq_decide]

theorem cellUnder_eraseIdx {index : Nat} (distinct : columns.Nodup)
    (found : columns.idxOf? name = some index) :
    cellUnder (columns.eraseIdx index) (cells.eraseIdx index) column =
      if column = name then none else cellUnder columns cells column := by
  split
  · next hc =>
      refine cellUnder_eq_none ?_
      rw [eraseIdx_eq_filter distinct found, hc]
      simp
  · next other => exact cellUnder_eraseIdx_of_ne found other

theorem cellUnder_renamed (free : new = old ∨ new ∉ columns) :
    cellUnder (View.renamed old new columns) cells column =
      (View.formerName old new column).bind (cellUnder columns cells) := by
  induction columns generalizing cells with
  | nil => cases View.formerName old new column <;> rfl
  | cons first rest ih =>
      have hrest : new = old ∨ new ∉ rest :=
        free.imp_right fun h hm => h (List.mem_cons_of_mem first hm)
      have hfirst : new = old ∨ new ≠ first :=
        free.imp_right fun h he => h (he ▸ List.mem_cons_self)
      have hcons : View.renamed old new (first :: rest) =
          (if first = old then new else first) :: View.renamed old new rest := rfl
      rw [hcons, cellUnder_cons, ih hrest]
      by_cases hn : column = new
      · subst hn
        rw [View.formerName_new]
        by_cases hf : first = old
        · simp [hf, cellUnder_cons]
        · have hne : column ≠ first := hfirst.elim (fun h he => hf (he ▸ h)) id
          simp [hf, hne, Ne.symm hf, cellUnder_cons]
      · by_cases ho : column = old
        · subst ho
          rw [View.formerName_old hn]
          by_cases hf : first = column
          · simp [hf, hn]
          · simp [hf, Ne.symm hf]
        · rw [View.formerName_other hn ho]
          by_cases hf : first = old <;> simp [hf, hn, ho, cellUnder_cons]

theorem getD_setAt {width index i : Nat} (value : String) (h : index < width) :
    (setAt width index value cells).getD i "" = if i = index then value else cells.getD i "" := by
  have hlen : index < (padTo width cells).length := by
    rw [length_padTo]
    omega
  rw [setAt, List.getD_eq_getElem?_getD, List.getElem?_set]
  by_cases hi : i = index
  · simp [hi, hlen]
  · rw [if_neg (Ne.symm hi), if_neg hi, ← List.getD_eq_getElem?_getD, getD_padTo]

theorem cellUnder_setAt {width index : Nat} (value : String)
    (found : columns.idxOf? name = some index) (h : index < width) :
    cellUnder columns (setAt width index value cells) column =
      if column = name then some value else cellUnder columns cells column := by
  split
  · next hc => rw [cellUnder, hc, found, Option.map_some, getD_setAt value h, if_pos rfl]
  · next hc =>
      rw [cellUnder, cellUnder]
      refine Option.map_congr fun i hi => ?_
      have hne : i ≠ index := by
        rintro rfl
        obtain ⟨_, hcolumn, _⟩ := List.idxOf?_eq_some_iff.1 hi
        obtain ⟨_, hname, _⟩ := List.idxOf?_eq_some_iff.1 found
        exact hc (hcolumn.symm.trans hname)
      rw [getD_setAt value h, if_neg hne]

end Cells

end Table

end Wordsheet
