import Wordsheet.Proofs.Command.BareWords

/-! # Where names stand

In a line the parts of a command stand one after the other, and a name may be next. Whatever follows
it, the line is read in the same way with the name bare and between double quotes, except in two
places where a keyword can come instead of a name and takes the head of a bare one: `column` after
`fill`, and a linking keyword after the row of `set`.
-/

namespace Wordsheet.Command

open Text

variable {before done parts : List Part} {cs mid rest : List Char} {word text : String}

/-! ## Reading parts -/

/-- Whether a keyword is read where a name may come behind some parts. -/
def takesKeyword (before : List Part) (cs : List Char) : Bool :=
  match before with
  | [.keyword "fill"] => (afterPlural? "column" cs).isSome
  | [.keyword "set", .name _] => linkComes cs
  | _ => false

/-- Parts are read behind others that are done with, and so much of a text is left. -/
def Reads : (done parts : List Part) → (cs rest : List Char) → Prop
  | _, [], cs, rest => cs = rest
  | done, .keyword word :: parts, cs, rest =>
      ∃ mid, after? word cs = some mid ∧ Reads (done ++ [.keyword word]) parts mid rest
  | done, .plural word :: parts, cs, rest =>
      ∃ mid, afterPlural? word cs = some mid ∧ Reads (done ++ [.plural word]) parts mid rest
  | done, .name text :: parts, cs, rest =>
      takesKeyword done cs = false ∧
        ∃ mid, name? cs = some (text, mid) ∧ Reads (done ++ [.name text]) parts mid rest
  | _, .items _ :: _, _, _ => False

def Part.isSpelled : Part → Bool
  | .keyword word | .plural word => isKeyword word
  | .name _ | .items _ => true

theorem isSpelled_of_mem_parts (command : Command) :
    ∀ part ∈ command.parts, part.isSpelled = true := by
  rw [← List.all_eq_true]
  cases command with
  | help topic => cases topic <;> rfl
  | _ => rfl

theorem takesKeyword_append (before : List Part) (visible : skipGap cs ≠ []) (apart : Apart rest) :
    takesKeyword before (cs ++ rest) = takesKeyword before cs := by
  unfold takesKeyword
  split
  · rw [afterPlural?_append rfl visible apart, Option.isSome_map]
  · exact linkComes_append visible apart
  · rfl

theorem skipGap_ne_nil_of_after? (hw : isKeyword word = true) (h : after? word cs = some mid) :
    skipGap cs ≠ [] := by
  intro hnil
  obtain ⟨letter, letters, hletters⟩ := List.exists_cons_of_ne_nil (isKeyword_iff.1 hw).1
  rw [after?, hnil, hletters, afterLetters?] at h
  cases h

theorem skipGap_ne_nil_of_afterPlural? (hw : isKeyword word = true)
    (h : afterPlural? word cs = some mid) : skipGap cs ≠ [] := by
  rw [afterPlural?] at h
  cases hs : after? (word ++ "s") cs with
  | some left => exact skipGap_ne_nil_of_after? (isKeyword_plural hw) hs
  | none =>
      rw [hs] at h
      exact skipGap_ne_nil_of_after? hw h

/-- Parts are read in the same way when a text goes on with a blank. -/
theorem Reads.append {left : List Char} (h : Reads done parts cs left)
    (spelled : ∀ part ∈ parts, part.isSpelled = true) (apart : Apart rest) :
    Reads done parts (cs ++ rest) (left ++ rest) := by
  induction parts generalizing done cs with
  | nil => exact congrArg (· ++ rest) h
  | cons part parts ih =>
      have further {done : List Part} {mid : List Char} (h : Reads done parts mid left) :=
        ih h fun other ho => spelled other (List.mem_cons_of_mem part ho)
      cases part with
      | keyword word =>
          obtain ⟨mid, hword, h⟩ := h
          have hw : isKeyword word = true := spelled _ List.mem_cons_self
          refine ⟨mid ++ rest, ?_, further h⟩
          rw [after?_append hw (skipGap_ne_nil_of_after? hw hword) apart, hword, Option.map_some]
      | plural word =>
          obtain ⟨mid, hword, h⟩ := h
          have hw : isKeyword word = true := spelled _ List.mem_cons_self
          refine ⟨mid ++ rest, ?_, further h⟩
          rw [afterPlural?_append hw (skipGap_ne_nil_of_afterPlural? hw hword) apart, hword,
            Option.map_some]
      | name text =>
          obtain ⟨free, mid, hname, h⟩ := h
          refine ⟨?_, mid ++ rest, name?_append hname apart, further h⟩
          rw [takesKeyword_append done (skipGap_ne_nil_of_name? hname) apart, free]
      | items texts => exact h

/-! ## Places -/

/-- Behind some parts of a command a name may come: as the next part, or in a row of names that ends
the line, after others of them. -/
inductive Awaits (command : Command) (before : List Part) : (others : List Char) → Prop where
  | name {text : String} {after : List Part}
      (h : command.parts = before ++ .name text :: after) : Awaits command before []
  | items {texts held : List String} {others : List Char}
      (h : command.parts = before ++ [.items texts]) (apart : Apart others)
      (complete : items? others = some held) : Awaits command before others

/-- Where a keyword is read that may have an `s` at its end, no other keyword is read. -/
theorem after?_eq_none_of_plural {other : String} (hw : isKeyword word = true)
    (ho : isKeyword other = true) (hone : other ≠ word) (hmany : other ≠ word ++ "s")
    (h : afterPlural? word cs = some mid) : after? other cs = none := by
  rw [afterPlural?] at h
  cases hs : after? (word ++ "s") cs with
  | some left => exact after?_eq_none (isKeyword_plural hw) ho hmany hs
  | none =>
      rw [hs] at h
      exact after?_eq_none hw ho hone h

theorem not_row_of_column (h : afterPlural? "column" cs = some mid) :
    afterPlural? "row" cs = none :=
  afterPlural?_eq_none rfl fun k hk he => by
    rcases he with rfl | rfl <;>
      exact after?_eq_none_of_plural rfl hk (by decide) (by decide) h

/-! ## Reading on at a name -/

/-- Behind some parts a line that goes on, and with no keyword, is read by the name that comes next
and what follows it. -/
def NameDecides (before : List Part) : Prop :=
  ∃ resume : Option (String × List Char) → Option Command, ∀ cs rest, Reads [] before cs rest →
    skipGap rest ≠ [] → takesKeyword before rest = false →
      parse? (String.ofList cs) = resume (name? rest)

def ItemsDecide (before : List Part) : Prop :=
  ∃ resume : Option (List String) → Option Command, ∀ cs rest, Reads [] before cs rest →
    parse? (String.ofList cs) = resume (lastItems? rest)

theorem Reads.opens (h : Reads [] (.keyword word :: parts) cs rest)
    (read : List Char → Option Command) (known : (word, read) ∈ readers) :
    ∃ mid, Reads [.keyword word] parts mid rest ∧ parse? (String.ofList cs) = read mid := by
  obtain ⟨mid, h, further⟩ := h
  exact ⟨mid, further, parse?_of_after? known (by rwa [String.toList_ofList])⟩

def endingIn (name : Option (String × List Char)) : Option String :=
  name.bind fun name => atEnd name.1 name.2

theorem lastName?_eq (cs : List Char) : lastName? cs = endingIn (name? cs) := rfl

def endingInTwo (keyword : String) (name : Option (String × List Char)) :
    Option (String × String) :=
  name.bind fun name => (after? keyword name.2).bind fun cs => (lastName? cs).map (name.1, ·)

theorem lastNames?_eq (keyword : String) (cs : List Char) :
    lastNames? keyword cs = endingInTwo keyword (name? cs) := by
  rw [lastNames?, endingInTwo]
  cases name? cs with
  | none => rfl
  | some name =>
      cases h : after? keyword name.2 with
      | none => simp [h]
      | some left => cases hl : lastName? left <;> simp [h, hl]

/-- Behind a name and a keyword another name ends a line. -/
theorem lastNames?_of_first {first keyword : String} {left : List Char}
    (hname : name? cs = some (first, mid)) (hword : after? keyword mid = some left) :
    lastNames? keyword cs = (endingIn (name? left)).map (first, ·) := by
  rw [lastNames?_eq, hname, endingInTwo, Option.bind_some, hword, Option.bind_some, lastName?_eq]

section Forms

theorem nameDecides_createTable :
    NameDecides [.keyword "create", .keyword "table", .keyword "named"] := by
  refine ⟨fun name => (endingIn name).bind fun table => some (.createTable table),
    fun cs rest h _ _ => ?_⟩
  obtain ⟨_, ⟨_, htable, _, hnamed, rfl⟩, hread⟩ :=
    h.opens readCreate (by simp [readers])
  simp [hread, readCreate, htable, hnamed, lastName?_eq]

theorem nameDecides_deleteTable : NameDecides [.keyword "delete", .keyword "table"] := by
  refine ⟨fun name => (endingIn name).map .deleteTable, fun cs rest h _ _ => ?_⟩
  obtain ⟨_, ⟨_, htable, rfl⟩, hread⟩ := h.opens readDelete (by simp [readers])
  simp [hread, readDelete, htable, lastName?_eq]

theorem itemsDecide_deleteRows : ItemsDecide [.keyword "delete", .plural "row"] := by
  refine ⟨fun rows => rows.map .deleteRows, fun cs rest h => ?_⟩
  obtain ⟨_, ⟨_, hrow, rfl⟩, hread⟩ := h.opens readDelete (by simp [readers])
  have htable : after? "table" _ = none :=
    after?_eq_none_of_plural rfl rfl (by decide) (by decide) hrow
  simp [hread, readDelete, htable, hrow]

theorem itemsDecide_deleteColumns : ItemsDecide [.keyword "delete", .plural "column"] := by
  refine ⟨fun columns => columns.map .deleteColumns, fun cs rest h => ?_⟩
  obtain ⟨_, ⟨_, hcolumn, rfl⟩, hread⟩ := h.opens readDelete (by simp [readers])
  have htable : after? "table" _ = none :=
    after?_eq_none_of_plural rfl rfl (by decide) (by decide) hcolumn
  simp [hread, readDelete, htable, not_row_of_column hcolumn, hcolumn]

theorem nameDecides_switchTable : NameDecides [.keyword "switch", .keyword "table"] := by
  refine ⟨fun name => (endingIn name).bind fun table => some (.switchTable table),
    fun cs rest h _ _ => ?_⟩
  obtain ⟨_, ⟨_, htable, rfl⟩, hread⟩ := h.opens readSwitch (by simp [readers])
  simp [hread, readSwitch, htable, lastName?_eq]

theorem nameDecides_copySource : NameDecides [.keyword "copy", .keyword "table"] := by
  refine ⟨fun name => (endingInTwo "to" name).bind fun names => some (.copyTable names.1 names.2),
    fun cs rest h _ _ => ?_⟩
  obtain ⟨_, ⟨_, htable, rfl⟩, hread⟩ := h.opens readCopy (by simp [readers])
  simp [hread, readCopy, htable, lastNames?_eq]

theorem nameDecides_copyDestination (source : String) :
    NameDecides [.keyword "copy", .keyword "table", .name source, .keyword "to"] := by
  refine ⟨fun name => ((endingIn name).map (source, ·)).bind fun names =>
    some (.copyTable names.1 names.2), fun cs rest h _ _ => ?_⟩
  obtain ⟨_, ⟨_, htable, _, _, hsource, _, hto, rfl⟩, hread⟩ :=
    h.opens readCopy (by simp [readers])
  simp [hread, readCopy, htable, lastNames?_of_first hsource hto]

theorem itemsDecide_addRows : ItemsDecide [.keyword "add", .plural "row"] := by
  refine ⟨fun rows => rows.map .addRows, fun cs rest h => ?_⟩
  obtain ⟨_, ⟨_, hrow, rfl⟩, hread⟩ := h.opens readAdd (by simp [readers])
  simp [hread, readAdd, hrow]

theorem itemsDecide_addColumns : ItemsDecide [.keyword "add", .plural "column"] := by
  refine ⟨fun columns => columns.map .addColumns, fun cs rest h => ?_⟩
  obtain ⟨_, ⟨_, hcolumn, rfl⟩, hread⟩ := h.opens readAdd (by simp [readers])
  simp [hread, readAdd, not_row_of_column hcolumn, hcolumn]

theorem nameDecides_fillRow : NameDecides [.keyword "fill"] := by
  refine ⟨fun name => name.bind fun row => (after? "with" row.2).bind fun cs =>
    (lastItems? cs).bind fun values => some (.fillRow row.1 values), fun cs rest h _ free => ?_⟩
  obtain ⟨_, rfl, hread⟩ := h.opens readFill (by simp [readers])
  have hcolumn := Option.isSome_eq_false_iff.1 free
  simp [hread, readFill, Option.isNone_iff_eq_none.1 hcolumn]

theorem itemsDecide_fillRow (row : String) :
    ItemsDecide [.keyword "fill", .name row, .keyword "with"] := by
  refine ⟨fun values => values.bind fun values => some (.fillRow row values), fun cs rest h => ?_⟩
  obtain ⟨_, ⟨free, _, hrow, _, hwith, rfl⟩, hread⟩ :=
    h.opens readFill (by simp [readers])
  have hcolumn := Option.isSome_eq_false_iff.1 free
  simp [hread, readFill, Option.isNone_iff_eq_none.1 hcolumn, hrow, hwith]

theorem nameDecides_fillColumn : NameDecides [.keyword "fill", .plural "column"] := by
  refine ⟨fun name => name.bind fun column => (after? "with" column.2).bind fun cs =>
    (lastItems? cs).bind fun values => some (.fillColumn column.1 values),
    fun cs rest h _ _ => ?_⟩
  obtain ⟨_, ⟨_, hcolumn, rfl⟩, hread⟩ := h.opens readFill (by simp [readers])
  simp [hread, readFill, hcolumn]

theorem itemsDecide_fillColumn (column : String) :
    ItemsDecide [.keyword "fill", .plural "column", .name column, .keyword "with"] := by
  refine ⟨fun values => values.bind fun values => some (.fillColumn column values),
    fun cs rest h => ?_⟩
  obtain ⟨_, ⟨_, hcolumn, _, _, hname, _, hwith, rfl⟩, hread⟩ :=
    h.opens readFill (by simp [readers])
  simp [hread, readFill, hcolumn, hname, hwith]

theorem nameDecides_setRow : NameDecides [.keyword "set"] := by
  refine ⟨fun name => name.bind fun row => (nextName? row.2).bind fun column =>
    (after? "to" column.2).bind fun cs =>
      (lastText? cs).bind fun text => some (.setCell row.1 column.1 text),
    fun cs rest h _ _ => ?_⟩
  obtain ⟨_, rfl, hread⟩ := h.opens readSet (by simp [readers])
  simp [hread, readSet]

theorem nameDecides_setColumn (row : String) : NameDecides [.keyword "set", .name row] := by
  refine ⟨fun name => name.bind fun column => (after? "to" column.2).bind fun cs =>
    (lastText? cs).bind fun text => some (.setCell row column.1 text), fun cs rest h _ free => ?_⟩
  obtain ⟨_, ⟨_, _, hrow, rfl⟩, hread⟩ := h.opens readSet (by simp [readers])
  have hlink : linkComes _ = false := free
  simp [hread, readSet, hrow, nextName?, hlink]

theorem itemsDecide_setCell (row column : String) :
    ItemsDecide [.keyword "set", .name row, .name column, .keyword "to"] := by
  refine ⟨fun texts => (texts.map (String.intercalate " ")).bind fun text =>
    some (.setCell row column text), fun cs rest h => ?_⟩
  obtain ⟨_, ⟨_, _, hrow, free, _, hcolumn, _, hto, rfl⟩, hread⟩ :=
    h.opens readSet (by simp [readers])
  have hlink : linkComes _ = false := free
  simp [hread, readSet, hrow, nextName?, hlink, hcolumn, hto, lastText?]

theorem nameDecides_renameRow : NameDecides [.keyword "rename", .plural "row"] := by
  refine ⟨fun name => (endingInTwo "to" name).map fun names => .renameRow names.1 names.2,
    fun cs rest h _ _ => ?_⟩
  obtain ⟨_, ⟨_, hrow, rfl⟩, hread⟩ := h.opens readRename (by simp [readers])
  simp [hread, readRename, hrow, lastNames?_eq]

theorem nameDecides_renamedRow (old : String) :
    NameDecides [.keyword "rename", .plural "row", .name old, .keyword "to"] := by
  refine ⟨fun name => ((endingIn name).map (old, ·)).map fun names => .renameRow names.1 names.2,
    fun cs rest h _ _ => ?_⟩
  obtain ⟨_, ⟨_, hrow, _, _, hold, _, hto, rfl⟩, hread⟩ :=
    h.opens readRename (by simp [readers])
  simp [hread, readRename, hrow, lastNames?_of_first hold hto]

theorem nameDecides_renameColumn : NameDecides [.keyword "rename", .plural "column"] := by
  refine ⟨fun name => (endingInTwo "to" name).map fun names => .renameColumn names.1 names.2,
    fun cs rest h _ _ => ?_⟩
  obtain ⟨_, ⟨_, hcolumn, rfl⟩, hread⟩ := h.opens readRename (by simp [readers])
  simp [hread, readRename, not_row_of_column hcolumn, hcolumn, lastNames?_eq]

theorem nameDecides_renamedColumn (old : String) :
    NameDecides [.keyword "rename", .plural "column", .name old, .keyword "to"] := by
  refine ⟨fun name => ((endingIn name).map (old, ·)).map fun names =>
    .renameColumn names.1 names.2, fun cs rest h _ _ => ?_⟩
  obtain ⟨_, ⟨_, hcolumn, _, _, hold, _, hto, rfl⟩, hread⟩ :=
    h.opens readRename (by simp [readers])
  simp [hread, readRename, not_row_of_column hcolumn, hcolumn, lastNames?_of_first hold hto]

theorem nameDecides_exportTable :
    NameDecides [.keyword "export", .keyword "table", .keyword "to"] := by
  refine ⟨fun name => (endingIn name).bind fun file => some (.exportTable file),
    fun cs rest h _ _ => ?_⟩
  obtain ⟨_, ⟨_, htable, _, hto, rfl⟩, hread⟩ := h.opens readExport (by simp [readers])
  simp [hread, readExport, htable, hto, lastName?_eq]

theorem nameDecides_importTable :
    NameDecides [.keyword "import", .keyword "table", .keyword "from"] := by
  refine ⟨fun name => (endingIn name).bind fun file => some (.importTable file),
    fun cs rest h _ _ => ?_⟩
  obtain ⟨_, ⟨_, htable, _, hfrom, rfl⟩, hread⟩ := h.opens readImport (by simp [readers])
  simp [hread, readImport, htable, hfrom, lastName?_eq]

theorem itemsDecide_calculate : ItemsDecide [.keyword "calc"] := by
  refine ⟨fun texts => (texts.map (String.intercalate " ")).map .calculate, fun cs rest h => ?_⟩
  obtain ⟨_, rfl, hread⟩ := h.opens readCalculate (by simp [readers])
  simp [hread, readCalculate, lastText?]

theorem nameDecides_defineName : NameDecides [.keyword "define"] := by
  refine ⟨fun name => (endingInTwo "as" name).map fun names => .defineConstant names.1 names.2,
    fun cs rest h _ _ => ?_⟩
  obtain ⟨_, rfl, hread⟩ := h.opens readDefine (by simp [readers])
  simp [hread, readDefine, lastNames?_eq]

theorem nameDecides_defineValue (name : String) :
    NameDecides [.keyword "define", .name name, .keyword "as"] := by
  refine ⟨fun value => ((endingIn value).map (name, ·)).map fun names =>
    .defineConstant names.1 names.2, fun cs rest h _ _ => ?_⟩
  obtain ⟨_, ⟨_, _, hname, _, has, rfl⟩, hread⟩ := h.opens readDefine (by simp [readers])
  simp [hread, readDefine, lastNames?_of_first hname has]

theorem nameDecides_help : NameDecides [.keyword "help"] := by
  refine ⟨fun name => (endingIn name).map fun topic => .help (some topic),
    fun cs rest h visible _ => ?_⟩
  obtain ⟨_, rfl, hread⟩ := h.opens readHelp (by simp [readers])
  have hopen : ¬ List.all _ isGap = true := fun all =>
    visible (List.dropWhile_eq_nil_iff.2 (List.all_eq_true.1 all))
  rw [hread, readHelp, if_neg hopen, lastName?_eq]

end Forms

/-! ## Every place -/

/-- Behind the parts of a command before a name, the name decides. -/
theorem nameDecides_of_parts {command : Command} {after : List Part}
    (h : command.parts = before ++ .name text :: after) : NameDecides before := by
  cases command with
  | createTable table =>
      simp [Command.parts, List.cons_eq_append_iff] at h
      exact h.1 ▸ nameDecides_createTable
  | deleteTable table =>
      simp [Command.parts, List.cons_eq_append_iff] at h
      exact h.1 ▸ nameDecides_deleteTable
  | switchTable table =>
      simp [Command.parts, List.cons_eq_append_iff] at h
      exact h.1 ▸ nameDecides_switchTable
  | copyTable source destination =>
      simp [Command.parts, List.cons_eq_append_iff] at h
      obtain ⟨_, rfl, ⟨rfl, _⟩ | ⟨rfl, _⟩⟩ := h
      · exact nameDecides_copySource
      · exact nameDecides_copyDestination source
  | fillRow row values =>
      simp [Command.parts, List.cons_eq_append_iff] at h
      exact h.1 ▸ nameDecides_fillRow
  | fillColumn column values =>
      simp [Command.parts, List.cons_eq_append_iff] at h
      exact h.1 ▸ nameDecides_fillColumn
  | setCell row column value =>
      simp [Command.parts, List.cons_eq_append_iff] at h
      obtain ⟨_, rfl, ⟨rfl, _⟩ | ⟨rfl, _⟩⟩ := h
      · exact nameDecides_setRow
      · exact nameDecides_setColumn row
  | renameRow old new =>
      simp [Command.parts, List.cons_eq_append_iff] at h
      obtain ⟨_, rfl, ⟨rfl, _⟩ | ⟨rfl, _⟩⟩ := h
      · exact nameDecides_renameRow
      · exact nameDecides_renamedRow old
  | renameColumn old new =>
      simp [Command.parts, List.cons_eq_append_iff] at h
      obtain ⟨_, rfl, ⟨rfl, _⟩ | ⟨rfl, _⟩⟩ := h
      · exact nameDecides_renameColumn
      · exact nameDecides_renamedColumn old
  | exportTable file =>
      simp [Command.parts, List.cons_eq_append_iff] at h
      exact h.1 ▸ nameDecides_exportTable
  | importTable file =>
      simp [Command.parts, List.cons_eq_append_iff] at h
      exact h.1 ▸ nameDecides_importTable
  | defineConstant name value =>
      simp [Command.parts, List.cons_eq_append_iff] at h
      obtain ⟨_, rfl, ⟨rfl, _⟩ | ⟨rfl, _⟩⟩ := h
      · exact nameDecides_defineName
      · exact nameDecides_defineValue name
  | help topic =>
      cases topic with
      | none => simp [Command.parts, List.cons_eq_append_iff] at h
      | some topic =>
          simp [Command.parts, List.cons_eq_append_iff] at h
          exact h.1 ▸ nameDecides_help
  | showTable | listTables | addRows | deleteRows | addColumns | deleteColumns | calculate =>
      simp [Command.parts, List.cons_eq_append_iff] at h

/-- Behind the parts of a command before a row of names, those names decide, and no keyword can come
instead. -/
theorem itemsDecide_of_parts {command : Command} {texts : List String}
    (h : command.parts = before ++ [.items texts]) :
    ItemsDecide before ∧ ∀ cs, takesKeyword before cs = false := by
  cases command with
  | addRows rows =>
      simp [Command.parts, List.cons_eq_append_iff] at h
      exact h.1 ▸ ⟨itemsDecide_addRows, fun _ => rfl⟩
  | deleteRows rows =>
      simp [Command.parts, List.cons_eq_append_iff] at h
      exact h.1 ▸ ⟨itemsDecide_deleteRows, fun _ => rfl⟩
  | addColumns columns =>
      simp [Command.parts, List.cons_eq_append_iff] at h
      exact h.1 ▸ ⟨itemsDecide_addColumns, fun _ => rfl⟩
  | deleteColumns columns =>
      simp [Command.parts, List.cons_eq_append_iff] at h
      exact h.1 ▸ ⟨itemsDecide_deleteColumns, fun _ => rfl⟩
  | fillRow row values =>
      simp [Command.parts, List.cons_eq_append_iff] at h
      exact h.1 ▸ ⟨itemsDecide_fillRow row, fun _ => rfl⟩
  | fillColumn column values =>
      simp [Command.parts, List.cons_eq_append_iff] at h
      exact h.1 ▸ ⟨itemsDecide_fillColumn column, fun _ => rfl⟩
  | setCell row column value =>
      simp [Command.parts, List.cons_eq_append_iff] at h
      exact h.1 ▸ ⟨itemsDecide_setCell row column, fun _ => rfl⟩
  | calculate expression =>
      simp [Command.parts, List.cons_eq_append_iff] at h
      exact h.1 ▸ ⟨itemsDecide_calculate, fun _ => rfl⟩
  | help topic => cases topic <;> simp [Command.parts, List.cons_eq_append_iff] at h
  | createTable | deleteTable | switchTable | copyTable | showTable | listTables | renameRow
  | renameColumn | exportTable | importTable | defineConstant =>
      simp [Command.parts, List.cons_eq_append_iff] at h

/-! ## Keywords that take a name -/

section Taken

variable {blanks : List Char}

theorem skipGap_append_ne_nil (bare : BareWord word) (blanks rest : List Char) :
    skipGap (blanks ++ (word.toList ++ rest)) ≠ [] := by
  intro hnil
  obtain ⟨c, hc⟩ := List.exists_mem_of_ne_nil _ bare.1
  have hg := List.dropWhile_eq_nil_iff.1 hnil c (by simp [hc])
  rw [not_isGap_of_not_isBlank (not_isBlank_of_isBare (bare.2 c hc))] at hg
  cases hg

theorem takesKeyword_inQuotes (before : List Part) (blank : ∀ c ∈ blanks, isBlank c = true)
    (word : String) (rest : List Char) :
    takesKeyword before (blanks ++ (inQuotes word ++ rest)) = false := by
  unfold takesKeyword
  split
  · rw [afterPlural?_eq_none rfl fun k hk _ => after?_blanks_inQuotes hk blank word rest]
    rfl
  · have hlink (keyword : String) (hk : isKeyword keyword = true) :
        (after? keyword (blanks ++ (inQuotes word ++ rest))).isSome = false := by
      rw [after?_blanks_inQuotes hk blank]
      rfl
    simp only [linkComes, List.any_cons, List.any_nil, hlink "to" rfl, hlink "with" rfl,
      hlink "as" rfl, Bool.or_false]
  · rfl

theorem takesKeyword_word (before : List Part) (bare : BareWord word) (apart : Apart rest) :
    takesKeyword before (blanks ++ (word.toList ++ rest)) =
      takesKeyword before (blanks ++ word.toList) := by
  have visible := skipGap_append_ne_nil bare blanks []
  rw [List.append_nil] at visible
  rw [← List.append_assoc, takesKeyword_append before visible apart]

/-- After `fill`, a column is filled where its keyword is read, and else a row. -/
theorem readFill_eq_some {command : Command} (h : readFill cs = some command) :
    (∃ column values, command = .fillColumn column values) ∧
        (afterPlural? "column" cs).isSome = true ∨
      (∃ row values, command = .fillRow row values) ∧
        (afterPlural? "column" cs).isSome = false := by
  rw [readFill] at h
  cases hcolumn : afterPlural? "column" cs with
  | some left =>
      rw [hcolumn] at h
      obtain ⟨name, _, h⟩ := Option.bind_eq_some_iff.1 h
      obtain ⟨_, _, h⟩ := Option.bind_eq_some_iff.1 h
      obtain ⟨values, _, h⟩ := Option.bind_eq_some_iff.1 h
      exact .inl ⟨⟨name.1, values, (Option.some.inj h).symm⟩, rfl⟩
  | none =>
      rw [hcolumn] at h
      obtain ⟨name, _, h⟩ := Option.bind_eq_some_iff.1 h
      obtain ⟨_, _, h⟩ := Option.bind_eq_some_iff.1 h
      obtain ⟨values, _, h⟩ := Option.bind_eq_some_iff.1 h
      exact .inr ⟨⟨name.1, values, (Option.some.inj h).symm⟩, rfl⟩

/-- A keyword can come instead of a name in two places. -/
theorem eq_of_takesKeyword (taken : takesKeyword before cs = true) :
    (before = [.keyword "fill"] ∧ (afterPlural? "column" cs).isSome = true) ∨
      ∃ row, before = [.keyword "set", .name row] ∧ linkComes cs = true := by
  unfold takesKeyword at taken
  split at taken
  · exact .inl ⟨rfl, taken⟩
  · exact .inr ⟨_, rfl, taken⟩
  · cases taken

/-- Where a keyword takes the head of what is read, and not of another text in its place, lines are
read alike only if neither is a command. -/
theorem parse?_of_takesKeyword {line other other' : List Char} (h : Reads [] before line cs)
    (h' : Reads [] before other other') (taken : takesKeyword before cs = true)
    (free : takesKeyword before other' = false)
    (same : parse? (String.ofList line) = parse? (String.ofList other)) :
    parse? (String.ofList line) = none := by
  obtain ⟨rfl, hcolumn⟩ | ⟨row, rfl, hlink⟩ := eq_of_takesKeyword taken
  · obtain ⟨_, rfl, hread⟩ := h.opens readFill (by simp [readers])
    obtain ⟨_, rfl, hread'⟩ := h'.opens readFill (by simp [readers])
    have hfree : (afterPlural? "column" _).isSome = false := free
    cases hline : parse? (String.ofList line) with
    | none => rfl
    | some command =>
        -- the one line fills a column and the other one a row
        rcases readFill_eq_some (hread.symm.trans hline) with ⟨⟨_, _, rfl⟩, _⟩ | ⟨_, hnone⟩
        · rcases readFill_eq_some (hread'.symm.trans (same.symm.trans hline)) with
            ⟨_, hsome⟩ | ⟨⟨_, _, hrow⟩, _⟩
          · rw [hfree] at hsome
            cases hsome
          · cases hrow
        · rw [hcolumn] at hnone
          cases hnone
  · obtain ⟨_, ⟨_, _, hname, rfl⟩, hread⟩ := h.opens readSet (by simp [readers])
    rw [hread, readSet, hname]
    simp [nextName?, hlink]

end Taken

/-! ## Bare words and words between quotes -/

section Lines

variable {command : Command} {pre others blanks : List Char}

def lineWith (pre others blanks written rest : List Char) : String :=
  String.ofList (pre ++ (others ++ (blanks ++ (written ++ rest))))

theorem apart_others (apart : Apart others) (further : Apart rest) : Apart (others ++ rest) := by
  cases others with
  | nil => exact further
  | cons c others => exact apart

theorem isSpelled_of_awaits (awaits : Awaits command before others) :
    ∀ part ∈ before, part.isSpelled = true := by
  intro part hp
  refine isSpelled_of_mem_parts command part ?_
  cases awaits with
  | name h => exact h ▸ List.mem_append_left _ hp
  | items h _ _ => exact h ▸ List.mem_append_left _ hp

/-- Where the next word comes, a line is read with it as the next one. -/
theorem reads_lineWith (awaits : Awaits command before others) (opens : Reads [] before pre [])
    (spaced : blanks ≠ []) (blank : ∀ c ∈ blanks, isBlank c = true) (written : List Char) :
    Reads [] before (pre ++ (others ++ (blanks ++ written))) (others ++ (blanks ++ written)) := by
  have further := apart_append spaced blank written
  have apart : Apart (others ++ (blanks ++ written)) := by
    cases awaits with
    | name h => exact further
    | items h apart _ => exact apart_others apart further
  exact opens.append (isSpelled_of_awaits awaits) apart

/-- A word that no keyword takes the head of is read alike bare and between double quotes. -/
theorem parse?_word_eq_inQuotes (awaits : Awaits command before others)
    (opens : Reads [] before pre []) (spaced : blanks ≠ [])
    (blank : ∀ c ∈ blanks, isBlank c = true) (bare : BareWord word) (apart : Apart rest)
    (free : takesKeyword before (blanks ++ word.toList) = false) :
    parse? (lineWith pre others blanks word.toList rest) =
      parse? (lineWith pre others blanks (inQuotes word) rest) := by
  have hbare := reads_lineWith awaits opens spaced blank (word.toList ++ rest)
  have hquoted := reads_lineWith awaits opens spaced blank (inQuotes word ++ rest)
  rw [lineWith, lineWith]
  cases awaits with
  | name h =>
      obtain ⟨resume, hresume⟩ := nameDecides_of_parts h
      have visible := skipGap_append_ne_nil bare blanks rest
      have visible' : skipGap (blanks ++ (inQuotes word ++ rest)) ≠ [] := by
        intro hnil
        have hq := List.dropWhile_eq_nil_iff.1 hnil '"' (by simp [inQuotes])
        exact absurd hq (by decide)
      rw [hresume _ _ hbare visible (by rwa [List.nil_append, takesKeyword_word before bare apart]),
        hresume _ _ hquoted visible' (takesKeyword_inQuotes before blank word rest),
        List.nil_append, List.nil_append, name?_word_eq_inQuotes bare apart blank]
  | items h _ complete =>
      obtain ⟨⟨resume, hresume⟩, _⟩ := itemsDecide_of_parts h
      rw [hresume _ _ hbare, hresume _ _ hquoted,
        lastItems?_word_eq_inQuotes bare apart spaced blank complete]

theorem afterPlural?_gap (hgap : ∀ c ∈ blanks, isGap c = true) (keyword : String) :
    afterPlural? keyword (blanks ++ cs) = afterPlural? keyword cs := by
  rw [afterPlural?, afterPlural?, after?, after?, after?, after?, skipGap_append hgap]

/-- A row with a bare name is filled with a bare value if `column` takes no head of the name. -/
theorem parse?_fill_iff {value : String} (bare : BareWord word) (bare' : BareWord value) :
    parse? ("fill " ++ word ++ " with " ++ value) = some (.fillRow word [value]) ↔
      (afterPlural? "column" word.toList).isSome = false := by
  have hspace : ∀ c ∈ [' '], isGap c = true := List.forall_mem_singleton.2 rfl
  have hwith : after? "with" (' ' :: ("with".toList ++ ' ' :: value.toList)) =
      some (' ' :: value.toList) := by
    have hw : isKeyword "with" = true := rfl
    have stop : Stops (' ' :: value.toList) := by
      rintro c ⟨⟩
      rfl
    exact (after?_spelled hw hw hspace rfl stop).trans (if_pos rfl)
  generalize htail : ' ' :: ("with".toList ++ ' ' :: value.toList) = tail at hwith
  have apart : Apart tail := by
    rw [← htail]
    rintro c ⟨⟩
    rfl
  have hline : ("fill " ++ word ++ " with " ++ value).toList =
      "fill".toList ++ ([' '] ++ (word.toList ++ tail)) := by
    rw [← htail]
    simp [String.toList_append]
  have stop : Stops ([' '] ++ (word.toList ++ tail)) := by
    rintro c ⟨⟩
    rfl
  have known : ("fill", readFill) ∈ readers := by simp [readers]
  have hread : parse? ("fill " ++ word ++ " with " ++ value) =
      readFill ([' '] ++ (word.toList ++ tail)) :=
    parse?_of_known known rfl stop hline
  have hcolumn : (afterPlural? "column" ([' '] ++ (word.toList ++ tail))).isSome =
      (afterPlural? "column" word.toList).isSome := by
    have visible := skipGap_append_ne_nil bare [] []
    rw [List.nil_append, List.append_nil] at visible
    rw [afterPlural?_gap hspace, afterPlural?_append rfl visible apart, Option.isSome_map]
  rw [hread, ← hcolumn]
  constructor
  · intro h
    rcases readFill_eq_some h with ⟨⟨_, _, hrow⟩, _⟩ | ⟨_, free⟩
    · cases hrow
    · exact free
  · intro free
    have hname : name? (' ' :: (word.toList ++ tail)) = some (word, tail) :=
      name?_word bare apart hspace
    rw [readFill, Option.isNone_iff_eq_none.1 (Option.isSome_eq_false_iff.1 free)]
    simp [hname, hwith, lastItems?_word bare']

/-- A line with a word in the place of a name is read alike with the word bare and between double
quotes, unless a keyword that can come in that place takes the head of the bare word: then the two
lines are read alike only if neither is a command. So a row with a bare name is filled exactly if
`column` takes no head of the name. -/
theorem parse?_word_eq_inQuotes_iff (awaits : Awaits command before others)
    (opens : Reads [] before pre []) (spaced : blanks ≠ [])
    (blank : ∀ c ∈ blanks, isBlank c = true) (bare : BareWord word) (apart : Apart rest) :
    (parse? (lineWith pre others blanks word.toList rest) =
        parse? (lineWith pre others blanks (inQuotes word) rest) ↔
      (takesKeyword before (blanks ++ word.toList) = true →
        parse? (lineWith pre others blanks word.toList rest) = none ∧
          parse? (lineWith pre others blanks (inQuotes word) rest) = none)) ∧
    ∀ value, BareWord value →
      (parse? ("fill " ++ word ++ " with " ++ value) = some (.fillRow word [value]) ↔
        (afterPlural? "column" word.toList).isSome = false) := by
  constructor
  · cases taken : takesKeyword before (blanks ++ word.toList) with
    | false =>
        exact iff_of_true (parse?_word_eq_inQuotes awaits opens spaced blank bare apart taken) nofun
    | true =>
        constructor
        · intro same _
          have hbare := reads_lineWith awaits opens spaced blank (word.toList ++ rest)
          have hquoted := reads_lineWith awaits opens spaced blank (inQuotes word ++ rest)
          cases awaits with
          | name h =>
              have hnone := parse?_of_takesKeyword hbare hquoted
                ((takesKeyword_word before bare apart).trans taken)
                (takesKeyword_inQuotes before blank word rest) same
              exact ⟨hnone, same.symm.trans hnone⟩
          | items h _ _ =>
              rw [(itemsDecide_of_parts h).2] at taken
              cases taken
        · intro neither
          obtain ⟨hbare, hquoted⟩ := neither rfl
          rw [hbare, hquoted]
  · exact fun value bare' => parse?_fill_iff bare bare'

theorem parse?_word_eq_inQuotes_iff_columnist :
    Awaits (.fillRow "columnist" ["5"]) [.keyword "fill"] [] ∧
      Reads [] [.keyword "fill"] "fill".toList [] ∧ BareWord "columnist" ∧
      parse? (lineWith "fill".toList [] [' '] "columnist".toList " with 5".toList) =
        parse? (lineWith "fill".toList [] [' '] (inQuotes "columnist") " with 5".toList) ∧
      parse? ("fill " ++ "columnist" ++ " with " ++ "5") = some (.fillRow "columnist" ["5"]) := by
  have awaits : Awaits (.fillRow "columnist" ["5"]) [.keyword "fill"] [] := .name rfl
  have opens : Reads [] [.keyword "fill"] "fill".toList [] := ⟨[], by decide, rfl⟩
  have five : BareWord "5" := ⟨by decide, List.all_eq_true.1 (by decide)⟩
  have bare : BareWord "columnist" := ⟨by decide, List.all_eq_true.1 (by decide)⟩
  have apart : Apart " with 5".toList := by
    rintro c ⟨⟩
    rfl
  obtain ⟨same, filled⟩ := parse?_word_eq_inQuotes_iff awaits opens (List.cons_ne_nil ' ' [])
    (List.forall_mem_singleton.2 rfl) bare apart
  have free : takesKeyword [.keyword "fill"] ([' '] ++ "columnist".toList) = false := by decide
  refine ⟨awaits, opens, bare, same.2 fun taken => ?_, (filled "5" five).2 ?_⟩
  · rw [free] at taken
    cases taken
  · decide

/-- The head of `column-x` is taken for a keyword, though the word is no keyword. -/
theorem not_parse?_word_eq_inQuotes :
    ¬ ∀ (command : Command) (before : List Part) (pre others blanks rest : List Char)
        (word : String), Awaits command before others → Reads [] before pre [] → blanks ≠ [] →
      (∀ c ∈ blanks, isBlank c = true) → BareWord word → Apart rest →
      ¬ Spells "column" word.toList → ¬ Spells "columns" word.toList →
        parse? (lineWith pre others blanks word.toList rest) =
          parse? (lineWith pre others blanks (inQuotes word) rest) := by
  intro all
  have awaits : Awaits (.fillRow "column-x" ["5"]) [.keyword "fill"] [] := .name rfl
  have opens : Reads [] [.keyword "fill"] "fill".toList [] := ⟨[], by decide, rfl⟩
  have spaced : [' '] ≠ [] := List.cons_ne_nil ' ' []
  have blank : ∀ c ∈ [' '], isBlank c = true := List.forall_mem_singleton.2 rfl
  have apart : Apart " with 5".toList := by
    rintro c ⟨⟩
    rfl
  have bare : BareWord "column-x" := ⟨by decide, List.all_eq_true.1 (by decide)⟩
  have same := all _ _ _ _ _ _ "column-x" awaits opens spaced blank bare apart
    (by unfold Spells; decide) (by unfold Spells; decide)
  have hquoted : parse? "fill \"column-x\" with 5" = some (.fillRow "column-x" ["5"]) := by
    have known : ("fill", readFill) ∈ readers := by simp [readers]
    have hfill : after? "fill" "fill \"column-x\" with 5".toList =
        some " \"column-x\" with 5".toList := by decide
    have hcolumn : afterPlural? "column" " \"column-x\" with 5".toList = none := by decide
    have hname : name? " \"column-x\" with 5".toList = some ("column-x", " with 5".toList) := by
      decide
    have hwith : after? "with" " with 5".toList = some (' ' :: "5".toList) := by decide
    have five : BareWord "5" := ⟨by decide, List.all_eq_true.1 (by decide)⟩
    rw [parse?_of_after? known hfill, readFill, hcolumn]
    simp only [hname, hwith, Option.bind_eq_bind, Option.bind_some, lastItems?_word five]
    rfl
  have hnone := parse?_of_takesKeyword
    (reads_lineWith awaits opens spaced blank ("column-x".toList ++ " with 5".toList))
    (reads_lineWith awaits opens spaced blank (inQuotes "column-x" ++ " with 5".toList))
    (by decide) (by decide) same
  have hline : lineWith "fill".toList [] [' '] (inQuotes "column-x") " with 5".toList =
      "fill \"column-x\" with 5" := by decide
  rw [hline, hquoted] at same
  have clash := hnone.symm.trans same
  cases clash

end Lines

end Wordsheet.Command
