import Mathlib.Data.List.TakeWhile
import Wordsheet.Command.Parser
import Wordsheet.Proofs.Command.Words

/-! # Written commands

Every command has a line that is written for it: keywords in any letter case, names and texts
between double quotes, and gaps between them. Read as a command, the line is the command again,
whatever the names and texts hold besides double quotes.
-/

namespace Wordsheet.Command

open Text

/-! ## Lines -/

inductive Part where
  | keyword (word : String)
  /-- A keyword that may have an `s` at its end. -/
  | plural (word : String)
  | name (text : String)
  | items (texts : List String)
  deriving DecidableEq, Repr

/-- Texts between double quotes with blanks between them, all in one line. -/
inductive Listed : List String → List Char → Prop
  | one (text : String) : Listed [text] (inQuotes text)
  | more {texts : List String} {blanks rest : List Char} (text : String) (spaced : blanks ≠ [])
      (blank : ∀ c ∈ blanks, isBlank c = true ∧ c ≠ '\n') (further : Listed texts rest) :
      Listed (text :: texts) (inQuotes text ++ (blanks ++ rest))

/-- How a part may be written: a keyword in any letter case, a name between double quotes. -/
def Part.Written : Part → List Char → Prop
  | .keyword word, cs => Spells word cs
  | .plural word, cs => Spells word cs ∨ Spells (word ++ "s") cs
  | .name text, cs => cs = inQuotes text
  | .items texts, cs => Listed texts cs

/-- How parts are written behind others, spaces and tabs in front of each. -/
inductive Follows : List Part → List Char → Prop
  | nil : Follows [] []
  | cons {part : Part} {parts : List Part} {gap written rest : List Char} (spaced : gap ≠ [])
      (blank : ∀ c ∈ gap, c = ' ' ∨ c = '\t') (here : part.Written written)
      (further : Follows parts rest) : Follows (part :: parts) (gap ++ (written ++ rest))

inductive Line : List Part → List Char → Prop
  | mk {part : Part} {parts : List Part} {written rest : List Char} (here : part.Written written)
      (further : Follows parts rest) : Line (part :: parts) (written ++ rest)

/-- The parts that are written for a command. -/
def parts : Command → List Part
  | .createTable table => [.keyword "create", .keyword "table", .keyword "named", .name table]
  | .deleteTable table => [.keyword "delete", .keyword "table", .name table]
  | .switchTable table => [.keyword "switch", .keyword "table", .name table]
  | .copyTable source destination =>
      [.keyword "copy", .keyword "table", .name source, .keyword "to", .name destination]
  | .showTable => [.keyword "show", .keyword "table"]
  | .listTables => [.keyword "list", .keyword "tables"]
  | .addRows rows => [.keyword "add", .plural "row", .items rows]
  | .deleteRows rows => [.keyword "delete", .plural "row", .items rows]
  | .addColumns columns => [.keyword "add", .plural "column", .items columns]
  | .deleteColumns columns => [.keyword "delete", .plural "column", .items columns]
  | .fillRow row values => [.keyword "fill", .name row, .keyword "with", .items values]
  | .fillColumn column values =>
      [.keyword "fill", .plural "column", .name column, .keyword "with", .items values]
  | .setCell row column value =>
      [.keyword "set", .name row, .name column, .keyword "to", .items [value]]
  | .renameRow old new =>
      [.keyword "rename", .plural "row", .name old, .keyword "to", .name new]
  | .renameColumn old new =>
      [.keyword "rename", .plural "column", .name old, .keyword "to", .name new]
  | .exportTable file => [.keyword "export", .keyword "table", .keyword "to", .name file]
  | .importTable file => [.keyword "import", .keyword "table", .keyword "from", .name file]
  | .calculate expression => [.keyword "calc", .items [expression]]
  | .defineConstant name value => [.keyword "define", .name name, .keyword "as", .name value]
  | .help none => [.keyword "help"]
  | .help (some topic) => [.keyword "help", .name topic]

/-- Whether a part can be written between double quotes, and in one line where a line has to end. -/
def Part.Sayable : Part → Prop
  | .keyword _ | .plural _ => True
  | .name text => '"' ∉ text.toList
  | .items texts => ∀ text ∈ texts, '"' ∉ text.toList ∧ '\n' ∉ text.toList

variable {parts : List Part} {cs gap rest : List Char} {word text : String}

/-! ## Commands have lines -/

theorem exists_listed {texts : List String} (nonempty : texts ≠ []) : ∃ cs, Listed texts cs := by
  induction texts with
  | nil => exact absurd rfl nonempty
  | cons text rest ih =>
      cases rest with
      | nil => exact ⟨_, .one text⟩
      | cons next rest =>
          obtain ⟨cs, hcs⟩ := ih (List.cons_ne_nil next rest)
          have blank : ∀ c ∈ [' '], isBlank c = true ∧ c ≠ '\n' :=
            List.forall_mem_singleton.2 (by decide)
          exact ⟨_, .more text (List.cons_ne_nil ' ' []) blank hcs⟩

theorem Part.exists_written (part : Part) (filled : part ≠ .items []) :
    ∃ cs, part.Written cs := by
  cases part with
  | keyword word => exact ⟨word.toList, rfl⟩
  | plural word => exact ⟨word.toList, .inl rfl⟩
  | name text => exact ⟨inQuotes text, rfl⟩
  | items texts =>
      refine exists_listed ?_
      rintro rfl
      exact filled rfl

theorem exists_follows (filled : .items [] ∉ parts) : ∃ cs, Follows parts cs := by
  induction parts with
  | nil => exact ⟨[], .nil⟩
  | cons part parts ih =>
      rw [List.mem_cons, not_or] at filled
      obtain ⟨written, hw⟩ := part.exists_written (Ne.symm filled.1)
      obtain ⟨rest, hr⟩ := ih filled.2
      have blank : ∀ c ∈ [' '], c = ' ' ∨ c = '\t' := List.forall_mem_singleton.2 (.inl rfl)
      exact ⟨_, .cons (List.cons_ne_nil ' ' []) blank hw hr⟩

/-- Every command has a line, unless a row of texts in it is empty. -/
theorem exists_line (command : Command) (filled : .items [] ∉ command.parts) :
    ∃ line : String, Line command.parts line.toList := by
  have nonempty : command.parts ≠ [] := by
    cases command with
    | help topic => cases topic <;> exact List.cons_ne_nil _ _
    | _ => exact List.cons_ne_nil _ _
  obtain ⟨part, parts, hparts⟩ := List.exists_cons_of_ne_nil nonempty
  rw [hparts, List.mem_cons, not_or] at filled
  obtain ⟨written, hw⟩ := part.exists_written (Ne.symm filled.1)
  obtain ⟨rest, hr⟩ := exists_follows filled.2
  refine ⟨String.ofList (written ++ rest), ?_⟩
  rw [hparts, String.toList_ofList]
  exact .mk hw hr

/-! ## Reading one part -/

theorem isGap_of_spacing (h : ∀ c ∈ gap, c = ' ' ∨ c = '\t') : ∀ c ∈ gap, isGap c = true := by
  intro c hc
  rcases h c hc with rfl | rfl <;> rfl

theorem Follows.stops (h : Follows parts cs) : Stops cs := by
  cases h with
  | nil => exact nofun
  | cons spaced blank _ _ =>
      obtain ⟨c, gap, rfl⟩ := List.exists_cons_of_ne_nil spaced
      intro d hd
      rw [List.cons_append, List.head?_cons, Option.mem_some_iff] at hd
      subst hd
      exact isGap_of_spacing blank _ List.mem_cons_self

theorem Follows.keyword (h : Follows (.keyword word :: parts) cs) (hw : isKeyword word = true) :
    ∃ rest, Follows parts rest ∧ after? word cs = some rest ∧
      ∀ k, isKeyword k = true → k ≠ word → after? k cs = none := by
  cases h with
  | cons _ blank here further =>
      have hread {k : String} (hk : isKeyword k = true) :=
        after?_spelled hk hw (isGap_of_spacing blank) here further.stops
      exact ⟨_, further, (hread hw).trans (if_pos rfl),
        fun k hk hne => (hread hk).trans (if_neg hne)⟩

theorem isKeyword_plural (hw : isKeyword word = true) : isKeyword (word ++ "s") = true := by
  rw [isKeyword_iff] at hw ⊢
  rw [String.toList_append]
  refine ⟨List.append_ne_nil_of_left_ne_nil hw.1 _, fun c hc => ?_⟩
  rcases List.mem_append.1 hc with hc | hc
  · exact hw.2 c hc
  · obtain rfl := List.mem_singleton.1 hc
    rfl

theorem append_s_ne (word : String) : word ++ "s" ≠ word := by
  intro h
  have hlen := congrArg String.length h
  rw [String.length_append] at hlen
  exact absurd hlen (Nat.ne_of_gt (Nat.lt_add_of_pos_right (by decide)))

theorem Follows.plural (h : Follows (.plural word :: parts) cs) (hw : isKeyword word = true) :
    ∃ rest, Follows parts rest ∧ afterPlural? word cs = some rest ∧
      ∀ k, isKeyword k = true → k ≠ word → k ≠ word ++ "s" → after? k cs = none := by
  cases h with
  | cons _ blank here further =>
      have hs := isKeyword_plural hw
      refine ⟨_, further, ?_, fun k hk hone hmany => ?_⟩
      · rcases here with one | many
        · have hread {k : String} (hk : isKeyword k = true) :=
            after?_spelled hk hw (isGap_of_spacing blank) one further.stops
          rw [afterPlural?, hread hs, hread hw, if_neg (append_s_ne word), if_pos rfl]
          rfl
        · rw [afterPlural?, after?_spelled hs hs (isGap_of_spacing blank) many further.stops,
            if_pos rfl]
          rfl
      · rcases here with one | many
        · exact (after?_spelled hk hw (isGap_of_spacing blank) one further.stops).trans
            (if_neg hone)
        · exact (after?_spelled hk hs (isGap_of_spacing blank) many further.stops).trans
            (if_neg hmany)

theorem Follows.name (h : Follows (.name text :: parts) cs) (closed : '"' ∉ text.toList) :
    ∃ rest, Follows parts rest ∧ name? cs = some (text, rest) ∧
      ∀ k, isKeyword k = true → after? k cs = none := by
  cases h with
  | cons _ blank here further =>
      cases here
      have hgap := isGap_of_spacing blank
      exact ⟨_, further, name?_inQuotes hgap closed _, fun k hk => after?_inQuotes hk hgap _ _⟩

theorem Listed.read {texts : List String} (h : Listed texts cs)
    (closed : ∀ text ∈ texts, '"' ∉ text.toList) {blanks : List Char}
    (blank : ∀ c ∈ blanks, isBlank c = true) : items? (blanks ++ cs) = some texts := by
  induction h generalizing blanks with
  | one text =>
      have hread := items?_inQuotes blank (closed text List.mem_cons_self) []
      rw [List.append_nil, items?_blank (List.forall_mem_nil _)] at hread
      exact hread
  | more text _ between _ ih =>
      obtain ⟨first, closed⟩ := List.forall_mem_cons.1 closed
      rw [items?_inQuotes blank first, ih closed fun c hc => (between c hc).1]
      rfl

theorem Listed.starts {texts : List String} (h : Listed texts cs) :
    ∃ rest, cs = '"' :: rest := by
  cases h with
  | one text => exact ⟨_, rfl⟩
  | more text _ _ _ => exact ⟨_, inQuotes_append ..⟩

theorem Listed.one_line {texts : List String} (h : Listed texts cs)
    (flat : ∀ text ∈ texts, '\n' ∉ text.toList) : '\n' ∉ cs := by
  induction h with
  | one text => simpa [inQuotes] using flat text List.mem_cons_self
  | more text _ between _ ih =>
      obtain ⟨first, flat⟩ := List.forall_mem_cons.1 flat
      have hblank : ∀ {blanks : List Char}, (∀ c ∈ blanks, isBlank c = true ∧ c ≠ '\n') →
          '\n' ∉ blanks := fun h hm => (h _ hm).2 rfl
      simp [inQuotes, first, hblank between, ih flat]

theorem Follows.items {texts : List String} (h : Follows [.items texts] cs)
    (sayable : Part.Sayable (.items texts)) : lastItems? cs = some texts := by
  cases h with
  | cons _ blank here further =>
      cases further
      obtain ⟨more, rfl⟩ := here.starts
      -- no line feed stands in the texts, so all that is left of the line is theirs
      have hflat : ∀ c ∈ more, (c != '\n') = true := by
        intro c hc
        rw [bne_iff_ne]
        rintro rfl
        exact here.one_line (fun text ht => (sayable text ht).2) (List.mem_cons_of_mem _ hc)
      have hquoted : skipGap ('"' :: more) = '"' :: more := skipGap_cons rfl more
      have hall : more.takeWhile (· != '\n') = more := List.takeWhile_eq_self_iff.2 hflat
      have hnone : more.dropWhile (· != '\n') = [] := List.dropWhile_eq_nil_iff.2 hflat
      have hquote : isBlank '"' = false := rfl
      have hitems : items? ([] ++ '"' :: more) = some texts :=
        here.read (fun text ht => (sayable text ht).1) (List.forall_mem_nil _)
      rw [lastItems?, remainder?, skipGap_append (isGap_of_spacing blank), List.append_nil, hquoted]
      simp only [hall, hnone, hquote]
      exact hitems

/-! ## Reading the end of a line -/

theorem afterPlural?_eq_none (hw : isKeyword word = true)
    (h : ∀ k, isKeyword k = true → k = word ∨ k = word ++ "s" → after? k cs = none) :
    afterPlural? word cs = none := by
  rw [afterPlural?, h _ (isKeyword_plural hw) (.inr rfl), h _ hw (.inl rfl)]
  rfl

theorem Follows.not_row (h : Follows (.plural "column" :: parts) cs) :
    afterPlural? "row" cs = none := by
  obtain ⟨_, _, _, others⟩ := h.plural rfl
  refine afterPlural?_eq_none rfl fun k hk he => ?_
  rcases he with rfl | rfl <;> exact others _ hk (by decide) (by decide)

theorem atEnd_of_follows {α : Type} (h : Follows [] cs) (result : α) :
    atEnd result cs = some result := by
  cases h
  rfl

theorem Follows.lastName (h : Follows [.name text] cs) (closed : '"' ∉ text.toList) :
    lastName? cs = some text := by
  obtain ⟨_, h, hname, _⟩ := h.name closed
  simp [lastName?, hname, atEnd_of_follows h]

theorem Follows.lastNames {first second : String}
    (h : Follows [.name first, .keyword word, .name second] cs) (hw : isKeyword word = true)
    (hf : '"' ∉ first.toList) (hs : '"' ∉ second.toList) :
    lastNames? word cs = some (first, second) := by
  obtain ⟨_, h, hfirst, _⟩ := h.name hf
  obtain ⟨_, h, hword, _⟩ := h.keyword hw
  simp [lastNames?, hfirst, hword, h.lastName hs]

theorem Follows.lastText (h : Follows [.items [text]] cs)
    (sayable : Part.Sayable (.items [text])) : lastText? cs = some text := by
  rw [lastText?, h.items sayable]
  rfl

/-! ## Reading commands -/

theorem findSome?_of_mem {α β : Type} {entries : List α} {key : α → String} {f : α → Option β}
    {a : α} (distinct : (entries.map key).Nodup) (known : a ∈ entries)
    (others : ∀ b ∈ entries, key b ≠ key a → f b = none) : entries.findSome? f = f a := by
  induction entries with
  | nil => cases known
  | cons b rest ih =>
      obtain ⟨fresh, distinct⟩ := List.nodup_cons.1 distinct
      obtain ⟨hfirst, further⟩ := List.forall_mem_cons.1 others
      rw [List.findSome?_cons]
      rcases List.mem_cons.1 known with rfl | known
      · -- the search goes on where nothing is made of the entry, and finds nothing
        have hrest : rest.findSome? f = none := by
          refine List.findSome?_eq_none_iff.2 fun c hc => further c hc fun same => fresh ?_
          exact same ▸ List.mem_map_of_mem hc
        rw [hrest]
        cases f a <;> rfl
      · rw [hfirst fun same => fresh (same ▸ List.mem_map_of_mem known)]
        exact ih distinct known further

/-- The first keyword decides how a line is read. -/
theorem parse?_of_known {line : String} {read : List Char → Option Command}
    {written : List Char} (known : (word, read) ∈ readers)
    (spelled : Spells word written) (stop : Stops rest)
    (h : line.toList = written ++ rest) : parse? line = read rest := by
  have keywords : ∀ entry ∈ readers, isKeyword entry.1 = true := by decide
  have distinct : (readers.map Prod.fst).Nodup := by decide
  have hafter {k : String} {other : List Char → Option Command} (he : (k, other) ∈ readers) :
      after? k line.toList = if k = word then some rest else none := by
    rw [h]
    exact after?_spelled (keywords _ he) (keywords _ known) (List.forall_mem_nil _) spelled stop
  rw [parse?, findSome?_of_mem distinct known]
  · simp only [hafter known, ↓reduceIte, Option.bind_some]
  · rintro ⟨k, other⟩ he hne
    simp only [hafter he, if_neg hne, Option.bind_none]

section Readers

variable {table row column file value old new expression topic : String}
  {rows columns values : List String}

theorem readCreate_table (h : Follows [.keyword "table", .keyword "named", .name table] cs)
    (closed : '"' ∉ table.toList) : readCreate cs = some (.createTable table) := by
  obtain ⟨_, h, htable, _⟩ := h.keyword rfl
  obtain ⟨_, h, hnamed, _⟩ := h.keyword rfl
  simp [readCreate, htable, hnamed, h.lastName closed]

theorem readDelete_table (h : Follows [.keyword "table", .name table] cs)
    (closed : '"' ∉ table.toList) : readDelete cs = some (.deleteTable table) := by
  obtain ⟨_, h, htable, _⟩ := h.keyword rfl
  simp [readDelete, htable, h.lastName closed]

theorem readDelete_rows (h : Follows [.plural "row", .items rows] cs)
    (sayable : Part.Sayable (.items rows)) : readDelete cs = some (.deleteRows rows) := by
  obtain ⟨_, h, hrow, others⟩ := h.plural rfl
  have htable := others "table" rfl (by decide) (by decide)
  simp [readDelete, htable, hrow, h.items sayable]

theorem readDelete_columns (h : Follows [.plural "column", .items columns] cs)
    (sayable : Part.Sayable (.items columns)) :
    readDelete cs = some (.deleteColumns columns) := by
  have hrow := h.not_row
  obtain ⟨_, h, hcolumn, others⟩ := h.plural rfl
  have htable := others "table" rfl (by decide) (by decide)
  simp [readDelete, htable, hrow, hcolumn, h.items sayable]

theorem readSwitch_table (h : Follows [.keyword "table", .name table] cs)
    (closed : '"' ∉ table.toList) : readSwitch cs = some (.switchTable table) := by
  obtain ⟨_, h, htable, _⟩ := h.keyword rfl
  simp [readSwitch, htable, h.lastName closed]

theorem readCopy_table
    (h : Follows [.keyword "table", .name old, .keyword "to", .name new] cs)
    (hold : '"' ∉ old.toList) (hnew : '"' ∉ new.toList) :
    readCopy cs = some (.copyTable old new) := by
  obtain ⟨_, h, htable, _⟩ := h.keyword rfl
  simp [readCopy, htable, h.lastNames rfl hold hnew]

theorem readShow_table (h : Follows [.keyword "table"] cs) : readShow cs = some .showTable := by
  obtain ⟨_, h, htable, _⟩ := h.keyword rfl
  simp [readShow, htable, atEnd_of_follows h]

theorem readList_tables (h : Follows [.keyword "tables"] cs) :
    readList cs = some .listTables := by
  obtain ⟨_, h, htables, _⟩ := h.keyword rfl
  simp [readList, htables, atEnd_of_follows h]

theorem readAdd_rows (h : Follows [.plural "row", .items rows] cs)
    (sayable : Part.Sayable (.items rows)) : readAdd cs = some (.addRows rows) := by
  obtain ⟨_, h, hrow, _⟩ := h.plural rfl
  simp [readAdd, hrow, h.items sayable]

theorem readAdd_columns (h : Follows [.plural "column", .items columns] cs)
    (sayable : Part.Sayable (.items columns)) : readAdd cs = some (.addColumns columns) := by
  have hrow := h.not_row
  obtain ⟨_, h, hcolumn, _⟩ := h.plural rfl
  simp [readAdd, hrow, hcolumn, h.items sayable]

theorem readFill_row (h : Follows [.name row, .keyword "with", .items values] cs)
    (closed : '"' ∉ row.toList) (sayable : Part.Sayable (.items values)) :
    readFill cs = some (.fillRow row values) := by
  obtain ⟨_, h, hname, others⟩ := h.name closed
  have hcolumn : afterPlural? "column" cs = none :=
    afterPlural?_eq_none rfl fun k hk _ => others k hk
  obtain ⟨_, h, hwith, _⟩ := h.keyword rfl
  simp [readFill, hcolumn, hname, hwith, h.items sayable]

theorem readFill_column
    (h : Follows [.plural "column", .name column, .keyword "with", .items values] cs)
    (closed : '"' ∉ column.toList) (sayable : Part.Sayable (.items values)) :
    readFill cs = some (.fillColumn column values) := by
  obtain ⟨_, h, hcolumn, _⟩ := h.plural rfl
  obtain ⟨_, h, hname, _⟩ := h.name closed
  obtain ⟨_, h, hwith, _⟩ := h.keyword rfl
  simp [readFill, hcolumn, hname, hwith, h.items sayable]

theorem readSet_cell
    (h : Follows [.name row, .name column, .keyword "to", .items [value]] cs)
    (hr : '"' ∉ row.toList) (hc : '"' ∉ column.toList)
    (sayable : Part.Sayable (.items [value])) :
    readSet cs = some (.setCell row column value) := by
  obtain ⟨next, h, hrow, _⟩ := h.name hr
  obtain ⟨_, h, hcolumn, others⟩ := h.name hc
  obtain ⟨_, h, hto, _⟩ := h.keyword rfl
  -- a name between quotes is no linking keyword, whatever it spells
  have hlink : linkComes next = false := by
    simp [linkComes, others "to" rfl, others "with" rfl, others "as" rfl]
  simp [readSet, hrow, nextName?, hlink, hcolumn, hto, h.lastText sayable]

theorem readRename_row
    (h : Follows [.plural "row", .name old, .keyword "to", .name new] cs)
    (hold : '"' ∉ old.toList) (hnew : '"' ∉ new.toList) :
    readRename cs = some (.renameRow old new) := by
  obtain ⟨_, h, hrow, _⟩ := h.plural rfl
  simp [readRename, hrow, h.lastNames rfl hold hnew]

theorem readRename_column
    (h : Follows [.plural "column", .name old, .keyword "to", .name new] cs)
    (hold : '"' ∉ old.toList) (hnew : '"' ∉ new.toList) :
    readRename cs = some (.renameColumn old new) := by
  have hrow := h.not_row
  obtain ⟨_, h, hcolumn, _⟩ := h.plural rfl
  simp [readRename, hrow, hcolumn, h.lastNames rfl hold hnew]

theorem readExport_table (h : Follows [.keyword "table", .keyword "to", .name file] cs)
    (closed : '"' ∉ file.toList) : readExport cs = some (.exportTable file) := by
  obtain ⟨_, h, htable, _⟩ := h.keyword rfl
  obtain ⟨_, h, hto, _⟩ := h.keyword rfl
  simp [readExport, htable, hto, h.lastName closed]

theorem readImport_table (h : Follows [.keyword "table", .keyword "from", .name file] cs)
    (closed : '"' ∉ file.toList) : readImport cs = some (.importTable file) := by
  obtain ⟨_, h, htable, _⟩ := h.keyword rfl
  obtain ⟨_, h, hfrom, _⟩ := h.keyword rfl
  simp [readImport, htable, hfrom, h.lastName closed]

theorem readHelp_topic (h : Follows [.name topic] cs) (closed : '"' ∉ topic.toList) :
    readHelp cs = some (.help (some topic)) := by
  have hopen : cs.all isGap = false := by
    cases h with
    | cons _ _ here _ =>
        cases here
        have hquote : isGap '"' = false := rfl
        simp [inQuotes, hquote]
  rw [readHelp, hopen]
  simp [h.lastName closed]

end Readers

/-! ## The whole -/

theorem Line.parse?_eq {line : String} (h : Line (.keyword word :: parts) line.toList)
    (read : List Char → Option Command) (known : (word, read) ∈ readers) :
    ∃ rest, Follows parts rest ∧ parse? line = read rest := by
  generalize hline : line.toList = cs at h
  cases h with
  | mk here further => exact ⟨_, further, parse?_of_known known here further.stops hline⟩

/-- A line that is written for a command is read as the command. -/
theorem parse?_of_line {command : Command} {line : String}
    (sayable : ∀ part ∈ command.parts, part.Sayable)
    (h : Line command.parts line.toList) : parse? line = some command := by
  cases command with
  | createTable table =>
      obtain ⟨_, h, hread⟩ := h.parse?_eq readCreate (by simp [readers])
      rw [hread, readCreate_table h (sayable (.name table) (by simp [parts]))]
  | deleteTable table =>
      obtain ⟨_, h, hread⟩ := h.parse?_eq readDelete (by simp [readers])
      rw [hread, readDelete_table h (sayable (.name table) (by simp [parts]))]
  | switchTable table =>
      obtain ⟨_, h, hread⟩ := h.parse?_eq readSwitch (by simp [readers])
      rw [hread, readSwitch_table h (sayable (.name table) (by simp [parts]))]
  | copyTable source destination =>
      obtain ⟨_, h, hread⟩ := h.parse?_eq readCopy (by simp [readers])
      rw [hread, readCopy_table h (sayable (.name source) (by simp [parts]))
        (sayable (.name destination) (by simp [parts]))]
  | showTable =>
      obtain ⟨_, h, hread⟩ := h.parse?_eq readShow (by simp [readers])
      rw [hread, readShow_table h]
  | listTables =>
      obtain ⟨_, h, hread⟩ := h.parse?_eq readList (by simp [readers])
      rw [hread, readList_tables h]
  | addRows rows =>
      obtain ⟨_, h, hread⟩ := h.parse?_eq readAdd (by simp [readers])
      rw [hread, readAdd_rows h (sayable (.items rows) (by simp [parts]))]
  | deleteRows rows =>
      obtain ⟨_, h, hread⟩ := h.parse?_eq readDelete (by simp [readers])
      rw [hread, readDelete_rows h (sayable (.items rows) (by simp [parts]))]
  | addColumns columns =>
      obtain ⟨_, h, hread⟩ := h.parse?_eq readAdd (by simp [readers])
      rw [hread, readAdd_columns h (sayable (.items columns) (by simp [parts]))]
  | deleteColumns columns =>
      obtain ⟨_, h, hread⟩ := h.parse?_eq readDelete (by simp [readers])
      rw [hread, readDelete_columns h (sayable (.items columns) (by simp [parts]))]
  | fillRow row values =>
      obtain ⟨_, h, hread⟩ := h.parse?_eq readFill (by simp [readers])
      rw [hread, readFill_row h (sayable (.name row) (by simp [parts]))
        (sayable (.items values) (by simp [parts]))]
  | fillColumn column values =>
      obtain ⟨_, h, hread⟩ := h.parse?_eq readFill (by simp [readers])
      rw [hread, readFill_column h (sayable (.name column) (by simp [parts]))
        (sayable (.items values) (by simp [parts]))]
  | setCell row column value =>
      obtain ⟨_, h, hread⟩ := h.parse?_eq readSet (by simp [readers])
      rw [hread, readSet_cell h (sayable (.name row) (by simp [parts]))
        (sayable (.name column) (by simp [parts])) (sayable (.items [value]) (by simp [parts]))]
  | renameRow old new =>
      obtain ⟨_, h, hread⟩ := h.parse?_eq readRename (by simp [readers])
      rw [hread, readRename_row h (sayable (.name old) (by simp [parts]))
        (sayable (.name new) (by simp [parts]))]
  | renameColumn old new =>
      obtain ⟨_, h, hread⟩ := h.parse?_eq readRename (by simp [readers])
      rw [hread, readRename_column h (sayable (.name old) (by simp [parts]))
        (sayable (.name new) (by simp [parts]))]
  | exportTable file =>
      obtain ⟨_, h, hread⟩ := h.parse?_eq readExport (by simp [readers])
      rw [hread, readExport_table h (sayable (.name file) (by simp [parts]))]
  | importTable file =>
      obtain ⟨_, h, hread⟩ := h.parse?_eq readImport (by simp [readers])
      rw [hread, readImport_table h (sayable (.name file) (by simp [parts]))]
  | calculate expression =>
      obtain ⟨_, h, hread⟩ := h.parse?_eq readCalculate (by simp [readers])
      rw [hread, readCalculate, h.lastText (sayable (.items [expression]) (by simp [parts])),
        Option.map_some]
  | defineConstant name value =>
      obtain ⟨_, h, hread⟩ := h.parse?_eq readDefine (by simp [readers])
      rw [hread, readDefine, h.lastNames rfl (sayable (.name name) (by simp [parts]))
        (sayable (.name value) (by simp [parts])), Option.map_some]
  | help topic =>
      cases topic with
      | none =>
          obtain ⟨_, h, hread⟩ := h.parse?_eq readHelp (by simp [readers])
          cases h
          rw [hread]
          rfl
      | some topic =>
          obtain ⟨_, h, hread⟩ := h.parse?_eq readHelp (by simp [readers])
          rw [hread, readHelp_topic h (sayable (.name topic) (by simp [parts]))]

theorem parse?_of_line_setCell :
    parse? "SeT \t\"to\"  \"with\n\"\ttO \" a  b\"" = some (.setCell "to" "with\n" " a  b") := by
  refine parse?_of_line (by simp [parts, Part.Sayable]) ?_
  have h : Line (parts (.setCell "to" "with\n" " a  b")) ("SeT".toList ++ ([' ', '\t'] ++
      (inQuotes "to" ++ ([' ', ' '] ++ (inQuotes "with\n" ++ (['\t'] ++ ("tO".toList ++ ([' '] ++
        (inQuotes " a  b" ++ []))))))))) :=
    .mk rfl (.cons (by simp) (by simp) rfl (.cons (by simp) (by simp) rfl
      (.cons (by simp) (by simp) rfl (.cons (by simp) (by simp) (Listed.one " a  b") .nil))))
  exact h

end Wordsheet.Command
