import Wordsheet.Json.Writer
import Wordsheet.Proofs.Formula.Meaning
import Wordsheet.Proofs.Table.Shape
import Wordsheet.Proofs.Workbook
import Wordsheet.Session.Run

/-! # What a request can change

A request leaves a session as it was, files aside, or succeeds and then either changes the workbook
in one of six ways or gives a constant a value. A request without success therefore changes nothing.
What each command can do is said once, with the notice that it leaves; all else follows from that.
-/

namespace Wordsheet

/-- What a command is about: rows, columns or cells of the active table; an answer, on the screen or
in a file; tables as a whole; a table in a file; or a constant. -/
inductive Command.Kind where
  | edit
  | answer
  | arrange
  | load
  | define
  deriving DecidableEq

def Command.kind : Command → Kind
  | .addRows _ | .deleteRows _ | .addColumns _ | .deleteColumns _ | .fillRow .. | .fillColumn ..
  | .setCell .. | .renameRow .. | .renameColumn .. => .edit
  | .showTable | .listTables | .exportTable _ | .calculate _ | .help _ => .answer
  | .createTable _ | .switchTable _ | .copyTable .. | .deleteTable _ => .arrange
  | .importTable _ => .load
  | .defineConstant .. => .define

/-- The changes of a workbook that commands make. -/
inductive Workbook.Change (w : Workbook) : Workbook → Prop where
  | create (name : String) : Change w (w.create name)
  | switch {name : String} {after : Workbook} (h : w.switchTo name = .ok after) : Change w after
  | delete (name : String) : Change w (w.delete name)
  | copy {source destination : String} {after : Workbook}
      (h : w.copy source destination = .ok after) : Change w after
  | edit {t after : Table} (active : w.activeTable? = some t) (edits : t.Edits after) :
      Change w (w.changeActive after)
  | load {store : Store} {file : Path} {header : Yaml} {t : Table}
      (h : Table.importFrom store file none header = .ok t) : Change w (w.putActive t)

namespace Outcome

def Failed (o : Outcome) : Prop :=
  ∀ r, o.reply = .ok r → r.ok = false

def Succeeded (o : Outcome) : Prop :=
  ∃ r, o.reply = .ok r ∧ r.ok = true

/-- Whether a request left a notice of one of some happenings, with a context that can be written.
-/
def Tells (o : Outcome) (happenings : List Happening) : Prop :=
  ∃ n, o.notice = some n ∧ n.happening ∈ happenings ∧ (Json.object n.context).isWritable = true

theorem not_failed_of_succeeded {o : Outcome} (ok : o.Succeeded) : ¬ o.Failed := by
  obtain ⟨r, hr, ok⟩ := ok
  intro failed
  rw [failed r hr] at ok
  cases ok

end Outcome

namespace Session

/-- What a command may lead to: a failure or an answer that changes nothing but files, or a success
that makes the one change which the command is for and leaves its notice. A table that is made anew
although it is there is only chosen, without a notice. -/
inductive Does (s : Session) (o : Outcome) : Command → Prop where
  | same {command : Command} (hs : o.session = { s with store := o.session.store })
      (why : o.Failed ∨ command.kind = .answer)
      (files : (∀ file, command ≠ .exportTable file) → o.session.store = s.store) :
      Does s o command
  | edited {command : Command} {t after : Table} (edits : command.kind = .edit)
      (active : s.workbook.activeTable? = some t) (made : t.Edits after)
      (hs : o.session = s.withTable after) (ok : o.Succeeded) : Does s o command
  | created {name : String} (absent : s.workbook.hasTable name = false)
      (hs : o.session = s.withWorkbook (s.workbook.create name)) (ok : o.Succeeded)
      (told : o.Tells [.tableCreated]) : Does s o (.createTable name)
  | chosenAgain {name : String} {w : Workbook} (named : name ≠ "")
      (h : s.workbook.switchTo name = .ok w) (hs : o.session = s.withWorkbook w)
      (ok : o.Succeeded) (silent : o.notice = none) :
      Does s o (.createTable name)
  | switched {name : String} {w : Workbook} (h : s.workbook.switchTo name = .ok w)
      (hs : o.session = s.withWorkbook w) (ok : o.Succeeded) (told : o.Tells [.tableSwitched]) :
      Does s o (.switchTable name)
  | deleted {name : String} (hs : o.session = s.withWorkbook (s.workbook.delete name))
      (ok : o.Succeeded) (told : o.Tells [.tableDeleted]) : Does s o (.deleteTable name)
  | copied {source destination : String} {w : Workbook}
      (h : s.workbook.copy source destination = .ok w) (hs : o.session = s.withWorkbook w)
      (ok : o.Succeeded) (told : o.Tells [.tableCopied]) :
      Does s o (.copyTable source destination)
  | imported {file : String} {t : Table}
      (h : Table.importFrom s.store (s.resolve file) none s.settings.rowHeader = .ok t)
      (hs : o.session = s.withWorkbook (s.workbook.putActive t))
      (hr : o.reply = .ok ⟨true, s!"Imported table '{t.name}' ({t.rows.size} rows, "
        ++ s!"{t.columns.length} columns) and set as active.", none⟩)
      (told : o.Tells [.tableImported]) : Does s o (.importTable file)
  | defined {name text : String} {engine : Formula.Engine} {value : Float}
      (h : s.engine.register name value = .ok engine) (hs : o.session = { s with engine })
      (ok : o.Succeeded) (told : o.Tells [.constantRegistered]) :
      Does s o (.defineConstant name text)

section Parts

variable {s : Session} {o : Outcome} {t : Table} {command : Command}

theorem does_refuse (command : Command) (message : String) :
    s.Does (s.refuse message) command := by
  refine .same rfl (.inl fun r hr => ?_) fun _ => rfl
  cases hr
  rfl

theorem does_abort (command : Command) (cause : Abort) : s.Does (s.abort cause) command :=
  .same rfl (.inl nofun) fun _ => rfl

theorem does_answer (answers : command.kind = .answer) (message : String)
    (output : Option String) : s.Does (s.answer message output) command :=
  .same rfl (.inr answers) fun _ => rfl

theorem Does.noting (does : s.Does o command) (n : Notice)
    (h : command.kind = .edit ∨ command.kind = .answer) : s.Does (o.noting n) command := by
  cases does with
  | same hs why files => exact .same hs why files
  | edited edits active made hs ok => exact .edited edits active made hs ok
  | created | chosenAgain | switched | deleted | copied | imported | defined =>
      rcases h with h | h <;> cases h

theorem does_onTable {run : Table → Outcome}
    (h : ∀ t, s.workbook.activeTable? = some t → s.Does (run t) command) :
    s.Does (s.onTable run) command := by
  rw [onTable]
  cases ha : s.workbook.activeTable? with
  | none => exact does_refuse command _
  | some t => exact h t ha

theorem does_tableRefusal (command : Command) (cause : TableError) :
    s.Does (s.tableRefusal cause) command := by
  cases cause <;> exact does_refuse command _

theorem does_changed {after : Except TableError Table} (edits : command.kind = .edit)
    (active : s.workbook.activeTable? = some t) (h : ∀ made, after = .ok made → t.Edit made)
    (message : String) : s.Does (s.changed after message) command := by
  cases after with
  | error cause => exact does_tableRefusal command cause
  | ok made => exact .edited edits active (.single (h made rfl)) rfl ⟨_, rfl, rfl⟩

theorem does_withValue {expression : String} {run : Float → Outcome}
    (h : command.kind = .edit ∨ command.kind = .answer)
    (run_does : ∀ value, s.Does (run value) command) :
    s.Does (s.withValue expression run) command := by
  rw [withValue]
  cases s.engine.evaluate expression s.workbook.activeTable? with
  | ok value => exact (run_does value).noting _ h
  | error failure =>
      cases failure with
      | error cause => exact (does_refuse command _).noting _ h
      | fault cause => exact does_abort command _

theorem edits_each {c : NamedChange} (h : ∀ t name, Table.Edit t (c.change t name))
    (names : List String) (t : Table) : t.Edits (c.each t names).1 := by
  induction names generalizing t with
  | nil => exact .refl
  | cons name rest ih =>
      rw [NamedChange.each]
      by_cases applies : c.applies t name = true
      · rw [if_pos applies]
        exact .head (h t name) (ih (c.change t name))
      · rw [if_neg applies]
        exact ih t

theorem does_changeEach {c : NamedChange} (edits : command.kind = .edit)
    (h : ∀ t name, Table.Edit t (c.change t name)) (names : List String) :
    s.Does (s.changeEach c names) command :=
  does_onTable fun t active =>
    .edited edits active (edits_each h names t) rfl ⟨_, rfl, rfl⟩

end Parts

/-! ## Commands -/

section Commands

variable (s : Session)

theorem does_createTable (table : String) : s.Does (s.createTable table) (.createTable table) := by
  rw [createTable]
  split
  · exact does_refuse _ _
  · next named =>
      cases h : s.workbook.switchTo table with
      | ok w => exact .chosenAgain (by simpa using named) h rfl ⟨_, rfl, rfl⟩ rfl
      | error cause =>
          exact .created (Workbook.hasTable_of_switchTo h) rfl ⟨_, rfl, rfl⟩
            ⟨_, rfl, List.mem_cons_self, rfl⟩

theorem does_deleteTable (table : String) : s.Does (s.deleteTable table) (.deleteTable table) := by
  rw [deleteTable]
  split
  · exact .deleted rfl ⟨_, rfl, rfl⟩ ⟨_, rfl, List.mem_cons_self, rfl⟩
  · exact does_refuse _ _

theorem does_switchTable (table : String) : s.Does (s.switchTable table) (.switchTable table) := by
  rw [switchTable]
  cases h : s.workbook.switchTo table with
  | ok w => exact .switched h rfl ⟨_, rfl, rfl⟩ ⟨_, rfl, List.mem_cons_self, rfl⟩
  | error cause => exact does_refuse _ _

theorem does_copyTable (source destination : String) :
    s.Does (s.copyTable source destination) (.copyTable source destination) := by
  rw [copyTable]
  cases h : s.workbook.copy source destination with
  | ok w => exact .copied h rfl ⟨_, rfl, rfl⟩ ⟨_, rfl, List.mem_cons_self, rfl⟩
  | error cause => cases cause <;> exact does_refuse _ _

theorem does_showTable : s.Does s.showTable .showTable := by
  rw [showTable]
  cases s.workbook.activeTable? with
  | none => exact does_refuse _ _
  | some t =>
      dsimp only
      split <;> exact does_answer rfl _ _

theorem does_listTables : s.Does s.listTables .listTables := by
  rw [listTables]
  split <;> exact does_answer rfl _ _

theorem does_setCell (row column value : String) :
    s.Does (s.setCell row column value) (.setCell row column value) := by
  refine does_onTable fun t active => ?_
  have stored (text : String) :
      s.Does (s.storeCell t row column text) (.setCell row column value) :=
    does_changed rfl active (fun _ => .setCell) _
  cases t.getCell row column with
  | error cause => exact does_tableRefusal _ cause
  | ok content =>
      cases afterMark? s.settings.marker value with
      | none => exact stored value
      | some expression => exact does_withValue (.inl rfl) fun _ => stored _

theorem does_calculate (expression : String) :
    s.Does (s.calculate expression) (.calculate expression) :=
  does_withValue (.inr rfl) fun _ => does_answer rfl _ none

theorem does_defineConstant (name value : String) :
    s.Does (s.defineConstant name value) (.defineConstant name value) := by
  rw [defineConstant]
  cases Numeral.parse? value with
  | none => exact does_refuse _ _
  | some numeral =>
      dsimp only
      cases h : s.engine.register name numeral.toFloat with
      | error cause => exact does_refuse _ _
      | ok engine => exact .defined h rfl ⟨_, rfl, rfl⟩ ⟨_, rfl, List.mem_cons_self, rfl⟩

theorem does_exportTable (file : String) : s.Does (s.exportTable file) (.exportTable file) := by
  refine does_onTable fun t _ => ?_
  dsimp only
  cases t.exportTo s.store (s.resolve file) s.settings.rowHeader with
  | mk store refusal =>
      cases refusal with
      | none => exact .same rfl (.inr rfl) fun other => absurd rfl (other file)
      | some cause =>
          cases cause <;> exact .same rfl (.inr rfl) fun other => absurd rfl (other file)

theorem does_importTable (file : String) : s.Does (s.importTable file) (.importTable file) := by
  rw [importTable]
  cases h : Table.importFrom s.store (s.resolve file) none s.settings.rowHeader with
  | ok t => exact .imported h rfl rfl ⟨_, rfl, List.mem_cons_self, rfl⟩
  | error cause => cases cause <;> first | exact does_refuse _ _ | exact does_abort _ _

theorem does_help (topic : Option String) : s.Does (s.help topic) (.help topic) := by
  rw [help]
  split <;> exact does_answer rfl _ _

theorem does_execute (command : Command) : s.Does (s.execute command) command := by
  cases command with
  | createTable table => exact does_createTable s table
  | deleteTable table => exact does_deleteTable s table
  | switchTable table => exact does_switchTable s table
  | copyTable source destination => exact does_copyTable s source destination
  | showTable => exact does_showTable s
  | listTables => exact does_listTables s
  | addRows rows => exact does_changeEach rfl Table.Edit.addRow rows
  | deleteRows rows => exact does_changeEach rfl Table.Edit.deleteRow rows
  | addColumns columns => exact does_changeEach rfl Table.Edit.addColumn columns
  | deleteColumns columns => exact does_changeEach rfl Table.Edit.deleteColumn columns
  | fillRow row values =>
      exact does_onTable fun t active => does_changed rfl active (fun _ => .fillRow) _
  | fillColumn column values =>
      exact does_onTable fun t active => does_changed rfl active (fun _ => .fillColumn) _
  | setCell row column value => exact does_setCell s row column value
  | renameRow old new =>
      exact does_onTable fun t active => does_changed rfl active (fun _ => .renameRow) _
  | renameColumn old new =>
      exact does_onTable fun t active => does_changed rfl active (fun _ => .renameColumn) _
  | exportTable file => exact does_exportTable s file
  | importTable file => exact does_importTable s file
  | calculate expression => exact does_calculate s expression
  | defineConstant name value => exact does_defineConstant s name value
  | help topic => exact does_help s topic

end Commands

/-! ## Requests -/

inductive Request.Asks (command : Command) : Request → Prop where
  | command : Asks command (.command command)
  | line {line : String} (h : Command.parse? line = some command) : Asks command (.line line)

theorem respond_of_asks (s : Session) {request : Request} {command : Command}
    (asks : request.Asks command) : s.respond request = s.execute command := by
  cases asks with
  | command => rfl
  | line h => rw [respond, runLine, h]

theorem does_of_asks (s : Session) {request : Request} {command : Command}
    (asks : request.Asks command) : s.Does (s.respond request) command :=
  respond_of_asks s asks ▸ does_execute s command

/-- A request asks for one command and does what that does, or changes nothing. -/
theorem does_or_same (s : Session) (request : Request) :
    (∃ command, request.Asks command ∧ s.Does (s.respond request) command) ∨
      (∀ command, ¬ request.Asks command) ∧ (s.respond request).session = s := by
  cases request with
  | command command => exact .inl ⟨command, .command, does_execute s command⟩
  | unknown kind =>
      refine .inr ⟨fun command asks => ?_, rfl⟩
      cases asks
  | line line =>
      cases h : Command.parse? line with
      | some command =>
          have asks : Request.Asks command (.line line) := .line h
          exact .inl ⟨command, asks, does_of_asks s asks⟩
      | none =>
          refine .inr ⟨fun command asks => ?_, by rw [respond, runLine, h]⟩
          cases asks with
          | line parsed =>
              rw [h] at parsed
              cases parsed

/-! ## Changes -/

/-- What a request may lead to: nothing new but files, or a success that changes the workbook or
gives a constant a value. -/
inductive Leads (s : Session) (o : Outcome) : Prop where
  | same (hs : o.session = { s with store := o.session.store })
  | changed {w : Workbook} {r : Reply} (change : s.workbook.Change w)
      (hs : o.session = s.withWorkbook w) (hr : o.reply = .ok r) (ok : r.ok = true)
  | defined {engine : Formula.Engine} {name : String} {value : Float} {r : Reply}
      (h : s.engine.register name value = .ok engine) (hs : o.session = { s with engine })
      (hr : o.reply = .ok r) (ok : r.ok = true)

theorem leads_of_change {s : Session} {o : Outcome} {w : Workbook} (change : s.workbook.Change w)
    (hs : o.session = s.withWorkbook w) (ok : o.Succeeded) : s.Leads o := by
  obtain ⟨r, hr, ok⟩ := ok
  exact .changed change hs hr ok

theorem Does.leads {s : Session} {o : Outcome} {command : Command} (does : s.Does o command) :
    s.Leads o := by
  cases does with
  | same hs => exact .same hs
  | edited _ active made hs ok => exact leads_of_change (.edit active made) hs ok
  | created _ hs ok => exact leads_of_change (.create _) hs ok
  | chosenAgain _ h hs ok | switched h hs ok => exact leads_of_change (.switch h) hs ok
  | deleted hs ok => exact leads_of_change (.delete _) hs ok
  | copied h hs ok => exact leads_of_change (.copy h) hs ok
  | imported h hs hr => exact .changed (.load h) hs hr rfl
  | defined h hs ok =>
      obtain ⟨r, hr, ok⟩ := ok
      exact .defined h hs hr ok

theorem leads_respond (s : Session) (request : Request) : s.Leads (s.respond request) := by
  rcases does_or_same s request with ⟨_, _, does⟩ | ⟨_, hs⟩
  · exact does.leads
  · exact .same (by rw [hs])

/-! ## Failure -/

/-- A request that fails leaves the workbook, the constants and all else but files as they were. -/
theorem session_respond_of_failed (s : Session) (request : Request)
    (failed : (s.respond request).Failed) :
    (s.respond request).session = { s with store := (s.respond request).session.store } := by
  cases leads_respond s request with
  | same hs => exact hs
  | changed _ _ hr ok =>
      rw [failed _ hr] at ok
      cases ok
  | defined _ _ hr ok =>
      rw [failed _ hr] at ok
      cases ok

theorem session_respond_of_failed_setCell :
    ∃ s : Session, s.workbook.activeTable? = some ⟨"T", ["c"], Catalog.empty.put ⟨"r", ["1"]⟩⟩ ∧
      (s.respond (.command (.setCell "r" "c" "=1 + x"))).Failed ∧
      (s.respond (.command (.setCell "r" "c" "=1 + x"))).session =
        { s with store := (s.respond (.command (.setCell "r" "c" "=1 + x"))).session.store } := by
  have lexed : Formula.Engine.standard.tokenize "1 + x" =
      .ok [.number "1", Formula.Operator.add.token, .name "x"] := by
    change Formula.tokenize false "1 + x" = _
    decide +kernel
  let t : Table := ⟨"T", ["c"], Catalog.empty.put ⟨"r", ["1"]⟩⟩
  let s : Session :=
    ⟨⟨Catalog.empty.put ⟨"T", t⟩, some "T"⟩, .standard, .defaults, ⟨"/", []⟩, Store.empty []⟩
  have hvalue : s.engine.evaluate "1 + x" s.workbook.activeTable? =
      .error (.error (.unrecognizedToken "x")) := by
    rw [show s.engine = .standard from rfl, Formula.evaluate_eq lexed]
    rfl
  have failed : (s.respond (.command (.setCell "r" "c" "=1 + x"))).Failed := by
    have active : s.workbook.activeTable? = some t := rfl
    have found : t.getCell "r" "c" = .ok "1" := rfl
    have marked : afterMark? Settings.defaults.marker "=1 + x" = some "1 + x" := by decide
    intro r hr
    simp only [respond, execute, setCell, onTable, active, found,
      show s.settings = .defaults from rfl, marked, withValue] at hr
    rw [← active, hvalue] at hr
    cases hr
    rfl
  exact ⟨s, rfl, failed, session_respond_of_failed s _ failed⟩

end Session

end Wordsheet
